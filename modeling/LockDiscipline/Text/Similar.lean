-- A name that nothing carries is often a known name with a slip in it. How far two names are
-- apart is the least number of characters to insert, delete or replace, and the nearest names
-- are offered.

namespace LockDiscipline.Text

/-! ## The distance of two texts -/

/-- The rest of a row of distances. The given list is the row before from the place left of the next
entry on, and `left` is the entry just written. -/
def restOfRow (c : Char) (left : Nat) : List Char → List Nat → List Nat
  | d :: ds, diagonal :: up :: row =>
    let entry := min (min (up + 1) (left + 1)) (diagonal + if c = d then 0 else 1)
    entry :: restOfRow c entry ds (up :: row)
  | _, _ => []

/-- The distances of a text to every beginning of `target`, from those of the same text without its
last character `c`. -/
def nextRow (target : List Char) (row : List Nat) (c : Char) : List Nat :=
  (row.headD 0 + 1) :: restOfRow c (row.headD 0 + 1) target row

/-- The distances of a text to every beginning of `target`, the empty one first. -/
def distanceRow (target text : List Char) : List Nat :=
  text.foldl (nextRow target) (List.range (target.length + 1))

/-- The distance of two texts. -/
def distance (a b : List Char) : Nat := (distanceRow b a).getLastD 0

/-! ## The nearest names -/

/-- A name that may be meant, with its distance to what is written. -/
structure Candidate where
  distance : Nat
  name : String
  deriving DecidableEq, Repr

/-- Whether one candidate is offered before another: it is nearer or, at one distance, its name
comes first by code points. -/
def Candidate.precedes (a b : Candidate) : Bool :=
  a.distance < b.distance || (a.distance == b.distance && decide (a.name < b.name))

/-- Puts a candidate at its place among ranked ones. -/
def insertRanked (candidate : Candidate) : List Candidate → List Candidate
  | [] => [candidate]
  | other :: rest =>
    if other.precedes candidate then other :: insertRanked candidate rest
    else candidate :: other :: rest

/-- Candidates with the best one first. -/
def ranked (candidates : List Candidate) : List Candidate :=
  candidates.foldr insertRanked []

/-- The names within a distance of what is written, other than that itself, each once. -/
def candidates (written : String) (names : List String) (reach : Nat) : List Candidate :=
  (names.eraseDups.filter (· != written)).map
      (fun name => ⟨distance written.toList name.toList, name⟩)
    |>.filter (·.distance ≤ reach)

/-- The three best names within a distance of what is written. -/
def similar (written : String) (names : List String) (reach : Nat) : List String :=
  ((ranked (candidates written names reach)).take 3).map (·.name)

end LockDiscipline.Text
