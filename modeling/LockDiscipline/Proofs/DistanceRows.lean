-- The distance of two texts is found row by row in a table of the distances of all beginnings. An
-- entry follows from the three before it as the least number of changes does, told from the end of
-- the texts, so the last entry is that number. Two rows that are swapped after each character hold
-- all that is needed: whatever is left of an older row is written over before it is read.
import LockDiscipline.Proofs.EditScripts
import LockDiscipline.Text.Similar
import Mathlib.Data.List.Induction

namespace LockDiscipline.Text

/-! ## Rows of distances -/

/-- How far a text is from what is read of another and from every longer beginning of that. The text
and what is read are given with their last characters first. -/
def rowFrom (text read : List Char) : List Char → List Nat
  | [] => [apart text read]
  | d :: rest => apart text read :: rowFrom text (d :: read) rest

theorem exists_cons_rowFrom (text read rest : List Char) :
    ∃ row, rowFrom text read rest = apart text read :: row := by
  cases rest with
  | nil => exact ⟨[], rfl⟩
  | cons d rest => exact ⟨rowFrom text (d :: read) rest, rfl⟩

theorem length_rowFrom (text read rest : List Char) :
    (rowFrom text read rest).length = rest.length + 1 := by
  induction rest generalizing read with
  | nil => rfl
  | cons d rest ih => rw [rowFrom, List.length_cons, ih, List.length_cons]

/-- The last entry of a row. -/
theorem getD_length_rowFrom (text read rest : List Char) :
    (rowFrom text read rest).getD rest.length 0 = apart text (rest.reverse ++ read) := by
  induction rest generalizing read with
  | nil => rfl
  | cons d rest ih =>
    rw [rowFrom, List.length_cons, List.getD_cons_succ, ih]
    simp

/-- From the empty text, a beginning is as far as it is long. -/
theorem rowFrom_nil (read rest : List Char) :
    rowFrom [] read rest = List.range' read.length (rest.length + 1) := by
  induction rest generalizing read with
  | nil => simp [rowFrom]
  | cons d rest ih =>
    rw [rowFrom, ih, apart_nil_left]
    exact List.range'_succ.symm

/-- What is written behind an entry are the entries that follow it. -/
theorem cons_restOfRow (c : Char) (text read rest : List Char) :
    apart (c :: text) read ::
        restOfRow c (apart (c :: text) read) rest (rowFrom text read rest) =
      rowFrom (c :: text) read rest := by
  induction rest generalizing read with
  | nil => rfl
  | cons d rest ih =>
    obtain ⟨row, hrow⟩ := exists_cons_rowFrom text (d :: read) rest
    rw [rowFrom, rowFrom, hrow, restOfRow, ← apart_cons_cons, ← hrow, ih]

theorem nextRow_rowFrom (c : Char) (text target : List Char) :
    nextRow target (rowFrom text [] target) c = rowFrom (c :: text) [] target := by
  obtain ⟨row, hrow⟩ := exists_cons_rowFrom text [] target
  have hfirst : (rowFrom text [] target).headD 0 + 1 = apart (c :: text) [] := by
    simp [hrow]
  rw [nextRow, hfirst, cons_restOfRow]

theorem distanceRow_concat (target text : List Char) (c : Char) :
    distanceRow target (text ++ [c]) = nextRow target (distanceRow target text) c := by
  simp [distanceRow]

theorem distanceRow_eq (target text : List Char) :
    distanceRow target text = rowFrom text.reverse [] target := by
  induction text using List.reverseRecOn with
  | nil =>
    rw [List.reverse_nil, rowFrom_nil, List.length_nil, ← List.range_eq_range']
    rfl
  | append_singleton text c ih =>
    rw [distanceRow_concat, ih, nextRow_rowFrom, List.reverse_concat]

theorem length_distanceRow (target text : List Char) :
    (distanceRow target text).length = target.length + 1 := by
  rw [distanceRow_eq, length_rowFrom]

theorem headD_distanceRow (target text : List Char) :
    (distanceRow target text).headD 0 = text.length := by
  obtain ⟨row, hrow⟩ := exists_cons_rowFrom text.reverse [] target
  rw [distanceRow_eq, hrow]
  simp

theorem getD_length_distanceRow (target text : List Char) :
    (distanceRow target text).getD target.length 0 = apart text target := by
  rw [distanceRow_eq, getD_length_rowFrom, List.append_nil, apart_reverse]

theorem distance_eq_apart (a b : List Char) : distance a b = apart a b := by
  have hlast : (distanceRow b a).length - 1 = b.length := by
    rw [length_distanceRow, Nat.add_sub_cancel]
  rw [← getD_length_distanceRow, distance, List.getLastD_eq_getLast?, List.getLast?_eq_getElem?,
    hlast, List.getD_eq_getElem?_getD]

/-! ## Two rows that are swapped -/

/-- The row of distances that was found last, and one that is written over. -/
structure Rows where
  previous : List Nat
  current : List Nat

namespace Rows

/-- Writes over the entries of a row from a place on, one for each character that is given. -/
def fill (c : Char) (previous : List Nat) : Nat → List Char → List Nat → List Nat
  | _, [], current => current
  | j, d :: rest, current =>
    let entry :=
      min (min (previous.getD j 0 + 1) (current.getD (j - 1) 0 + 1))
        (previous.getD (j - 1) 0 + if c = d then 0 else 1)
    fill c previous (j + 1) rest (current.set j entry)

/-- The rows before the first character. -/
def start (target : List Char) : Rows where
  previous := List.range (target.length + 1)
  current := List.replicate (target.length + 1) 0

/-- The rows after one more character, which is given with its number. -/
def turn (target : List Char) (rows : Rows) (next : Char × Nat) : Rows where
  previous := fill next.1 rows.previous 1 target (rows.current.set 0 next.2)
  current := rows.previous

/-- The distance of two texts from two rows. One of them is not needed where a text is empty. -/
def distance (a b : List Char) : Nat :=
  if a.length = 0 then b.length
  else if b.length = 0 then a.length
  else ((a.zipIdx 1).foldl (turn b) (start b)).previous.getD b.length 0

/-- What stands behind the entries that are written has no say. -/
theorem fill_eq (c : Char) (left : Nat) (before row front stale : List Nat) (rest : List Char)
    (hbefore : before.length = front.length) (hrow : row.length = rest.length + 1)
    (hstale : stale.length = rest.length) :
    fill c (before ++ row) (front.length + 1) rest (front ++ left :: stale) =
      front ++ left :: restOfRow c left rest row := by
  -- `front` and `left` are written already, and `stale` is what an older row has left behind them.
  induction rest generalizing left before row front stale with
  | nil =>
    rw [List.eq_nil_of_length_eq_zero hstale]
    rfl
  | cons d rest ih =>
    obtain ⟨diagonal, row, rfl⟩ := List.exists_cons_of_length_eq_add_one hrow
    obtain ⟨up, row, rfl⟩ := List.exists_cons_of_length_eq_add_one (Nat.succ.inj hrow)
    obtain ⟨old, stale, rfl⟩ := List.exists_cons_of_length_eq_add_one hstale
    have hup : (before ++ diagonal :: up :: row).getD (front.length + 1) 0 = up := by
      simp [← hbefore]
    have hdiagonal : (before ++ diagonal :: up :: row).getD front.length 0 = diagonal := by
      simp [← hbefore]
    have hleft : (front ++ left :: old :: stale).getD front.length 0 = left := by
      simp
    have hset (entry : Nat) : (front ++ left :: old :: stale).set (front.length + 1) entry =
        (front ++ [left]) ++ entry :: stale := by
      simp [List.set_append_right]
    rw [fill, restOfRow, Nat.add_sub_cancel, hup, hdiagonal, hleft, hset]
    have hnext := ih (min (min (up + 1) (left + 1)) (diagonal + if c = d then 0 else 1))
      (before ++ [diagonal]) (up :: row) (front ++ [left]) stale (by simp [hbefore])
      (Nat.succ.inj hrow) (Nat.succ.inj hstale)
    simpa using hnext

/-- The previous row is that of a text, and there is room for another. -/
structure At (target text : List Char) (rows : Rows) : Prop where
  previous_eq : rows.previous = distanceRow target text
  room : rows.current.length = target.length + 1

variable {target text : List Char} {rows : Rows}

theorem at_start (target : List Char) : At target [] (start target) where
  previous_eq := rfl
  room := List.length_replicate

theorem At.turn (h : At target text rows) (c : Char) :
    At target (text ++ [c]) (rows.turn target (c, text.length + 1)) where
  previous_eq := by
    obtain ⟨old, stale, hcurrent⟩ := List.exists_cons_of_length_eq_add_one h.room
    have hstale : stale.length = target.length := by
      have hroom := h.room
      rw [hcurrent] at hroom
      exact Nat.succ.inj hroom
    have hfill := fill_eq c (text.length + 1) [] (distanceRow target text) [] stale target rfl
      (length_distanceRow target text) hstale
    rw [distanceRow_concat, nextRow, headD_distanceRow, Rows.turn, h.previous_eq, hcurrent]
    exact hfill
  room := by
    rw [Rows.turn, h.previous_eq, length_distanceRow]

theorem At.turns (h : At target text rows) (more : List Char) :
    At target (text ++ more) ((more.zipIdx (text.length + 1)).foldl (Rows.turn target) rows) := by
  induction more generalizing text rows with
  | nil => simpa using h
  | cons c more ih =>
    have hnext := ih (h.turn c)
    rw [List.length_append, List.length_singleton, List.append_assoc, List.singleton_append]
      at hnext
    exact hnext

/-- Two rows are enough for the whole table. -/
theorem distance_eq (a b : List Char) : distance a b = Text.distance a b := by
  rw [distance_eq_apart]
  unfold distance
  split
  · rename_i ha
    rw [List.eq_nil_of_length_eq_zero ha, apart_nil_left]
  · split
    · rename_i hb
      rw [List.eq_nil_of_length_eq_zero hb, apart_nil_right]
    · have hrows : At b a ((a.zipIdx 1).foldl (Rows.turn b) (start b)) := (at_start b).turns a
      rw [hrows.previous_eq, getD_length_distanceRow]

end Rows

/-! ## The distance -/

/-- The distance of two names is the least number of characters to put in, take out or replace that
turns one into the other, and it is found with two rows. So only equal names are at distance zero,
there and back it is equally far, and no way over a third name is shorter. -/
theorem the_distance_is_the_least_number_of_changes (a b : String) :
    IsLeast {count | EditedIn count a.toList b.toList} (distance a.toList b.toList) ∧
      Rows.distance a.toList b.toList = distance a.toList b.toList ∧
      (distance a.toList b.toList = 0 ↔ a = b) ∧
      distance a.toList b.toList = distance b.toList a.toList ∧
      ∀ c : String, distance a.toList c.toList ≤
        distance a.toList b.toList + distance b.toList c.toList := by
  simp only [Rows.distance_eq, distance_eq_apart]
  refine ⟨isLeast_apart _ _, trivial, ?_, apart_comm _ _, fun c => apart_triangle _ _ _⟩
  rw [apart_eq_zero_iff, String.toList_inj]

end LockDiscipline.Text
