-- A try block that releases a lock at its end is credited with it if the lock was taken before the
-- block or by its first statement. The credit is for all of the block and its handlers. A set never
-- loses a lock, so a release inside the block does not end the credit.
import LockDiscipline.Proofs.Pending
import LockDiscipline.Proofs.Places

namespace LockDiscipline

open Piece (Occurrence)

/-- A step into a try block or into one of its handlers. -/
def Step.IntoTry (body : List Stmt) (atEnd : Option (List Stmt)) (step : Step) : Prop :=
  step = .attempt body atEnd ∨ ∃ name type, step = .handler body atEnd name type

namespace Setting

variable (setting : Setting)

/-! ## What holds where a block begins -/

/-- The locals at the end of a path, from those where it starts. -/
def localsAt (locals : Locals) (path : Path) : Locals :=
  path.foldr (fun step locals => setting.localsInto locals step) locals

theorem locals_placeAt (start : Place) (path : Path) :
    (setting.placeAt start path).locals = setting.localsAt start.locals path := by
  induction path with
  | nil => rfl
  | cons step path ih =>
    rw [placeAt_cons, into, ih]
    rfl

/-- A lock was taken by a statement of the same block before the end of a path, and no statement
between released it. -/
def TakenBefore (locals : Locals) (lock : Guard) : Path → Prop
  | .behind before :: block =>
    setting.Since (setting.Takes lock) (setting.ReleasesAsStatement lock)
      (setting.localsAt locals block) before
  | _ => False

theorem contains_pending_placeAt_iff (locals : Locals) (held : HeldSet) (path : Path)
    (lock : Guard) :
    (setting.placeAt (.opening locals held) path).pending.contains lock = true ↔
      setting.TakenBefore locals lock path := by
  cases path with
  | nil => simp [Place.opening, TakenBefore]
  | cons step block =>
    cases step with
    | behind before =>
      have hlocals := setting.locals_placeAt (.opening locals held) block
      rw [placeAt_cons, into, pendingInto, hlocals, contains_pendingAfter_iff]
      rfl
    | _ => simp [into, pendingInto, TakenBefore]

/-! ## Credit -/

/-- The first statement of a block takes a lock. -/
def TakenFirst (lock : Guard) (locals : Locals) (body : List Stmt) : Prop :=
  ∃ first ∈ body.head?, setting.Takes lock locals first

theorem contains_first_iff (lock : Guard) (locals : Locals) (body : List Stmt) :
    (body.head?.bind (setting.acquired locals)).toList.contains lock = true ↔
      setting.TakenFirst lock locals body := by
  rw [List.contains_iff_exists_mem_beq]
  simp only [Option.mem_toList, Option.mem_def, Option.bind_eq_some_iff, TakenFirst, Takes]
  constructor
  · rintro ⟨taken, ⟨first, hfirst, hacq⟩, heq⟩
    exact ⟨first, hfirst, taken, hacq, heq⟩
  · rintro ⟨first, hfirst, taken, hacq, heq⟩
    exact ⟨taken, ⟨first, hfirst, hacq⟩, heq⟩

theorem contains_credited_iff (lock : Guard) (locals : Locals) (pending : List Guard)
    (body : List Stmt) (atEnd : Option (List Stmt)) :
    (setting.credited locals pending body atEnd).contains lock = true ↔
      (setting.released locals (atEnd.getD [])).contains lock = true ∧
        (pending.contains lock = true ∨ setting.TakenFirst lock locals body) := by
  rw [← contains_first_iff, ← Bool.or_eq_true, ← List.contains_append]
  unfold credited
  rw [List.contains_iff_exists_mem_beq, List.contains_iff_exists_mem_beq]
  constructor
  · rintro ⟨other, hother, heq⟩
    obtain ⟨hmem, htaken⟩ := List.mem_filter.mp hother
    exact ⟨⟨other, hmem, heq⟩, (List.contains_congr heq).trans htaken⟩
  · rintro ⟨⟨other, hmem, heq⟩, htaken⟩
    exact ⟨other, List.mem_filter.mpr ⟨hmem, (List.contains_congr heq).symm.trans htaken⟩, heq⟩

/-- A try block that stands at a place is credited with a lock. -/
def Credits (lock : Guard) (place : Place) (body : List Stmt) (atEnd : Option (List Stmt)) : Prop :=
  (setting.credited place.locals place.pending body atEnd).contains lock = true

/-- What the end of a try block releases does not stay taken behind the block. -/
theorem not_contains_track_of_atEnd {lock : Guard} {locals : Locals} {atEnd : Option (List Stmt)}
    {body : List Stmt} (h : ∃ stmt ∈ atEnd.getD [], setting.ReleasesAsStatement lock locals stmt)
    (pending : List Guard) (catches : List CatchClause) (span : Span) :
    (setting.track locals pending (.tryBlock body catches atEnd span)).contains lock = false := by
  obtain ⟨stmt, hstmt, expr, hin, hexpr⟩ := h
  -- The call at the end stands inside the whole statement as well.
  have hwhole : setting.ReleasesAsStatement lock locals (.tryBlock body catches atEnd span) := by
    refine ⟨expr, ?_, hexpr⟩
    cases atEnd with
    | none => cases hstmt
    | some stmts =>
      have hpart : (.within, .block stmts) ∈
          Piece.ofStmt (.tryBlock body catches (some stmts) span) :=
        List.mem_append_right _ (List.mem_singleton_self _)
      exact .within hpart (.among hstmt hin)
  rw [Bool.eq_false_iff]
  intro hpending
  rcases (setting.contains_track_iff ..).mp hpending with htakes | ⟨-, hkept⟩
  · obtain ⟨expr, heq, -⟩ := setting.evaluate_of_takes htakes
    cases heq
  · exact hkept hwhole

/-! ## Held locks stay held -/

theorem holds_insideTry (held : HeldSet) (credited : List Guard) (lock : Guard) :
    (insideTry held credited).holds lock = (held.holds lock || credited.contains lock) := by
  unfold insideTry
  split
  · rename_i h
    rw [List.isEmpty_iff.mp h, List.contains_nil, Bool.or_false]
  · rw [HeldSet.holds_plusAll, HeldSet.holds_enter]

/-- No step but the one into a lambda drops a lock. -/
theorem holds_into {step : Step} {place : Place} {lock : Guard} (hstep : step.isLambda = false)
    (h : place.held.holds lock = true) : (setting.into step place).held.holds lock = true := by
  cases step with
  | within | behind _ | setUp _ | binding _ _ => exact h
  | monitor monitor =>
    change (place.held.enter.plusAll [setting.canonical place.locals monitor]).holds lock = true
    rw [HeldSet.holds_plusAll, HeldSet.holds_enter, h, Bool.true_or]
  | attempt body atEnd =>
    exact (holds_insideTry ..).trans (by rw [h, Bool.true_or])
  | handler body atEnd name type =>
    exact (holds_insideTry ..).trans (by rw [h, Bool.true_or])
  | lambda params => cases hstep

theorem holds_placeAt_append {start : Place} {inner path : Path} {lock : Guard}
    (hinner : ∀ step ∈ inner, step.isLambda = false)
    (h : (setting.placeAt start path).held.holds lock = true) :
    (setting.placeAt start (inner ++ path)).held.holds lock = true := by
  induction inner with
  | nil => exact h
  | cons step inner ih =>
    rw [List.cons_append, placeAt_cons]
    exact setting.holds_into (hinner step List.mem_cons_self)
      (ih fun s hs => hinner s (List.mem_cons_of_mem _ hs))

theorem holds_intoTry {step : Step} {place : Place} {lock : Guard} {body : List Stmt}
    {atEnd : Option (List Stmt)} (hstep : step.IntoTry body atEnd)
    (h : setting.Credits lock place body atEnd) :
    (setting.into step place).held.holds lock = true := by
  have hinside : (insideTry place.held
      (setting.credited place.locals place.pending body atEnd)).holds lock = true := by
    rw [holds_insideTry, h, Bool.or_true]
  rcases hstep with rfl | ⟨name, type, rfl⟩
  · exact hinside
  · exact hinside

/-- Whatever is read in a try block or in a handler of it, outside lambdas, is read while the locks
are held that the block is credited with. -/
theorem holds_of_credits {start : Place} {inner path : Path} {step : Step} {expr : Expr}
    {access : Access} {lock : Guard} {body : List Stmt} {atEnd : Option (List Stmt)}
    (h : setting.Credits lock (setting.placeAt start path) body atEnd)
    (hstep : step.IntoTry body atEnd) (hinner : ∀ s ∈ inner, s.isLambda = false)
    (haccess : setting.accessAt start ⟨inner ++ step :: path, expr⟩ = some access) :
    access.held.holds lock = true := by
  rw [setting.held_of_accessAt haccess]
  exact setting.holds_placeAt_append hinner (setting.holds_intoTry hstep h)

/-! ## Throughout the block -/

/-- Where a try block is credited with a lock that is not held outside, no access in the block that
holds the lock stands behind a statement of the block that releases it. -/
def NoAccessBehindRelease : Prop :=
  ∀ (locals : Locals) (held : HeldSet) (path : Path) (body : List Stmt)
    (atEnd : Option (List Stmt)) (lock : Guard),
    let place := setting.placeAt (.opening locals held) path
    setting.Credits lock place body atEnd → place.held.holds lock = false →
      ∀ (before : List Stmt) (inner : Path) (expr : Expr) (access : Access),
        let occurrence : Occurrence :=
          ⟨inner ++ .behind before :: .attempt body atEnd :: path, expr⟩
        occurrence ∈ (Piece.block body).occurrences (.attempt body atEnd :: path) →
        (∀ step ∈ inner, step.isLambda = false) →
        setting.accessAt (.opening locals held) occurrence = some access →
        access.held.holds lock = true →
          ∀ earlier s rest, before = earlier ++ s :: rest →
            ¬ setting.ReleasesAsStatement lock (setting.afterAll place.locals earlier) s

/-- A lock that a try block is credited with was taken before the block and not released in between,
or is taken by its first statement, and the end of the block releases it. Every access in the block
and its handlers holds it, but for those in lambdas, and those behind a release in the block hold it
too. Behind the block it is not taken any more. -/
theorem a_credited_lock_is_held_throughout (locals : Locals) (held : HeldSet) (path : Path)
    (body : List Stmt) (atEnd : Option (List Stmt)) (lock : Guard)
    (h : setting.Credits lock (setting.placeAt (.opening locals held) path) body atEnd) :
    (setting.TakenBefore locals lock path ∨
        setting.TakenFirst lock (setting.localsAt locals path) body) ∧
      (∃ stmt ∈ atEnd.getD [],
        setting.ReleasesAsStatement lock (setting.localsAt locals path) stmt) ∧
      (∀ (step : Step) (inner : Path) (expr : Expr) (access : Access), step.IntoTry body atEnd →
        (∀ s ∈ inner, s.isLambda = false) →
        setting.accessAt (.opening locals held) ⟨inner ++ step :: path, expr⟩ = some access →
          access.held.holds lock = true) ∧
      ∀ (pending : List Guard) (catches : List CatchClause) (span : Span),
        (setting.track (setting.localsAt locals path) pending
          (.tryBlock body catches atEnd span)).contains lock = false := by
  have hlocals := setting.locals_placeAt (.opening locals held) path
  obtain ⟨hreleased, htaken⟩ := (setting.contains_credited_iff ..).mp h
  rw [hlocals, contains_released_iff] at hreleased
  rw [hlocals, contains_pending_placeAt_iff] at htaken
  refine ⟨htaken, hreleased, ?_, ?_⟩
  · intro step inner expr access hstep hinner haccess
    exact setting.holds_of_credits h hstep hinner haccess
  · intro pending catches span
    exact setting.not_contains_track_of_atEnd hreleased pending catches span

end Setting

namespace Counter

/-- Releases `mu`, and then reads `x`. -/
def releasesEarly : List Stmt := [.evaluate (onMu "unlock"), readX]

/-- The statements at the end of a block that releases `mu`. -/
def unlocks : Option (List Stmt) := some [.evaluate (onMu "unlock")]

def readsBehindRelease : MethodDecl :=
  method [] none [.evaluate (onMu "lock"), releasing releasesEarly]

/-- The way to the block that releases `mu` early. -/
def toTry : Path := [.behind [.evaluate (onMu "lock")]]

/-- The way to `x` in that block. -/
def toX : Path := [.within, .behind [.evaluate (onMu "unlock")]]

/-- `x` at its place in the method. -/
def xInTry : Occurrence :=
  ⟨toX ++ .attempt releasesEarly unlocks :: toTry, .name "x" .unknown⟩

theorem credits_mu :
    let setting := setting [readsBehindRelease] readsBehindRelease
    setting.Credits mu (setting.placeAt (.opening [] .empty) toTry) releasesEarly unlocks := by
  intro setting
  unfold Setting.Credits
  decide +kernel

theorem exists_access_of_x :
    let setting := setting [readsBehindRelease] readsBehindRelease
    ∃ access, setting.accessAt (.opening [] .empty) xInTry = some access := by
  intro setting
  rw [← Option.isSome_iff_exists]
  decide +kernel

theorem the_credit_outlasts_a_release :
    let setting := setting [readsBehindRelease] readsBehindRelease
    setting.Credits mu (setting.placeAt (.opening [] .empty) toTry) releasesEarly unlocks ∧
      ∃ access, setting.accessAt (.opening [] .empty) xInTry = some access ∧
        access.held.holds mu = true := by
  intro setting
  obtain ⟨access, haccess⟩ := exists_access_of_x
  have hthroughout := setting.a_credited_lock_is_held_throughout _ _ _ _ _ _ credits_mu
  exact ⟨credits_mu, access, haccess,
    hthroughout.2.2.1 _ toX _ access (Or.inl rfl) (by decide) haccess⟩

theorem an_access_may_stand_behind_a_release :
    let setting := setting [readsBehindRelease] readsBehindRelease
    (setting.accesses readsBehindRelease).map (·.held.locks) = [[mu]] ∧
      ¬ setting.NoAccessBehindRelease := by
  intro setting
  refine ⟨by decide +kernel, fun h => ?_⟩
  obtain ⟨access, haccess⟩ := exists_access_of_x
  have hholds : access.held.holds mu = true :=
    setting.holds_of_credits credits_mu (Or.inl rfl) (by decide) haccess
  have hread : xInTry ∈
      (Piece.block releasesEarly).occurrences (.attempt releasesEarly unlocks :: toTry) :=
    Piece.mem_occurrences_of_mem_parts (List.mem_cons_of_mem _ List.mem_cons_self)
      (Piece.mem_occurrences_of_mem_parts List.mem_cons_self (Piece.self_mem_occurrences _ _))
  have hrelease : setting.ReleasesAsStatement mu [] (.evaluate (onMu "unlock")) :=
    ⟨onMu "unlock", .here, mu, by decide +kernel, by decide⟩
  exact h [] .empty toTry releasesEarly unlocks mu credits_mu rfl _ [.within] _ access hread
    (by decide) haccess hholds [] _ [] rfl hrelease

end Counter

end LockDiscipline
