-- A lock that a statement of a block takes by an explicit call stays taken until a later statement
-- of the block releases it. A release counts wherever it stands inside a statement, if it stands
-- there as a statement; one that a loop makes as an update is not seen, and the lock then stays
-- taken.
import LockDiscipline.Proofs.Blocks
import LockDiscipline.Proofs.HeldSet
import LockDiscipline.Proofs.Members
import LockDiscipline.Proofs.Releases
import Mathlib.Data.List.Induction

namespace LockDiscipline

open Piece (Inside)

/-- A list with one more element is cut at that element or before it. -/
theorem append_singleton_eq_iff {α : Type} {xs earlier later : List α} {x y : α} :
    xs ++ [x] = earlier ++ y :: later ↔
      (earlier = xs ∧ y = x ∧ later = []) ∨
        ∃ mid, later = mid ++ [x] ∧ xs = earlier ++ y :: mid := by
  constructor
  · intro h
    rcases List.eq_nil_or_concat later with rfl | ⟨mid, last, rfl⟩
    · obtain ⟨rfl, hx⟩ := List.append_inj' h rfl
      cases hx
      exact Or.inl ⟨rfl, rfl, rfl⟩
    · rw [List.concat_eq_append, ← List.cons_append, ← List.append_assoc] at h
      obtain ⟨rfl, hx⟩ := List.append_inj' h rfl
      cases hx
      exact Or.inr ⟨mid, List.concat_eq_append, rfl⟩
  · rintro (⟨rfl, rfl, rfl⟩ | ⟨mid, rfl, rfl⟩)
    · rfl
    · simp

namespace Setting

variable (setting : Setting)

/-! ## Taking and releasing -/

/-- A statement takes a lock by an explicit call. -/
def Takes (lock : Guard) (locals : Locals) (stmt : Stmt) : Prop :=
  ∃ taken, setting.acquired locals stmt = some taken ∧ lock == taken

/-- An expression is a call that releases a lock. -/
def IsRelease (lock : Guard) (locals : Locals) (expr : Expr) : Prop :=
  ∃ freed, setting.lockCall setting.vocabulary.releaseMethods locals expr = some freed ∧
    lock == freed

/-- A call that releases the lock stands inside a statement as a statement. Its receiver is read
with the locals in scope where the outer statement begins. -/
def ReleasesAsStatement (lock : Guard) (locals : Locals) (stmt : Stmt) : Prop :=
  ∃ expr, Inside (.evaluate expr) (.stmt stmt) ∧ setting.IsRelease lock locals expr

/-- A call that releases the lock stands inside a statement as the update of a loop. -/
def ReleasesAsUpdate (lock : Guard) (locals : Locals) (stmt : Stmt) : Prop :=
  ∃ init cond update body span, Inside (.forLoop init cond update body span) (.stmt stmt) ∧
    ∃ expr ∈ update, setting.IsRelease lock locals expr

/-- A call that releases the lock is executed for its effect somewhere inside a statement. -/
def Releases (lock : Guard) (locals : Locals) (stmt : Stmt) : Prop :=
  setting.ReleasesAsStatement lock locals stmt ∨ setting.ReleasesAsUpdate lock locals stmt

/-- The search for released locks finds those that the calls inside release as statements. -/
theorem contains_released_iff (lock : Guard) (locals : Locals) (stmts : List Stmt) :
    (setting.released locals stmts).contains lock = true ↔
      ∃ stmt ∈ stmts, setting.ReleasesAsStatement lock locals stmt := by
  have hin : ∀ expr, expr ∈ Stmt.evaluatedAll stmts ↔
      ∃ stmt ∈ stmts, Inside (.evaluate expr) (.stmt stmt) := fun expr =>
    (Piece.mem_evaluated_iff expr (.block stmts)).trans (Piece.inside_block_iff _ _)
  rw [List.contains_iff_exists_mem_beq, released]
  constructor
  · rintro ⟨freed, hmem, heq⟩
    obtain ⟨expr, hexpr, hcall⟩ := List.mem_filterMap.mp hmem
    obtain ⟨stmt, hstmt, hinside⟩ := (hin expr).mp hexpr
    exact ⟨stmt, hstmt, expr, hinside, freed, hcall, heq⟩
  · rintro ⟨stmt, hstmt, expr, hinside, freed, hcall, heq⟩
    exact ⟨freed, List.mem_filterMap.mpr ⟨expr, (hin expr).mpr ⟨stmt, hstmt, hinside⟩, hcall⟩, heq⟩

/-- Only an evaluated expression takes a lock. -/
theorem evaluate_of_takes {lock : Guard} {locals : Locals} {stmt : Stmt}
    (h : setting.Takes lock locals stmt) :
    ∃ expr, stmt = .evaluate expr ∧
      ∃ taken, setting.lockCall setting.vocabulary.acquireMethods locals expr = some taken ∧
        lock == taken := by
  obtain ⟨taken, hacq, heq⟩ := h
  cases stmt with
  | evaluate expr => exact ⟨expr, rfl, taken, hacq, heq⟩
  | _ => cases hacq

theorem not_releasesAsUpdate_of_takes {lock : Guard} {locals : Locals} {stmt : Stmt}
    (h : setting.Takes lock locals stmt) : ¬ setting.ReleasesAsUpdate lock locals stmt := by
  obtain ⟨expr, rfl, -⟩ := setting.evaluate_of_takes h
  rintro ⟨init, cond, update, body, span, hin, -⟩
  cases (Piece.inside_evaluate_iff _ _).mp hin

/-- A call names one lock, whatever its method does with it. -/
theorem lockCall_unique {methods others : List String} {locals : Locals} {expr : Expr}
    {lock other : Guard} (h : setting.lockCall methods locals expr = some lock)
    (h' : setting.lockCall others locals expr = some other) : lock = other := by
  unfold lockCall at h h'
  split at h
  · rename_i receiver method span
    dsimp only at h h'
    split at h <;> split at h' <;> simp_all
  · cases h

/-- A call takes or releases the lock that its receiver means. -/
theorem exists_canonical_of_lockCall {methods : List String} {locals : Locals} {expr : Expr}
    {lock : Guard} (h : setting.lockCall methods locals expr = some lock) :
    ∃ receiver, setting.canonical locals receiver = lock := by
  unfold lockCall at h
  split at h
  · rename_i receiver method span
    dsimp only at h
    split at h
    · cases h
      exact ⟨receiver, rfl⟩
    · cases h
  · cases h

theorem exists_canonical_of_mem_released {locals : Locals} {stmts : List Stmt} {lock : Guard}
    (h : lock ∈ setting.released locals stmts) :
    ∃ receiver, setting.canonical locals receiver = lock := by
  obtain ⟨expr, -, hcall⟩ := List.mem_filterMap.mp h
  exact setting.exists_canonical_of_lockCall hcall

/-! ## Since -/

/-- Some statement of a block starts something, and no statement behind it ends it. -/
def Since (starts ends : Locals → Stmt → Prop) (locals : Locals) (stmts : List Stmt) : Prop :=
  ∃ earlier stmt later, stmts = earlier ++ stmt :: later ∧
    starts (setting.afterAll locals earlier) stmt ∧
    ∀ mid s rest, later = mid ++ s :: rest →
      ¬ ends (setting.afterAll locals (earlier ++ stmt :: mid)) s

variable {starts ends : Locals → Stmt → Prop}

theorem not_since_nil (locals : Locals) : ¬ setting.Since starts ends locals [] := by
  rintro ⟨earlier, stmt, later, h, -⟩
  cases earlier <;> cases h

theorem since_snoc (locals : Locals) (stmts : List Stmt) (s : Stmt) :
    setting.Since starts ends locals (stmts ++ [s]) ↔
      starts (setting.afterAll locals stmts) s ∨
        (setting.Since starts ends locals stmts ∧ ¬ ends (setting.afterAll locals stmts) s) := by
  constructor
  · rintro ⟨earlier, stmt, later, hsplit, hstarts, hends⟩
    rcases append_singleton_eq_iff.mp hsplit with ⟨rfl, rfl, -⟩ | ⟨mid, rfl, rfl⟩
    · exact Or.inl hstarts
    · refine Or.inr ⟨⟨earlier, stmt, mid, rfl, hstarts, ?_⟩, hends mid s [] rfl⟩
      rintro mid' s' rest rfl
      exact hends mid' s' (rest ++ [s]) (by simp)
  · rintro (hstarts | ⟨⟨earlier, stmt, later, rfl, hstarts, hends⟩, hlast⟩)
    · refine ⟨stmts, s, [], rfl, hstarts, ?_⟩
      intro mid s' rest h
      cases mid <;> cases h
    · refine ⟨earlier, stmt, later ++ [s], by simp, hstarts, ?_⟩
      intro mid s' rest hsplit
      rcases append_singleton_eq_iff.mp hsplit with ⟨rfl, rfl, -⟩ | ⟨rest, rfl, rfl⟩
      · exact hlast
      · exact hends mid s' rest rfl

/-! ## The locks that stay taken -/

theorem contains_track_iff (lock : Guard) (locals : Locals) (pending : List Guard) (stmt : Stmt) :
    (setting.track locals pending stmt).contains lock = true ↔
      setting.Takes lock locals stmt ∨
        (pending.contains lock = true ∧ ¬ setting.ReleasesAsStatement lock locals stmt) := by
  unfold track
  cases hacq : setting.acquired locals stmt with
  | some taken =>
    have htakes : setting.Takes lock locals stmt ↔ (lock == taken) = true := by
      constructor
      · rintro ⟨taken', htaken', heq⟩
        cases hacq.symm.trans htaken'
        exact heq
      · exact fun heq => ⟨taken, hacq, heq⟩
    -- The statement is one call. If that call also releases, it releases what it takes.
    have hfree : setting.ReleasesAsStatement lock locals stmt → (lock == taken) = true := by
      rintro ⟨expr, hin, freed, hcall, heq⟩
      cases stmt with
      | evaluate expr' =>
        cases (Piece.inside_evaluate_iff _ _).mp hin
        rw [← setting.lockCall_unique hcall hacq]
        exact heq
      | _ => cases hacq
    change (withLock pending taken).contains lock = true ↔ _
    rw [contains_withLock, Bool.or_eq_true, htakes]
    by_cases heq : (lock == taken) = true
    · simp [heq]
    · have hnot : ¬ setting.ReleasesAsStatement lock locals stmt := fun h => heq (hfree h)
      simp [heq, hnot]
  | none =>
    have htakes : ¬ setting.Takes lock locals stmt := by
      rintro ⟨taken, htaken, -⟩
      cases hacq.symm.trans htaken
    have hreleased : (setting.released locals [stmt]).contains lock = true ↔
        setting.ReleasesAsStatement lock locals stmt := by
      simp only [contains_released_iff, List.mem_singleton, exists_eq_left]
    simp only [htakes, false_or, ← hreleased]
    rw [List.contains_iff_exists_mem_beq, List.contains_iff_exists_mem_beq]
    constructor
    · rintro ⟨other, hother, heq⟩
      obtain ⟨hmem, hkept⟩ := List.mem_filter.mp hother
      refine ⟨⟨other, hmem, heq⟩, ?_⟩
      rw [List.contains_congr heq]
      simpa using hkept
    · rintro ⟨⟨other, hmem, heq⟩, hkept⟩
      refine ⟨other, List.mem_filter.mpr ⟨hmem, ?_⟩, heq⟩
      rw [List.contains_congr heq] at hkept
      simpa using hkept

/-- A lock stays taken in a block since a statement took it and none behind released it. -/
theorem contains_pendingAfter_iff (lock : Guard) (locals : Locals) (stmts : List Stmt) :
    (setting.pendingAfter locals [] stmts).contains lock = true ↔
      setting.Since (setting.Takes lock) (setting.ReleasesAsStatement lock) locals stmts := by
  induction stmts using List.reverseRecOn with
  | nil => simp [setting.not_since_nil]
  | append_singleton stmts s ih =>
    rw [pendingAfter_append, pendingAfter_cons, pendingAfter_nil, contains_track_iff, since_snoc,
      ih]

/-- A loop releases the lock by an update, and no statement behind the loop takes it again. -/
def LostInUpdate (lock : Guard) : Locals → List Stmt → Prop :=
  setting.Since (setting.ReleasesAsUpdate lock) (setting.Takes lock)

/-- What is released neither as a statement nor as an update is what stays taken, except for the
locks that were lost in an update. -/
theorem since_releases_iff (lock : Guard) (locals : Locals) (stmts : List Stmt) :
    setting.Since (setting.Takes lock) (setting.Releases lock) locals stmts ↔
      setting.Since (setting.Takes lock) (setting.ReleasesAsStatement lock) locals stmts ∧
        ¬ setting.LostInUpdate lock locals stmts := by
  unfold LostInUpdate
  induction stmts using List.reverseRecOn with
  | nil => simp [setting.not_since_nil]
  | append_singleton stmts s ih =>
    simp only [since_snoc, ih, Releases]
    have hone : setting.Takes lock (setting.afterAll locals stmts) s →
        ¬ setting.ReleasesAsUpdate lock (setting.afterAll locals stmts) s :=
      setting.not_releasesAsUpdate_of_takes
    tauto

/-! ## Stale locks -/

/-- A lock that stays taken before a statement of a block was taken there, and nothing has released
it since. -/
def NoLockIsStale : Prop :=
  ∀ (locals : Locals) (before : List Stmt) (lock : Guard),
    (setting.pendingAfter locals [] before).contains lock = true →
      setting.Since (setting.Takes lock) (setting.Releases lock) locals before

/-- A try block in a block is given the locks that earlier statements took and no statement behind
them released, save that a release by the update of a loop is overlooked. So a lock that it is
given is still taken unless such an update has released it and it was not taken again. -/
theorem a_lock_is_stale_only_if_an_update_released_it (locals : Locals) (held : HeldSet)
    (before body : List Stmt) (catches : List CatchClause) (atEnd : Option (List Stmt))
    (span : Span) (later : List Stmt) :
    setting.inBlock locals held [] (before ++ .tryBlock body catches atEnd span :: later) =
        setting.inBlock locals held [] before
          ++ setting.inStmt (setting.afterAll locals before) held
            (setting.pendingAfter locals [] before) (.tryBlock body catches atEnd span)
          ++ setting.inBlock
            (setting.afterAll locals (before ++ [.tryBlock body catches atEnd span])) held
            (setting.pendingAfter locals [] (before ++ [.tryBlock body catches atEnd span])) later ∧
      ∀ lock,
        ((setting.pendingAfter locals [] before).contains lock = true ↔
          setting.Since (setting.Takes lock) (setting.ReleasesAsStatement lock) locals before) ∧
        (setting.Since (setting.Takes lock) (setting.Releases lock) locals before ↔
          (setting.pendingAfter locals [] before).contains lock = true ∧
            ¬ setting.LostInUpdate lock locals before) := by
  refine ⟨setting.inBlock_split .., fun lock => ⟨setting.contains_pendingAfter_iff .., ?_⟩⟩
  rw [contains_pendingAfter_iff]
  exact setting.since_releases_iff lock locals before

end Setting

namespace Counter

/-- Takes `mu`, and releases it each time around a loop. -/
def releasedByUpdate : List Stmt :=
  [.evaluate (onMu "lock"), .forLoop [] none [onMu "unlock"] [] .unknown]

def readsBehindUpdate : MethodDecl := method [] none (releasedByUpdate ++ [releasing [readX]])

theorem a_lock_that_an_update_released_is_stale :
    let setting := setting [readsBehindUpdate] readsBehindUpdate
    (setting.accesses readsBehindUpdate).map (·.held.locks) = [[mu]] ∧ ¬ setting.NoLockIsStale := by
  intro setting
  refine ⟨by decide +kernel, fun h => ?_⟩
  have hpending : (setting.pendingAfter [] [] releasedByUpdate).contains mu = true := by
    decide +kernel
  have hrelease : setting.IsRelease mu [] (onMu "unlock") := ⟨mu, by decide +kernel, by decide⟩
  have hlost : setting.LostInUpdate mu [] releasedByUpdate := by
    refine ⟨[.evaluate (onMu "lock")], _, [], rfl, ?_, ?_⟩
    · exact ⟨_, _, _, _, _, .here, onMu "unlock", List.mem_singleton_self _, hrelease⟩
    · intro mid s rest hsplit
      cases mid <;> cases hsplit
  exact ((setting.since_releases_iff mu [] releasedByUpdate).mp (h [] _ mu hpending)).2 hlost

end Counter

end LockDiscipline
