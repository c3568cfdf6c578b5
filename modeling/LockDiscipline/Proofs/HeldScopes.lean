-- A held set is built from nothing by taking locks, by opening scopes and by going back to the
-- scope around. What was asked for, scope by scope, says all about it: the set lists these locks in
-- order, each once. Equal sets stay equal under the same steps, whatever their scopes.
import LockDiscipline.Proofs.HeldSet
import Mathlib.Data.List.Forall2

namespace LockDiscipline

/-! ## Lists of locks -/

/-- No two locks of a list without repetitions are equal. -/
theorem pairwise_eraseDups (locks : List Guard) :
    locks.eraseDups.Pairwise fun a b => (a == b) = false := by
  induction locks using List.reverseRecOn with
  | nil => exact List.Pairwise.nil
  | append_singleton locks lock ih =>
    have hlast : (locks ++ [lock]).eraseDups = withLock locks.eraseDups lock :=
      eraseDups_append locks [lock]
    rw [hlast, withLock]
    split
    · exact ih
    · rename_i hnew
      rw [List.pairwise_append]
      refine ⟨ih, List.pairwise_singleton _ _, fun other hother last hmem => ?_⟩
      cases List.mem_singleton.mp hmem
      rw [BEq.comm, Bool.eq_false_iff]
      intro heq
      exact hnew (List.contains_iff_exists_mem_beq.mpr ⟨other, hother, heq⟩)

/-- Two lists of locks are equal lock by lock. -/
abbrev EqualLocks (locks more : List Guard) : Prop :=
  List.Forall₂ (fun a b => (a == b) = true) locks more

theorem beq_iff_equalLocks (locks more : List Guard) :
    (locks == more) = true ↔ EqualLocks locks more := by
  induction locks generalizing more with
  | nil => cases more <;> simp [EqualLocks]
  | cons first rest ih => cases more <;> simp [EqualLocks, ih]

theorem EqualLocks.contains_eq {locks more : List Guard} (h : EqualLocks locks more)
    {lock other : Guard} (heq : (lock == other) = true) :
    locks.contains lock = more.contains other := by
  induction h with
  | nil => rfl
  | cons hfirst _ ih =>
    rw [List.contains_cons, List.contains_cons, ih, BEq.congr_left heq, BEq.congr_right hfirst]

theorem EqualLocks.withLock {locks more : List Guard} (h : EqualLocks locks more)
    {lock other : Guard} (heq : (lock == other) = true) :
    EqualLocks (withLock locks lock) (withLock more other) := by
  unfold LockDiscipline.withLock
  rw [h.contains_eq heq]
  split
  · exact h
  · exact List.rel_append h (.cons heq .nil)

namespace HeldSet

/-! ## Equal sets -/

theorem beq_iff {a b : HeldSet} : (a == b) = true ↔ EqualLocks a.locks b.locks :=
  beq_iff_equalLocks a.locks b.locks

theorem beq_plus {a b : HeldSet} (h : (a == b) = true) {lock other : Guard}
    (heq : (lock == other) = true) : (a.plus lock == b.plus other) = true := by
  rw [beq_iff, locks_plus, locks_plus]
  exact (beq_iff.mp h).withLock heq

theorem beq_plusAll {a b : HeldSet} (h : (a == b) = true) {locks more : List Guard}
    (hlocks : EqualLocks locks more) : (a.plusAll locks == b.plusAll more) = true := by
  induction hlocks generalizing a b with
  | nil => exact h
  | cons heq _ ih => exact ih (beq_plus h heq)

theorem beq_enter {a b : HeldSet} (h : (a == b) = true) : (a.enter == b.enter) = true := by
  rw [beq_iff, locks_enter, locks_enter]
  exact beq_iff.mp h

/-! ## Scope by scope -/

/-- The locks of a set are those outside the current scope and then those of the scope. -/
theorem locks_eq_parent (held : HeldSet) :
    held.locks = (held.parent.map locks).getD [] ++ held.here := by
  obtain ⟨outer, here⟩ := held
  cases outer <;> simp [locks, scopes, parent]

theorem size_eq_parent (held : HeldSet) :
    held.size = held.here.length + (held.parent.map size).getD 0 := by
  unfold size
  rw [locks_eq_parent, List.length_append, Nat.add_comm]
  cases held.parent <;> rfl

/-- Taking locks changes nothing outside the current scope. -/
theorem outer_plus (held : HeldSet) (lock : Guard) : (held.plus lock).outer = held.outer := by
  unfold plus
  split <;> rfl

theorem outer_plusAll (held : HeldSet) (more : List Guard) :
    (held.plusAll more).outer = held.outer := by
  induction more generalizing held with
  | nil => rfl
  | cons first rest ih => exact (ih (held.plus first)).trans (held.outer_plus first)

theorem plus_eq_self {held : HeldSet} {lock : Guard} (h : held.holds lock = true) :
    held.plus lock = held := by
  rw [plus, if_pos h]

theorem parent_enter_plusAll (held : HeldSet) (more : List Guard) :
    (held.enter.plusAll more).parent = some held := by
  have houter : (held.enter.plusAll more).outer = held.here :: held.outer :=
    held.enter.outer_plusAll more
  rw [parent, houter]

/-! ## How a set is built -/

/-- A set that is built from the empty one step by step, with the locks that were asked for in each
of its scopes, the nearest scope first. What was asked for in a scope that was left is forgotten. -/
inductive Built : HeldSet → List (List Guard) → Prop
  | empty : Built .empty [[]]
  | plus {held : HeldSet} {asked : List Guard} {around : List (List Guard)} (lock : Guard) :
      Built held (asked :: around) → Built (held.plus lock) ((asked ++ [lock]) :: around)
  | plusAll {held : HeldSet} {asked : List Guard} {around : List (List Guard)}
      (more : List Guard) :
      Built held (asked :: around) → Built (held.plusAll more) ((asked ++ more) :: around)
  | enter {held : HeldSet} {asked : List (List Guard)} : Built held asked →
      Built held.enter ([] :: asked)
  | parent {held outside : HeldSet} {asked : List Guard} {around : List (List Guard)} :
      Built held (asked :: around) → held.parent = some outside → Built outside around

/-- As far out as one goes, the scopes hold what was asked for from there on out. -/
def Records (held : HeldSet) (asked : List (List Guard)) : Prop :=
  ∀ out, ((held.here :: held.outer).drop out).reverse.flatten =
    (asked.drop out).reverse.flatten.eraseDups

theorem locks_eq_flatten (held : HeldSet) :
    held.locks = (held.here :: held.outer).reverse.flatten := by
  rw [locks, scopes, List.reverse_cons]

theorem Records.plusAll {held : HeldSet} {asked : List Guard} {around : List (List Guard)}
    (h : held.Records (asked :: around)) (more : List Guard) :
    (held.plusAll more).Records ((asked ++ more) :: around) := by
  intro out
  cases out with
  | zero =>
    have hflatten : ∀ first : List Guard,
        (first :: around).reverse.flatten = around.reverse.flatten ++ first := by simp
    have hhere := h 0
    rw [List.drop_zero, List.drop_zero, ← locks_eq_flatten, hflatten] at hhere ⊢
    rw [locks_plusAll, hhere, ← eraseDups_append, List.append_assoc]
  | succ out =>
    rw [List.drop_succ_cons, List.drop_succ_cons, outer_plusAll]
    exact h (out + 1)

/-- Each step keeps the record. -/
theorem Built.records {held : HeldSet} {asked : List (List Guard)} (h : Built held asked) :
    held.Records asked := by
  induction h with
  | empty =>
    intro out
    cases out <;> simp [HeldSet.empty]
  | plus lock _ ih => exact ih.plusAll [lock]
  | plusAll more _ ih => exact ih.plusAll more
  | enter _ ih =>
    intro out
    cases out with
    | zero => simpa [HeldSet.enter] using ih 0
    | succ out => exact ih out
  | @parent held outside asked around _ hparent ih =>
    obtain ⟨outer, here⟩ := held
    cases outer with
    | nil => cases hparent
    | cons first rest =>
      cases hparent
      intro out
      exact ih (out + 1)

theorem Built.holds_asked {held : HeldSet} {asked : List (List Guard)} (h : Built held asked) :
    held.Holds asked.reverse.flatten := by
  rw [Holds, locks_eq_flatten]
  exact h.records 0

/-- A set that was built from the empty one lists the locks that were asked for in its scopes, in
order, those left out that are equal to an earlier one; so no two of them are equal. Its size is how
many there are, counted scope by scope; it holds a lock exactly if it lists an equal one, and taking
that one again changes nothing. Out of a scope one comes back to the very set in which it was
opened, and equal sets, which are those that list equal locks, stay equal whatever is taken or
opened. -/
theorem a_built_set_lists_what_was_asked_for {held : HeldSet} {asked : List (List Guard)}
    (h : Built held asked) :
    held.locks = asked.reverse.flatten.eraseDups ∧
      (held.locks.Pairwise fun a b => (a == b) = false) ∧
      (held.size = held.locks.length ∧
        held.size = held.here.length + (held.parent.map size).getD 0) ∧
      (∀ lock, held.holds lock = true ↔ ∃ other ∈ held.locks, (lock == other) = true) ∧
      (∀ lock, held.holds lock = true → held.plus lock = held) ∧
      (∀ more, (held.enter.plusAll more).parent = some held) ∧
      ∀ other : HeldSet,
        ((held == other) = true ↔ EqualLocks held.locks other.locks) ∧
        ((held == other) = true →
          (∀ lock more, (lock == more) = true → (held.plus lock == other.plus more) = true) ∧
          (∀ locks more, EqualLocks locks more →
            (held.plusAll locks == other.plusAll more) = true) ∧
          (held.enter == other.enter) = true) := by
  have hlocks : held.locks = asked.reverse.flatten.eraseDups := h.holds_asked
  refine ⟨hlocks, ?_, ⟨rfl, held.size_eq_parent⟩, fun lock => ?_, fun lock => plus_eq_self,
    held.parent_enter_plusAll, fun other => ⟨beq_iff, fun heq => ?_⟩⟩
  · rw [hlocks]
    exact pairwise_eraseDups _
  · rw [holds_eq_contains]
    exact List.contains_iff_exists_mem_beq
  · exact ⟨fun _ _ => beq_plus heq, fun _ _ => beq_plusAll heq, beq_enter heq⟩

/-! ## A set in three scopes -/

/-- The lock `mu` of the current object. The type that it is known with does not count. -/
def mu (type : TypeName) : Guard := .field (.this ⟨"Counter"⟩) ⟨⟨"Counter"⟩, "mu", type, false⟩

theorem the_lock_of_the_outermost_scope_is_listed_once :
    let self : Guard := .this ⟨"Counter"⟩
    let held := ((empty.plus self).enter.plusAll [mu .lock, self, mu .object]).enter.plus (mu .lock)
    Built held [[mu .lock], [mu .lock, self, mu .object], [self]] ∧
      held.locks = [self, mu .lock] ∧ held.size = 2 ∧ held.plus (mu .object) = held ∧
      (held.enter.plusAll [.classLit ⟨"Counter"⟩]).parent = some held := by
  intro self held
  have hbuilt : Built held [[mu .lock], [mu .lock, self, mu .object], [self]] :=
    .plus (mu .lock) (.enter (.plusAll [mu .lock, self, mu .object] (.enter (.plus self .empty))))
  have herased : [self, mu .lock, self, mu .object, mu .lock].eraseDups = [self, mu .lock] := by
    decide +kernel
  obtain ⟨hlocks, -, ⟨hsize, -⟩, hholds, hplus, hparent, -⟩ :=
    a_built_set_lists_what_was_asked_for hbuilt
  have hlisted : held.locks = [self, mu .lock] := hlocks.trans herased
  refine ⟨hbuilt, hlisted, ?_, hplus _ ((hholds _).mpr ⟨mu .lock, ?_, by decide +kernel⟩),
    hparent _⟩
  · rw [hsize, hlisted]
    rfl
  · rw [hlisted]
    exact List.mem_cons_of_mem _ (List.mem_singleton_self _)

end HeldSet

end LockDiscipline
