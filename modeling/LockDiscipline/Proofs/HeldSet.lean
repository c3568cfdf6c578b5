-- A held set reads as one list: the locks in the order in which they were taken, each once. The
-- scopes say only where the set goes back to.
import LockDiscipline.HeldSet
import LockDiscipline.Proofs.GuardEquality
import Mathlib.Data.List.Induction

namespace LockDiscipline

/-! ## A list without repetitions -/

/-- A list of locks with one more behind it, unless an equal one is there. -/
def withLock (locks : List Guard) (lock : Guard) : List Guard :=
  if locks.contains lock then locks else locks ++ [lock]

theorem contains_withLock (locks : List Guard) (lock other : Guard) :
    (withLock locks lock).contains other = (locks.contains other || other == lock) := by
  unfold withLock
  split
  · rename_i h
    by_cases heq : other == lock
    · simp [List.contains_congr heq, h, heq]
    · simp [heq]
  · simp

theorem eraseDups_loop_eq (locks seen : List Guard) :
    List.eraseDupsBy.loop (· == ·) locks seen = locks.foldl withLock seen.reverse := by
  induction locks generalizing seen with
  | nil => rfl
  | cons lock rest ih =>
    have hseen : seen.any (lock == ·) = seen.reverse.contains lock := by
      simp [List.contains_eq_any_beq]
    unfold List.eraseDupsBy.loop
    rw [List.foldl_cons, withLock, ← hseen]
    split
    · rename_i h
      rw [ih, if_pos h]
    · rename_i h
      rw [ih, if_neg (by simp [h]), List.reverse_cons]

/-- Erasing repetitions keeps the first of equal locks, as taking one lock after the other does. -/
theorem eraseDups_eq_foldl (locks : List Guard) : locks.eraseDups = locks.foldl withLock [] :=
  eraseDups_loop_eq locks []

theorem eraseDups_append (locks more : List Guard) :
    (locks ++ more).eraseDups = more.foldl withLock locks.eraseDups := by
  rw [eraseDups_eq_foldl, eraseDups_eq_foldl, List.foldl_append]

theorem eraseDups_eraseDups (locks : List Guard) : locks.eraseDups.eraseDups = locks.eraseDups := by
  induction locks using List.reverseRecOn with
  | nil => rfl
  | append_singleton locks lock ih =>
    have hlast : (locks ++ [lock]).eraseDups = withLock locks.eraseDups lock :=
      eraseDups_append locks [lock]
    rw [hlast, withLock]
    split
    · exact ih
    · rename_i h
      rw [eraseDups_append, ih, List.foldl_cons, List.foldl_nil, withLock, if_neg h]

theorem contains_foldl_withLock (locks more : List Guard) (lock : Guard) :
    (more.foldl withLock locks).contains lock = (locks.contains lock || more.contains lock) := by
  induction more generalizing locks with
  | nil => simp
  | cons first rest ih =>
    rw [List.foldl_cons, ih, contains_withLock, List.contains_cons, Bool.or_assoc]

/-- What a list of locks has after more were taken, it had before, or it was taken as a new one. -/
theorem mem_foldl_withLock {locks more : List Guard} {lock : Guard}
    (h : lock ∈ more.foldl withLock locks) :
    lock ∈ locks ∨ (lock ∈ more ∧ locks.contains lock = false) := by
  induction more generalizing locks with
  | nil => exact Or.inl h
  | cons first rest ih =>
    rcases ih h with h | ⟨hrest, hnew⟩
    · unfold withLock at h
      split at h
      · exact Or.inl h
      · rename_i hfirst
        rcases List.mem_append.mp h with h | h
        · exact Or.inl h
        · cases List.mem_singleton.mp h
          exact Or.inr ⟨List.mem_cons_self, Bool.eq_false_iff.mpr hfirst⟩
    · rw [contains_withLock, Bool.or_eq_false_iff] at hnew
      exact Or.inr ⟨List.mem_cons_of_mem _ hrest, hnew.1⟩

namespace HeldSet

/-! ## The locks of a set -/

/-- A new scope holds what was held outside. -/
@[simp] theorem locks_enter (held : HeldSet) : held.enter.locks = held.locks := by
  simp [locks, scopes, enter]

theorem holds_eq_contains (held : HeldSet) (lock : Guard) :
    held.holds lock = held.locks.contains lock := by
  simp only [holds, locks, scopes, List.flatten_append, List.contains_append]
  rw [Bool.or_comm]
  congr 1
  · induction held.outer with
    | nil => rfl
    | cons first rest ih =>
      rw [List.any_cons, ih, Bool.or_comm]
      simp only [List.reverse_cons, List.flatten_append, List.contains_append]
      simp
  · simp

theorem locks_plus (held : HeldSet) (lock : Guard) :
    (held.plus lock).locks = withLock held.locks lock := by
  unfold plus withLock
  rw [holds_eq_contains]
  split
  · rfl
  · simp [locks, scopes]

theorem locks_plusAll (held : HeldSet) (more : List Guard) :
    (held.plusAll more).locks = more.foldl withLock held.locks := by
  induction more generalizing held with
  | nil => rfl
  | cons first rest ih =>
    rw [List.foldl_cons, ← locks_plus]
    exact ih (held.plus first)

theorem holds_plusAll (held : HeldSet) (more : List Guard) (lock : Guard) :
    (held.plusAll more).holds lock = (held.holds lock || more.contains lock) := by
  rw [holds_eq_contains, holds_eq_contains, locks_plusAll, contains_foldl_withLock]

theorem holds_enter (held : HeldSet) (lock : Guard) : held.enter.holds lock = held.holds lock := by
  rw [holds_eq_contains, holds_eq_contains, locks_enter]

/-! ## What was taken -/

/-- The set holds the locks that were taken, each once, in the order in which they were taken. -/
def Holds (held : HeldSet) (taken : List Guard) : Prop := held.locks = taken.eraseDups

theorem Holds.plusAll {held : HeldSet} {taken : List Guard} (h : held.Holds taken)
    (more : List Guard) : (held.plusAll more).Holds (taken ++ more) := by
  unfold Holds at h ⊢
  rw [locks_plusAll, h, eraseDups_append]

theorem holds_nothing : empty.Holds [] := rfl

/-- A set holds the locks that it lists, for it lists none twice. -/
theorem Holds.self {held : HeldSet} {taken : List Guard} (h : held.Holds taken) :
    held.Holds held.locks := by
  unfold Holds at h ⊢
  rw [h, eraseDups_eraseDups]

end HeldSet

end LockDiscipline
