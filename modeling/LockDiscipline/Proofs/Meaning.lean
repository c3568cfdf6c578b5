-- A guard stands for an object. Which one it is depends on the current object, on which object every
-- object stands inside, and on what the fields hold. Whatever these are, rebinding a guard to a
-- receiver comes to the same as taking the object of the receiver for the current one.
import LockDiscipline.Proofs.Nesting
import LockDiscipline.Proofs.Rebinding
import Mathlib.Logic.Function.Iterate

namespace LockDiscipline

/-! ## Worlds -/

/-- Everything that a guard can ask of objects, which may be anything. -/
structure World (α : Type*) where
  /-- The object around an object. -/
  outer : α → α
  /-- What a field of an object holds, by the class that declares the field and its name. -/
  field : α → TypeName → String → α
  /-- What a static field holds. -/
  staticField : TypeName → String → α
  classObject : TypeName → α

namespace World

variable {α : Type*} (world : World α)

/-- The object that a guard stands for where some object is the current one. A text stands for
none that is known. -/
def meaning (self : α) : Guard → Option α
  | .this _ => some self
  | .enclosing level _ => some (world.outer^[level] self)
  | .field receiver f => (meaning self receiver).map (world.field · f.owner f.name)
  | .staticField f => some (world.staticField f.owner f.name)
  | .classLit cls => some (world.classObject cls)
  | .verbatim _ _ => none

/-- A guard stands for an object exactly if no text is in it. -/
theorem isSome_meaning_iff (self : α) (guard : Guard) :
    (world.meaning self guard).isSome ↔ ∀ node ∈ guard.nodes, node.isVerbatim = false := by
  induction guard with
  | field receiver f ih =>
    simp only [meaning, Option.isSome_map, ih, Guard.nodes, List.forall_mem_cons]
    exact (and_iff_right rfl).symm
  | _ => simp [meaning, Guard.nodes, Guard.isVerbatim]

/-- Taking a receiver for the current object. Levels are counted from the current object, so only
from an object around it can they be counted on. -/
theorem meaning_rebind {self other : α} {receiver : Guard}
    (hreceiver : world.meaning self receiver = some other) {guard : Guard}
    (h : (∀ level cls, .enclosing level cls ∉ guard.nodes) ∨ receiver.depth?.isSome) :
    world.meaning self (guard.rebind receiver) = world.meaning other guard := by
  induction guard with
  | this cls =>
    cases receiver with
    | this _ => exact hreceiver
    | _ => exact hreceiver
  | enclosing level cls =>
    rcases h with h | h
    · exact absurd List.mem_cons_self (h level cls)
    · cases receiver with
      | this _ =>
        cases hreceiver
        rfl
      | enclosing further _ =>
        cases hreceiver
        exact congrArg some (Function.iterate_add_apply world.outer level further self)
      | _ => cases h
  | field base f ih =>
    have hbase : (∀ level cls, .enclosing level cls ∉ base.nodes) ∨ receiver.depth?.isSome := by
      refine h.imp_left fun h level cls hmem => ?_
      exact h level cls (List.mem_cons_of_mem _ hmem)
    rw [Guard.rebind_field, meaning, meaning, ih hbase]
  | staticField f => rw [Guard.rebind_staticField, meaning, meaning]
  | classLit cls => rw [Guard.rebind_classLit, meaning, meaning]
  | verbatim text type =>
    cases receiver <;> rfl

/-- Rebinding a guard is putting the receiver for the current object. In any world and for any
current object, if the guard speaks of no object around the current one, or the receiver is the
current object or one around it, the rebound guard stands at the current object for what the guard
stands for at the object of the receiver; and where neither the guard nor the receiver has a text in
it, there is such an object, and no text comes in. -/
theorem a_receiver_takes_the_place_of_the_current_object (self : α) (guard receiver : Guard)
    (hguard : ∀ node ∈ guard.nodes, node.isVerbatim = false)
    (hreceiver : ∀ node ∈ receiver.nodes, node.isVerbatim = false)
    (h : (∀ level cls, .enclosing level cls ∉ guard.nodes) ∨ receiver.depth?.isSome) :
    (∀ node ∈ (guard.rebind receiver).nodes, node.isVerbatim = false) ∧
      ∃ other object, world.meaning self receiver = some other ∧
        world.meaning other guard = some object ∧
        world.meaning self (guard.rebind receiver) = some object := by
  obtain ⟨other, hother⟩ :=
    Option.isSome_iff_exists.mp ((world.isSome_meaning_iff self receiver).mpr hreceiver)
  obtain ⟨object, hobject⟩ :=
    Option.isSome_iff_exists.mp ((world.isSome_meaning_iff other guard).mpr hguard)
  have hrebound : world.meaning self (guard.rebind receiver) = some object :=
    (world.meaning_rebind hother h).trans hobject
  refine ⟨?_, other, object, hother, hobject, hrebound⟩
  rw [← world.isSome_meaning_iff self, hrebound]
  rfl

end World

namespace Nested

/-- A world in which every object is the way to it. -/
def ways : World String where
  outer way := way ++ ".outer"
  field way _ name := way ++ "." ++ name
  staticField owner name := owner.text ++ "." ++ name
  classObject cls := cls.text ++ ".class"

/-- The object of `Inner` around one of `Deep`. -/
def aroundDeep : Guard := .enclosing 1 ⟨"Outer.Inner"⟩

theorem the_mu_around_the_object_around_deep :
    (∀ node ∈ (outerMu 1).nodes, node.isVerbatim = false) ∧
      (∀ node ∈ aroundDeep.nodes, node.isVerbatim = false) ∧ aroundDeep.depth?.isSome ∧
      ways.meaning "deep" aroundDeep = some "deep.outer" ∧
      ways.meaning "deep.outer" (outerMu 1) = some "deep.outer.outer.mu" ∧
      ways.meaning "deep" ((outerMu 1).rebind aroundDeep) = some "deep.outer.outer.mu" := by
  have hguard : ∀ node ∈ (outerMu 1).nodes, node.isVerbatim = false := by decide
  have hreceiver : ∀ node ∈ aroundDeep.nodes, node.isVerbatim = false := by decide
  have hother : ways.meaning "deep" aroundDeep = some "deep.outer" := by decide +kernel
  have hobject : ways.meaning "deep.outer" (outerMu 1) = some "deep.outer.outer.mu" := by
    decide +kernel
  obtain ⟨-, other, object, h, h', hrebound⟩ :=
    ways.a_receiver_takes_the_place_of_the_current_object "deep" (outerMu 1) aroundDeep hguard
      hreceiver (Or.inr rfl)
  cases hother.symm.trans h
  cases hobject.symm.trans h'
  exact ⟨hguard, hreceiver, rfl, hother, hobject, hrebound⟩

end Nested

end LockDiscipline
