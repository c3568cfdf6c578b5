-- A guard is a chain: fields of fields down to where it starts, at an object, a static field, a class
-- object or a text. Rebinding it to a receiver leaves the fields as they are and changes the start.
import LockDiscipline.Guard.Basic

namespace LockDiscipline

namespace Guard

/-! ## The chain of a guard -/

/-- A guard and, behind it, the objects that it is reached from. -/
def nodes : Guard → List Guard
  | field receiver f => field receiver f :: receiver.nodes
  | guard => [guard]

/-- Where a guard starts. -/
def origin : Guard → Guard
  | field receiver _ => receiver.origin
  | guard => guard

/-- How many classes out from the current object the object of a guard stands, where the guard is
one of the objects around. -/
def depth? : Guard → Option Nat
  | this _ => some 0
  | enclosing level _ => some level
  | _ => none

theorem self_mem_nodes (guard : Guard) : guard ∈ guard.nodes := by
  cases guard <;> exact List.mem_cons_self

/-- Whatever is no field is in a guard only as its start. -/
theorem mem_nodes_iff (node guard : Guard) (h : ∀ receiver f, node ≠ field receiver f) :
    node ∈ guard.nodes ↔ guard.origin = node := by
  induction guard with
  | field receiver f ih =>
    rw [nodes, List.mem_cons, origin, ih]
    exact or_iff_right (h receiver f)
  | _ => exact List.mem_singleton.trans eq_comm

theorem enclosing_mem_nodes_iff (level : Nat) (cls : TypeName) (guard : Guard) :
    enclosing level cls ∈ guard.nodes ↔ guard.origin = enclosing level cls :=
  mem_nodes_iff (enclosing level cls) guard nofun

theorem origin_ne_field (guard receiver : Guard) (f : FieldSymbol) :
    guard.origin ≠ field receiver f := by
  induction guard with
  | field inner _ ih => exact ih
  | _ => exact nofun

/-- Equal guards start at equal objects. -/
theorem origin_same {a b : Guard} (h : a.same b = true) : a.origin.same b.origin = true := by
  induction a generalizing b with
  | field receiver f ih =>
    cases b with
    | field receiver' f' =>
      rw [same, Bool.and_eq_true] at h
      have hreceiver : receiver.origin.same receiver'.origin = true := ih h.1
      exact hreceiver
    | _ => cases h
  | _ =>
    cases b with
    | field _ _ => cases h
    | _ => exact h

/-! ## Rebinding -/

@[simp] theorem rebind_this (guard : Guard) (cls : TypeName) :
    guard.rebind (.this cls) = guard := by
  cases guard <;> rfl

@[simp] theorem rebind_field (base : Guard) (f : FieldSymbol) (receiver : Guard) :
    (field base f).rebind receiver = field (base.rebind receiver) f := by
  cases receiver with
  | this cls => rw [rebind_this, rebind_this]
  | _ => rfl

@[simp] theorem rebind_staticField (f : FieldSymbol) (receiver : Guard) :
    (staticField f).rebind receiver = staticField f := by
  cases receiver <;> rfl

@[simp] theorem rebind_classLit (cls : TypeName) (receiver : Guard) :
    (classLit cls).rebind receiver = classLit cls := by
  cases receiver <;> rfl

/-- A level is counted on from a receiver that is the current object or one around it. From any other
receiver it cannot be followed. -/
theorem enclosing_rebind (level : Nat) (cls : TypeName) (receiver : Guard) :
    (enclosing level cls).rebind receiver =
      match receiver.depth? with
      | some further => enclosing (level + further) cls
      | none => verbatim (receiver.text ++ "." ++ (enclosing level cls).text) (some cls) := by
  cases receiver <;> rfl

/-- The receiver takes the place of the current object, if it is an object of the same class. -/
theorem this_rebind {cls : TypeName} {receiver : Guard} (h : receiver.type = some cls) :
    (this cls).rebind receiver = receiver := by
  cases receiver with
  | this other =>
    cases h
    rfl
  | _ => rfl

/-- Rebinding a guard is rebinding its start. -/
theorem origin_rebind (guard receiver : Guard) :
    (guard.rebind receiver).origin = (guard.origin.rebind receiver).origin := by
  induction guard with
  | field base f ih => rw [rebind_field, origin, ih, origin]
  | _ => rfl

end Guard

end LockDiscipline
