-- What a name or `this` means inside a member depends on the classes around the member and on the
-- locals that are in scope.
import LockDiscipline.Guard.Basic

namespace LockDiscipline

/-! ## The classes around a member -/

/-- A class of the nesting, and whether it is declared static. -/
structure NestedClass where
  name : TypeName
  isStatic : Bool
  deriving DecidableEq, Repr, Inhabited

/-- One class around a member as seen from it, and whether an object of that class is at hand. -/
structure Frame where
  name : TypeName
  reachable : Bool
  deriving DecidableEq, Repr, Inhabited

/-- Where a member stands: the classes around it, outermost first, and whether it is static. -/
structure Scope where
  nesting : List NestedClass
  memberIsStatic : Bool
  deriving DecidableEq, Repr, Inhabited

namespace Scope

/-- The frames of classes given innermost first. A static class has no object around it, so beyond
it no object is at hand. -/
def framesFrom : Bool → List NestedClass → List Frame
  | _, [] => []
  | reachable, cls :: outer =>
    ⟨cls.name, reachable⟩ :: framesFrom (reachable && !cls.isStatic) outer

/-- The classes around the member, innermost first. From a static member no object is at hand. -/
def frames (scope : Scope) : List Frame :=
  framesFrom (!scope.memberIsStatic) scope.nesting.reverse

/-- The class that holds the member. -/
def currentClass (scope : Scope) : Option TypeName := scope.frames.head?.map (·.name)

/-- Whether the current object is out of reach. -/
def isStatic (scope : Scope) : Bool :=
  match scope.frames with
  | [] => true
  | frame :: _ => !frame.reachable

/-- The same place, seen from a member that is static or is not. -/
def withStatic (scope : Scope) (memberIsStatic : Bool) : Scope := { scope with memberIsStatic }

/-- The object of the class that many frames out, if it is at hand. -/
def instanceAt (scope : Scope) (level : Nat) : Option Guard :=
  match scope.frames[level]? with
  | some frame =>
    if !frame.reachable then none
    else if level = 0 then some (.this frame.name)
    else some (.enclosing level frame.name)
  | none => none

end Scope

/-! ## Locals -/

/-- The local variables and parameters in scope with their types, the latest first. A later one
hides an earlier one of its name. -/
abbrev Locals := List (String × TypeName)

/-! ## Everything an expression is read in -/

/-- What gives an expression its meaning. -/
structure Context where
  types : TypeLookup
  scope : Scope
  locals : Locals

end LockDiscipline
