-- The locks held at a point of a program, scope by scope. Nothing is ever taken out of a set:
-- leaving a scope is going back to the set from before it, so a return or an exception has
-- nothing to undo.
import LockDiscipline.Guard.Basic

namespace LockDiscipline

/-! ## Held locks -/

/-- The locks taken in the current scope and those of the scopes around it, the nearest scope first.
Within a scope the locks stand in the order in which they were taken. -/
structure HeldSet where
  outer : List (List Guard)
  here : List Guard
  deriving Repr, Inhabited

namespace HeldSet

/-- One scope that holds nothing. -/
def empty : HeldSet := ⟨[], []⟩

/-- A new scope inside the current one that holds nothing of its own. -/
def enter (held : HeldSet) : HeldSet := ⟨held.here :: held.outer, []⟩

/-- The set outside the current scope, if there is an outside. -/
def parent (held : HeldSet) : Option HeldSet :=
  match held.outer with
  | [] => none
  | here :: outer => some ⟨outer, here⟩

/-- Every scope, outermost first. -/
def scopes (held : HeldSet) : List (List Guard) := held.outer.reverse ++ [held.here]

/-- Every held lock, those of the outermost scope first. -/
def locks (held : HeldSet) : List Guard := held.scopes.flatten

/-- Whether a lock is held in any scope. -/
def holds (held : HeldSet) (lock : Guard) : Bool :=
  held.here.contains lock || held.outer.any (·.contains lock)

/-- The set with one more lock. A lock that is held already is not added. -/
def plus (held : HeldSet) (lock : Guard) : HeldSet :=
  if held.holds lock then held else { held with here := held.here ++ [lock] }

/-- The set with more locks, added one after the other. -/
def plusAll (held : HeldSet) (locks : List Guard) : HeldSet := locks.foldl plus held

/-- How many locks are held. -/
def size (held : HeldSet) : Nat := held.locks.length

def isEmpty (held : HeldSet) : Bool := held.locks.isEmpty

/-- Two sets are equal if they hold the same locks in one order, in whatever scopes. -/
instance : BEq HeldSet := ⟨fun a b => a.locks == b.locks⟩

/-- The locks as a message shows them. -/
def text (held : HeldSet) : String :=
  "\x7b" ++ ", ".intercalate (held.locks.map (·.text)) ++ "\x7d"

end HeldSet

end LockDiscipline
