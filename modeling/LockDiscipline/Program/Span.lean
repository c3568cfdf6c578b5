-- Where a piece of a program stands in its source text.

namespace LockDiscipline

/-! ## Source positions -/

/-- A stretch of source text: the offsets of its first character and of the one after its last,
and the line and column of its start, both counted from one. A line of zero means that the place
is not known. -/
structure Span where
  start : Nat
  stop : Nat
  line : Nat
  column : Nat
  deriving DecidableEq, Repr, Inhabited

namespace Span

/-- The span of a piece whose place is not known. -/
def unknown : Span := ⟨0, 0, 0, 0⟩

/-- Whether the span names a place. -/
def isKnown (span : Span) : Bool := span.line != 0

end Span

end LockDiscipline
