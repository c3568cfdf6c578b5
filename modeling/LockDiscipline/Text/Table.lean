-- A property of characters is kept as the list of the code points at which it changes.

namespace LockDiscipline.Text

/-! ## Tables of characters -/

/-- Whether a code point has the property whose changes are listed in order: it does if the number
of changes up to it is odd. -/
def hasProperty (changes : List Nat) (code : Nat) : Bool :=
  (changes.takeWhile (· ≤ code)).length % 2 == 1

end LockDiscipline.Text
