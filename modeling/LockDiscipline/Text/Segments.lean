-- Dotted names are read piece by piece: a qualified name ends in its simple name, and a guard is
-- a chain of pieces.

namespace LockDiscipline.Text

/-! ## The pieces of a dotted text -/

/-- Puts a character in front of the first piece. -/
def pushFirst (c : Char) : List (List Char) → List (List Char)
  | [] => [[c]]
  | piece :: pieces => (c :: piece) :: pieces

/-- The pieces between the dots of a text. A text without a dot is its own only piece, and there is
always one piece more than there are dots. -/
def segments : List Char → List (List Char)
  | [] => [[]]
  | c :: cs => if c = '.' then [] :: segments cs else pushFirst c (segments cs)

/-- What stands behind the last dot of a text, or all of it. -/
def lastSegment (text : List Char) : List Char :=
  (text.reverse.takeWhile (· != '.')).reverse

end LockDiscipline.Text
