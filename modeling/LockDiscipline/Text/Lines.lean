-- The lines of a source text, as an editor numbers them.

namespace LockDiscipline.Text

/-! ## Lines -/

/-- Drops one carriage return from the front. -/
def dropReturn : List Char → List Char
  | '\r' :: rest => rest
  | line => line

/-- The lines of a text after the characters already read of its first line, the latest of these
first. -/
def linesAfter (read : List Char) : List Char → List (List Char)
  | [] => if read.isEmpty then [] else [read.reverse]
  | '\n' :: rest => (dropReturn read).reverse :: linesAfter [] rest
  | c :: rest => linesAfter (c :: read) rest

/-- The lines of a text. A line ends with a line feed, and a carriage return just before one belongs
to the end of the line; after the last line feed there is a further line only if any text is. -/
def lines (text : List Char) : List (List Char) := linesAfter [] text

/-- The line of a text with the given number. The first line has number one, and also zero. -/
def line? (text : String) (number : Nat) : Option String :=
  (lines text.toList)[number - 1]?.map String.ofList

end LockDiscipline.Text
