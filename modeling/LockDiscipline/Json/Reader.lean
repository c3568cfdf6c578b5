-- The tree of a JSON text. The containers that are still open stand on a stack, so a text may
-- nest as deep as it likes.
import LockDiscipline.Json.Token

namespace LockDiscipline.Json

/-! ## From words to a tree -/

/-- A container that is still open, with what was read of it, the latest first. An object waits
for the value of a key. -/
inductive Frame
  | array (items : List Tree)
  | object (members : List (Text × Tree)) (key : Text)

namespace Frame

/-- The container with one more entry, closed or not. -/
def finish (frame : Frame) (tree : Tree) (closed : Bool) : Tree :=
  match frame with
  | array items => .array (tree :: items).reverse closed
  | object members key => .object ((key, tree) :: members).reverse closed

/-- The tree of a text that goes wrong behind a value inside open containers. -/
def breakOff (tree : Tree) (stack : List Frame) : Tree :=
  stack.foldl (fun tree frame => frame.finish tree false) tree

end Frame

/-- A tree, and whether the text ends behind it. -/
structure Document where
  root : Tree
  endsThere : Bool
  deriving Inhabited

/-- What comes next: a value, or what may stand behind the value just read. -/
inductive Due
  | value
  | behind (tree : Tree)

/-- The tree of the words that follow, inside the open containers. -/
def assemble : Due → List Frame → List Token → Document
  | .value, stack, .null :: rest => assemble (.behind .null) stack rest
  | .value, stack, .bool value :: rest => assemble (.behind (.bool value)) stack rest
  | .value, stack, .number value :: rest => assemble (.behind (.number value)) stack rest
  | .value, stack, .string value :: rest => assemble (.behind (.string value)) stack rest
  | .value, stack, .openArray :: .closeArray :: rest =>
    assemble (.behind (.array [] true)) stack rest
  | .value, stack, .openArray :: rest => assemble .value (.array [] :: stack) rest
  | .value, stack, .openObject :: .closeObject :: rest =>
    assemble (.behind (.object [] true)) stack rest
  | .value, stack, .openObject :: .string key :: .colon :: rest =>
    assemble .value (.object [] key :: stack) rest
  | .value, stack, .openObject :: .string key :: _ =>
    ⟨Frame.breakOff (.object [(key, .broken)] false) stack, false⟩
  | .value, stack, .openObject :: _ => ⟨Frame.breakOff (.object [] false) stack, false⟩
  | .value, stack, _ => ⟨Frame.breakOff .broken stack, false⟩
  | .behind tree, [], rest => ⟨tree, rest.isEmpty⟩
  | .behind tree, .array items :: stack, .comma :: rest =>
    assemble .value (.array (tree :: items) :: stack) rest
  | .behind tree, .array items :: stack, .closeArray :: rest =>
    assemble (.behind (.array (tree :: items).reverse true)) stack rest
  | .behind tree, .object members key :: stack, .comma :: .string next :: .colon :: rest =>
    assemble .value (.object ((key, tree) :: members) next :: stack) rest
  | .behind tree, .object members key :: stack, .comma :: .string next :: _ =>
    ⟨Frame.breakOff (.object ((next, .broken) :: (key, tree) :: members).reverse false) stack,
      false⟩
  | .behind tree, .object members key :: stack, .closeObject :: rest =>
    assemble (.behind (.object ((key, tree) :: members).reverse true)) stack rest
  | .behind tree, frame :: stack, _ => ⟨Frame.breakOff (frame.finish tree false) stack, false⟩

/-- Reads a JSON text as far as it goes. -/
def read (text : String) : Document := assemble .value [] (tokens text)

end LockDiscipline.Json
