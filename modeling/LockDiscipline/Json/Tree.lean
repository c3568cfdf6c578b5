-- A JSON text as a tree. A text may break off or go wrong anywhere, and what stands before that
-- place is still to be judged first, so the tree of a text keeps all that could be read and says
-- where it ends.
import LockDiscipline.Number.Shortest

namespace LockDiscipline.Json

/-! ## Numbers -/

/-- A number as far as it can be told from others. -/
inductive Number
  /-- An integer from zero on, below `2 ^ 64`. -/
  | natural (n : Nat)
  /-- The integer below zero of this size, at most `2 ^ 63`. -/
  | negative (n : Nat)
  /-- Any other number, rounded, and whether it has a minus sign. -/
  | fraction (minus : Bool) (size : Binary64)
  /-- A number that is greater than all that can be held. -/
  | tooLarge
  deriving DecidableEq, Repr, Inhabited

namespace Number

/-- The text of a number. -/
def text : Number → String
  | natural n => toString n
  | negative n => "-" ++ toString n
  | fraction minus size => (if minus then "-" else "") ++ size.text
  | tooLarge => "1e999"

end Number

/-! ## Trees -/

/-- A key or a string value. There is none where an escape stands for half a character. -/
abbrev Text := Option String

/-- What could be read of a JSON text. The entries of a container are in the order of the text;
it is not closed if the text goes wrong behind the last of them. -/
inductive Tree
  | null
  | bool (value : Bool)
  | number (value : Number)
  | string (value : Text)
  | array (items : List Tree) (closed : Bool)
  | object (members : List (Text × Tree)) (closed : Bool)
  /-- A place where a value is due and none can be read. -/
  | broken
  deriving Inhabited

namespace Tree

/-- A string value. -/
def ofString (s : String) : Tree := string (some s)

/-- A natural number. -/
def ofNat (n : Nat) : Tree := number (.natural n)

/-- A whole array. -/
def ofList (items : List Tree) : Tree := array items true

/-- A whole object. -/
def ofMembers (members : List (String × Tree)) : Tree :=
  object (members.map fun (key, value) => (some key, value)) true

/-- A value, or null where there is none. -/
def ofOption : Option Tree → Tree
  | none => null
  | some tree => tree

/-- The value of the first member of an object with the given key. -/
def get? (tree : Tree) (key : String) : Option Tree :=
  match tree with
  | object members _ => members.lookup (some key)
  | _ => none

end Tree

mutual

/-- Whether the text of the tree has no fault in its form. -/
def Tree.isWhole : Tree → Bool
  | .null | .bool _ | .number _ | .string _ => true
  | .array items closed => closed && Tree.allWhole items
  | .object members closed => closed && Tree.allMembersWhole members
  | .broken => false

/-- Whether every tree of a list is whole. -/
def Tree.allWhole : List Tree → Bool
  | [] => true
  | tree :: rest => tree.isWhole && Tree.allWhole rest

/-- Whether every value of a list of members is whole. -/
def Tree.allMembersWhole : List (Text × Tree) → Bool
  | [] => true
  | (_, tree) :: rest => tree.isWhole && Tree.allMembersWhole rest

end

mutual

/-- Whether a tree can be held as a value: it is whole, its strings are texts, its numbers are
not too large, and at most `room` containers stand inside one another. -/
def Tree.isHeld (room : Nat) : Tree → Bool
  | .null | .bool _ => true
  | .number n => n != .tooLarge
  | .string s => s.isSome
  | .array items closed => closed && 0 < room && Tree.allHeld (room - 1) items
  | .object members closed => closed && 0 < room && Tree.allMembersHeld (room - 1) members
  | .broken => false

/-- Whether every tree of a list can be held. -/
def Tree.allHeld (room : Nat) : List Tree → Bool
  | [] => true
  | tree :: rest => tree.isHeld room && Tree.allHeld room rest

/-- Whether the keys and values of a list of members can be held. -/
def Tree.allMembersHeld (room : Nat) : List (Text × Tree) → Bool
  | [] => true
  | (key, tree) :: rest => key.isSome && tree.isHeld room && Tree.allMembersHeld room rest

end

end LockDiscipline.Json
