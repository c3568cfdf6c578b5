-- Trees as JSON texts, on one line or with one entry a line.
import LockDiscipline.Json.Tree

namespace LockDiscipline.Json

/-! ## Strings -/

/-- A character as it stands inside a JSON string. -/
def escapedChar (c : Char) : List Char :=
  if c = '"' then ['\\', '"']
  else if c = '\\' then ['\\', '\\']
  else if c = '\x08' then ['\\', 'b']
  else if c = '\x0c' then ['\\', 'f']
  else if c = '\n' then ['\\', 'n']
  else if c = '\r' then ['\\', 'r']
  else if c = '\t' then ['\\', 't']
  else if c.toNat < 0x20 then
    ['\\', 'u', '0', '0', Nat.digitChar (c.toNat / 16), Nat.digitChar (c.toNat % 16)]
  else [c]

/-- A JSON string. What is no text is written as half a character. -/
def stringText : Text → String
  | some s => String.ofList ('"' :: s.toList.flatMap escapedChar ++ ['"'])
  | none => "\"\\ud800\""

/-! ## Trees -/

/-- Entries between brackets; the closing one is left out where the container is not closed. -/
def bracketed (opening closing : String) (entries : List String) (closed : Bool) : String :=
  opening ++ ",".intercalate entries ++ if closed then closing else ""

mutual

/-- A tree on one line. -/
def Tree.compact : Tree → String
  | .null => "null"
  | .bool value => if value then "true" else "false"
  | .number value => value.text
  | .string value => stringText value
  | .array items closed => bracketed "[" "]" (Tree.compactItems items) closed
  | .object members closed => bracketed "\x7b" "\x7d" (Tree.compactMembers members) closed
  | .broken => ""

/-- The items of an array, each on one line. -/
def Tree.compactItems : List Tree → List String
  | [] => []
  | tree :: rest => tree.compact :: Tree.compactItems rest

/-- The members of an object, each on one line. -/
def Tree.compactMembers : List (Text × Tree) → List String
  | [] => []
  | (key, tree) :: rest => (stringText key ++ ":" ++ tree.compact) :: Tree.compactMembers rest

end

/-- The start of a line at a depth. -/
def lineStart (depth : Nat) : String := "\n" ++ String.ofList (List.replicate (2 * depth) ' ')

/-- Entries between brackets, each on a line of its own one step further in. Brackets with
nothing between them stay together. -/
def indented (opening closing : String) (depth : Nat) (entries : List String) : String :=
  if entries.isEmpty then opening ++ closing
  else
    opening ++ ",".intercalate (entries.map (lineStart (depth + 1) ++ ·)) ++ lineStart depth
      ++ closing

mutual

/-- A tree with one entry a line, inside the given number of containers. -/
def Tree.prettyAt (depth : Nat) : Tree → String
  | .array items _ => indented "[" "]" depth (Tree.prettyItems (depth + 1) items)
  | .object members _ =>
    indented "\x7b" "\x7d" depth (Tree.prettyMembers (depth + 1) members)
  | tree => tree.compact

/-- The items of an array at a depth. -/
def Tree.prettyItems (depth : Nat) : List Tree → List String
  | [] => []
  | tree :: rest => tree.prettyAt depth :: Tree.prettyItems depth rest

/-- The members of an object at a depth. -/
def Tree.prettyMembers (depth : Nat) : List (Text × Tree) → List String
  | [] => []
  | (key, tree) :: rest =>
    (stringText key ++ ": " ++ tree.prettyAt depth) :: Tree.prettyMembers depth rest

end

/-- A tree with one entry a line. -/
def Tree.pretty (tree : Tree) : String := tree.prettyAt 0

end LockDiscipline.Json
