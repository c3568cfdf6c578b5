-- Decoding turns a tree into a value of a domain type, or says what is wrong first in the order
-- of the text. A record may be written as an object or as the array of its fields; a choice
-- between records is told by its `kind`.
import LockDiscipline.Json.Tree
import LockDiscipline.Text.Quoted

namespace LockDiscipline.Json

/-! ## What can be wrong -/

/-- What stands in the text where something else is expected. -/
inductive Found
  | null
  | bool (value : Bool)
  | number (value : Number)
  | string (value : String)
  | sequence
  | map
  deriving DecidableEq, Repr

/-- Why a text gives no value. -/
inductive DecodeError
  /-- The text is not JSON, or it nests too deep. -/
  | malformed
  | wrongType (found : Found) (expected : String)
  | wrongValue (found : Number) (expected : String)
  | wrongLength (length : Nat) (expected : String)
  | missingField (name : String)
  | duplicateField (name : String)
  | unknownField (name : String) (known : List String)
  | unknownVariant (name : String) (known : List String)
  deriving DecidableEq, Repr

/-- A number with its kind, as a message names it. -/
def Number.described : Number → String
  | natural n => "integer `" ++ toString n ++ "`"
  | negative n => "integer `-" ++ toString n ++ "`"
  | n => "floating point `" ++ n.text ++ "`"

/-- What was found, as a message names it. -/
def Found.described : Found → String
  | null => "null"
  | bool value => "boolean `" ++ (if value then "true" else "false") ++ "`"
  | number value => value.described
  | string value => "string " ++ Text.quoted value
  | sequence => "sequence"
  | map => "map"

/-- A choice of names, as a message offers it. -/
def oneOf (names : List String) : String :=
  match names.map fun name => "`" ++ name ++ "`" with
  | [only] => only
  | [first, second] => first ++ " or " ++ second
  | quoted => "one of " ++ ", ".intercalate quoted

/-- What is wrong with the shape of a text. A text that is not JSON has no shape. -/
def DecodeError.message? : DecodeError → Option String
  | malformed => none
  | wrongType found expected =>
    some ("invalid type: " ++ found.described ++ ", expected " ++ expected)
  | wrongValue found expected =>
    some ("invalid value: " ++ found.described ++ ", expected " ++ expected)
  | wrongLength length expected =>
    some ("invalid length " ++ toString length ++ ", expected " ++ expected)
  | missingField name => some ("missing field `" ++ name ++ "`")
  | duplicateField name => some ("duplicate field `" ++ name ++ "`")
  | unknownField name known => some ("unknown field `" ++ name ++ "`, expected " ++ oneOf known)
  | unknownVariant name known => some ("unknown variant `" ++ name ++ "`, expected " ++ oneOf known)

/-! ## Decoders -/

/-- Where a tree stands: how many more containers may stand inside one another there, and whether
a tree around it has been read as a whole and found fit to be held. -/
structure Place where
  room : Nat
  isHeld : Bool
  deriving DecidableEq, Repr

/-- Reads a value from a tree at a place. -/
abbrev Decoder (α : Type) := Place → Tree → Except DecodeError α

/-- Enters a container, if one more may stand there. -/
def Place.enter {α : Type} (place : Place) (inside : Place → Except DecodeError α) :
    Except DecodeError α :=
  if place.room = 0 then .error .malformed else inside { place with room := place.room - 1 }

/-- The error for a tree of a kind that is not expected. A value that cannot be read is reported as
such. -/
def mismatch {α : Type} (tree : Tree) (expected : String) : Except DecodeError α :=
  let wrong (found : Found) : Except DecodeError α := .error (.wrongType found expected)
  match tree with
  | .null => wrong .null
  | .bool value => wrong (.bool value)
  | .number .tooLarge => .error .malformed
  | .number value => wrong (.number value)
  | .string (some value) => wrong (.string value)
  | .string none => .error .malformed
  | .array _ _ => wrong .sequence
  | .object _ _ => wrong .map
  | .broken => .error .malformed

namespace Decoder

/-- Reads a text. -/
def string : Decoder String
  | _, .string (some value) => .ok value
  | _, tree => mismatch tree "a string"

/-- Reads a truth value. -/
def flag : Decoder Bool
  | _, .bool value => .ok value
  | _, tree => mismatch tree "a boolean"

/-- Reads a natural number below `2 ^ 64`. -/
def size : Decoder Nat
  | _, .number (.natural n) => .ok n
  | _, .number (.negative n) => .error (.wrongValue (.negative n) "usize")
  | _, tree => mismatch tree "usize"

/-- Reads an array. -/
def list {α : Type} (item : Decoder α) : Decoder (List α)
  | place, .array items closed =>
    place.enter fun inner => do
      let values ← items.mapM (item inner)
      if closed then .ok values else .error .malformed
  | _, tree => mismatch tree "a sequence"

/-- Reads a value or null. -/
def nullable {α : Type} (value : Decoder α) : Decoder (Option α)
  | _, .null => .ok none
  | place, tree => (value place tree).map some

/-- Reads a value from nothing that can be read. -/
def never {α : Type} : Decoder α := fun _ _ => .error .malformed

end Decoder

/-! ## Readings -/

/-- A value that was read from several places of a text, or the first thing wrong there with its
position. -/
inductive Reading (α : Type)
  | value (a : α)
  | fault (position : Nat) (error : DecodeError)

namespace Reading

/-- What a decoder gives, at a position. -/
def ofExcept {α : Type} (position : Nat) : Except DecodeError α → Reading α
  | .ok a => value a
  | .error e => fault position e

/-- Applies what one reading gives to what another gives. Of two faults the first in the text
counts, and of two at one position the left one. -/
def both {α β : Type} : Reading (α → β) → Reading α → Reading β
  | value f, value a => value (f a)
  | value _, fault p e => fault p e
  | fault p e, value _ => fault p e
  | fault p e, fault q d => if q < p then fault q d else fault p e

/-- The reading without its position. -/
def result {α : Type} : Reading α → Except DecodeError α
  | value a => .ok a
  | fault _ e => .error e

end Reading

/-! ## Records -/

/-- What a record is read from: the members of an object, or the items of an array with what is
expected of their number. -/
inductive Entries
  | members (members : List (Text × Tree))
  | items (items : List Tree) (closed : Bool) (expected : String)

namespace Entries

/-- The tree of a field, with its position. A field is found by its name in an object and by its
index in an array. -/
def find? (name : String) (index : Nat) : Entries → Option (Tree × Nat)
  | members list =>
    (list.zipIdx.find? fun (member, _) => member.1 == some name).map fun (member, position) =>
      (member.2, position)
  | items list _ _ => list[index]?.map (·, index)

/-- The fault of a field that is not there. It shows when all entries have been read. -/
def absent {α : Type} (name : String) (index : Nat) : Entries → Reading α
  | members list => .fault (list.length + 1 + index) (.missingField name)
  | items list true expected => .fault (list.length + 1 + index) (.wrongLength index expected)
  | items list false _ => .fault list.length .malformed

end Entries

/-- The fields of a record, by name and in order, with how they are read. The number given to
`read` is the index of the first of them. -/
structure Fields (α : Type) where
  names : List String
  read : Entries → Nat → Place → Reading α

namespace Fields

/-- No fields. -/
def none {α : Type} (a : α) : Fields α := ⟨[], fun _ _ _ => .value a⟩

/-- Fields followed by further ones. -/
def followedBy {α β : Type} (f : Fields (α → β)) (x : Fields α) : Fields β where
  names := f.names ++ x.names
  read entries index place :=
    (f.read entries index place).both (x.read entries (index + f.names.length) place)

instance : Applicative Fields where
  pure := none
  seq f x := followedBy f (x ())

/-- A field that must be there. -/
def required {α : Type} (name : String) (decoder : Decoder α) : Fields α where
  names := [name]
  read entries index place :=
    match entries.find? name index with
    | some (tree, position) => .ofExcept position (decoder place tree)
    | .none => entries.absent name index

/-- A field that has a value of its own where it is left out. -/
def defaulted {α : Type} (name : String) (decoder : Decoder α) (default : α) : Fields α where
  names := [name]
  read entries index place :=
    match entries.find? name index with
    | some (tree, position) => .ofExcept position (decoder place tree)
    | .none => .value default

/-- A field that may be left out or be null. -/
def optional {α : Type} (name : String) (decoder : Decoder α) : Fields (Option α) :=
  defaulted name (Decoder.nullable decoder) Option.none

end Fields

/-- A number of things, as a message names it. -/
def elements (n : Nat) : String := toString n ++ if n = 1 then " element" else " elements"

/-- Looks for the first thing wrong with the members of an object apart from the values of its
fields: a key that is no text, a field that stands there twice, one that is unknown though only
known ones may be there, or an unknown one whose value is no JSON. -/
def checkMembers (known : List String) (onlyKnown closed : Bool) :
    Nat → List String → List (Text × Tree) → Reading Unit
  | position, _, [] => if closed then .value () else .fault position .malformed
  | position, _, (none, _) :: _ => .fault position .malformed
  | position, seen, (some key, tree) :: rest =>
    if known.contains key then
      if seen.contains key then .fault position (.duplicateField key)
      else checkMembers known onlyKnown closed (position + 1) (key :: seen) rest
    else if onlyKnown then .fault position (.unknownField key known)
    else if tree.isWhole then checkMembers known onlyKnown closed (position + 1) seen rest
    else .fault position .malformed

/-- Looks for what is wrong with the number of items of an array. -/
def checkItems (expected : Nat) (closed : Bool) (place : Place) (items : List Tree) :
    Reading Unit :=
  if expected < items.length then
    .fault expected
      (if place.isHeld then .wrongLength items.length (elements expected ++ " in sequence")
        else .malformed)
  else if closed then .value ()
  else .fault items.length .malformed

namespace Fields

/-- Reads a record from the members of an object. -/
def fromMembers {α : Type} (fields : Fields α) (onlyKnown : Bool) (members : List (Text × Tree))
    (closed : Bool) (place : Place) : Except DecodeError α :=
  let check := checkMembers fields.names onlyKnown closed 0 [] members
  (Reading.both (.both (.value fun _ a => a) check) (fields.read (.members members) 0 place)).result

/-- Reads a record from the items of an array. -/
def fromItems {α : Type} (fields : Fields α) (shape : String) (items : List Tree) (closed : Bool)
    (place : Place) : Except DecodeError α :=
  let expected := shape ++ " with " ++ elements fields.names.length
  let check := checkItems fields.names.length closed place items
  (Reading.both (.both (.value fun _ a => a) check)
    (fields.read (.items items closed expected) 0 place)).result

end Fields

namespace Decoder

/-- Reads a record of the given name. -/
def record {α : Type} (name : String) (fields : Fields α) (onlyKnown : Bool) : Decoder α
  | place, .object members closed => place.enter (fields.fromMembers onlyKnown members closed)
  | place, .array items closed => place.enter (fields.fromItems ("struct " ++ name) items closed)
  | _, tree => mismatch tree ("struct " ++ name)

end Decoder

/-! ## Choices -/

/-- One of several records: the tag that tells it, its name in messages, and its fields. -/
structure Variant (α : Type) where
  tag : String
  label : String
  fields : Fields α

namespace Variant

/-- Finds a variant by its tag. -/
def named {α : Type} (variants : List (Variant α)) (tag : String) :
    Except DecodeError (Variant α) :=
  match variants.find? (·.tag == tag) with
  | some variant => .ok variant
  | none => .error (.unknownVariant tag (variants.map (·.tag)))

/-- Reads the tag of a variant. In a tree that is held, the tag may also be given by its index. -/
def ofTag {α : Type} (variants : List (Variant α)) (place : Place) (tree : Tree) :
    Except DecodeError (Variant α) :=
  match tree with
  | .string (some tag) => named variants tag
  | .number (.natural n) =>
    if !place.isHeld then mismatch tree "variant identifier"
    else
      match variants[n]? with
      | some variant => .ok variant
      | none =>
        .error (.wrongValue (.natural n)
          ("variant index 0 <= i < " ++ toString variants.length))
  | tree => mismatch tree "variant identifier"

/-- Finds the tag among the members of an object, all of which are read before the record is. -/
def ofMembers {α : Type} (variants : List (Variant α)) (closed : Bool) (place : Place) :
    Option (Variant α) → List (Text × Tree) → Except DecodeError (Variant α)
  | found, [] =>
    if !closed then .error .malformed
    else
      match found with
      | some variant => .ok variant
      | none => .error (.missingField "kind")
  | _, (none, _) :: _ => .error .malformed
  | found, (some key, tree) :: rest =>
    if key == "kind" then
      if found.isSome then .error (.duplicateField "kind")
      else do ofMembers variants closed place (some (← ofTag variants place tree)) rest
    else if place.isHeld || tree.isHeld place.room then
      ofMembers variants closed place found rest
    else .error .malformed

end Variant

namespace Decoder

/-- Reads one of several records. It is held as a whole before its fields are read. -/
def tagged {α : Type} (name : String) (variants : List (Variant α)) : Decoder α
  | place, .object members closed =>
    place.enter fun inner => do
      let variant ← Variant.ofMembers variants closed inner none members
      variant.fields.fromMembers false (members.filter (·.1 != some "kind")) true
        { inner with isHeld := true }
  | place, .array [] closed =>
    place.enter fun _ => .error (if closed then .missingField "kind" else .malformed)
  | place, .array (tag :: items) closed =>
    place.enter fun inner => do
      let variant ← Variant.ofTag variants inner tag
      if inner.isHeld || (closed && Tree.allHeld inner.room items) then
        variant.fields.fromItems ("struct variant " ++ name ++ "::" ++ variant.label) items true
          { inner with isHeld := true }
      else .error .malformed
  | _, tree => mismatch tree ("internally tagged enum " ++ name)

/-- Reads one of several words, or an object whose only key is the word and whose value is null. -/
def word {α : Type} (words : List (String × α)) : Decoder α
  | _, .string (some word) => meaning word
  | place, .object members closed =>
    place.enter fun _ =>
      match members with
      | (some key, tree) :: rest => do
        let a ← meaning key
        match tree with
        | .null => if rest.isEmpty && closed then .ok a else .error .malformed
        | tree => mismatch tree "unit"
      | _ => .error .malformed
  | _, _ => .error .malformed
where
  meaning (word : String) : Except DecodeError α :=
    match words.lookup word with
    | some a => .ok a
    | none => .error (.unknownVariant word (words.map (·.1)))

end Decoder

end LockDiscipline.Json
