-- The class table answers questions about types from the classes of a unit and from the few
-- library types that locks have. A name stands for a type of the table if it is the name of one,
-- or if it is the last piece of the name of exactly one.
import LockDiscipline.Program.Unit
import LockDiscipline.Types.Name

namespace LockDiscipline

/-! ## Every class of a unit -/

mutual

/-- A class and every class inside it, each before those that it holds. -/
def ClassDecl.preorder : ClassDecl → List ClassDecl
  | .mk name supertypes isStatic fields methods initializers nested span =>
    .mk name supertypes isStatic fields methods initializers nested span
      :: ClassDecl.preorderAll nested

/-- The classes of a list and every class inside them, in order. -/
def ClassDecl.preorderAll : List ClassDecl → List ClassDecl
  | [] => []
  | cls :: rest => cls.preorder ++ ClassDecl.preorderAll rest

end

/-- Every class of a unit in the order of declaration. -/
def CompilationUnit.allClasses (unit : CompilationUnit) : List ClassDecl :=
  ClassDecl.preorderAll unit.classes

/-- The type that a class declares. -/
def ClassDecl.type (cls : ClassDecl) : TypeName := ⟨cls.name⟩

/-! ## The table -/

/-- What the table knows of one type. -/
structure ClassInfo where
  supertypes : List TypeName
  fields : List FieldSymbol
  deriving DecidableEq, Repr, Inhabited

/-- The known types, each once, with what is known of them. -/
structure ClassTable where
  entries : List (TypeName × ClassInfo)
  deriving Repr, Inhabited

namespace ClassTable

/-- The library types, each with the type directly above it. -/
def libraryTypes : List (TypeName × List TypeName) :=
  [ (.object, []),
    (.classObject, [.object]),
    (.lock, [.object]),
    (.reentrantLock, [.lock]),
    (.readWriteLock, [.object]),
    (.reentrantReadWriteLock, [.readWriteLock]),
    (.readLock, [.lock]),
    (.writeLock, [.lock]) ]

/-- What the library says of a type. -/
def libraryInfo (type : TypeName) : ClassInfo :=
  ⟨(libraryTypes.lookup type).getD [], []⟩

/-- The type that a written name stands for among the known ones: the one of exactly that name, or
the only one whose last piece it is. -/
def resolveAmong (known : List TypeName) (written : String) : Option TypeName :=
  if known.contains ⟨written⟩ then some ⟨written⟩
  else
    match known.filter (·.simple == written) with
    | [only] => some only
    | _ => none

/-- The names of the library types and of the classes of a unit, each once. -/
def knownNames (classes : List ClassDecl) : List TypeName :=
  (libraryTypes.map Prod.fst ++ classes.map ClassDecl.type).eraseDups

/-- A type as written, among the known ones. -/
def writtenAmong (known : List TypeName) (written : String) : TypeName :=
  (resolveAmong known written).getD ⟨written⟩

/-- What a declaration says of its class. A class that names no supertype is directly below the type
above all others. -/
def declaredInfo (known : List TypeName) (cls : ClassDecl) : ClassInfo where
  supertypes :=
    if cls.supertypes.isEmpty then [.object] else cls.supertypes.map (writtenAmong known)
  fields := cls.fields.map fun field =>
    ⟨cls.type, field.name, writtenAmong known field.type, field.isStatic⟩

/-- The table of a unit. Where a class is declared twice the later declaration counts, and a
declaration counts before the library. -/
def ofUnit (unit : CompilationUnit) : ClassTable :=
  let classes := unit.allClasses
  let known := knownNames classes
  ⟨known.map fun type =>
    match classes.reverse.find? (·.type == type) with
    | some cls => (type, declaredInfo known cls)
    | none => (type, libraryInfo type)⟩

variable (table : ClassTable)

/-- The names of the known types. -/
def names : List TypeName := table.entries.map (·.1)

/-- What is known of a type: nothing, if the table does not hold it. -/
def info (type : TypeName) : ClassInfo := (table.entries.lookup type).getD ⟨[], []⟩

/-- The type that a written name stands for. -/
def resolve (written : String) : Option TypeName := resolveAmong table.names written

/-! ## The types above a type -/

/-- The types one step above a list of types, without those seen before and each once. -/
def above (seen types : List TypeName) : List TypeName :=
  (types.flatMap fun type => (table.info type).supertypes).eraseDups.filter (!seen.contains ·)

/-- The types that are reached in at most the given number of rounds, the nearer first. -/
def climb : Nat → List TypeName → List TypeName → List TypeName
  | 0, _, _ => []
  | rounds + 1, seen, types =>
    types ++ climb rounds (seen ++ types) (table.above (seen ++ types) types)

/-- A type followed by all above it: the nearer first, at one distance in the order in which the
supertypes are written, and each once. Every round but the last two reaches a known type that
no earlier round has reached, so the rounds are enough. -/
def ancestry (type : TypeName) : List TypeName :=
  table.climb (table.entries.length + 1) [] [type]

/-- Whether a type is another or below it. Every type is below the one above all others. -/
def isSubtype (sub sup : TypeName) : Bool :=
  sub == sup || sup == .object || (table.ancestry sub).contains sup

/-- The field of a name that objects of a type have: the first one that the nearest type
declares. -/
def field (owner : TypeName) (name : String) : Option FieldSymbol :=
  (table.ancestry owner).findSome? fun type => (table.info type).fields.find? (·.name == name)

/-- The names of all fields that a type has, its own first. -/
def fieldNames (owner : TypeName) : List String :=
  (table.ancestry owner).flatMap fun type => (table.info type).fields.map (·.name)

/-- The table as the analysis asks it. -/
def lookup : TypeLookup where
  isSubtype := table.isSubtype
  resolve := table.resolve
  field := table.field
  fieldNames := table.fieldNames

end ClassTable

end LockDiscipline
