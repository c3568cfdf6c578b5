-- Types and fields as the analysis knows them: by name.
import LockDiscipline.Text.Segments

namespace LockDiscipline

/-! ## Type names -/

/-- The name of a type: a qualified one, or, for a type that nothing declares, the text that was
written. -/
structure TypeName where
  text : String
  deriving DecidableEq, Repr, Inhabited

namespace TypeName

/-- The last piece of the name. -/
def simple (type : TypeName) : String :=
  String.ofList (Text.lastSegment type.text.toList)

/-- The type above all others. -/
def object : TypeName := ⟨"java.lang.Object"⟩

/-- The type of class objects. -/
def classObject : TypeName := ⟨"java.lang.Class"⟩

/-- The type of explicit locks. -/
def lock : TypeName := ⟨"java.util.concurrent.locks.Lock"⟩

/-- The lock that its holder may take again. -/
def reentrantLock : TypeName := ⟨"java.util.concurrent.locks.ReentrantLock"⟩

/-- The type of pairs of a lock for readers and a lock for writers. -/
def readWriteLock : TypeName := ⟨"java.util.concurrent.locks.ReadWriteLock"⟩

/-- The pair whose locks their holders may take again. -/
def reentrantReadWriteLock : TypeName := ⟨"java.util.concurrent.locks.ReentrantReadWriteLock"⟩

/-- The readers' half of such a pair. -/
def readLock : TypeName := ⟨"java.util.concurrent.locks.ReentrantReadWriteLock.ReadLock"⟩

/-- The writers' half of such a pair. -/
def writeLock : TypeName := ⟨"java.util.concurrent.locks.ReentrantReadWriteLock.WriteLock"⟩

end TypeName

/-! ## Fields -/

/-- A field that a class declares. The class and the name say which field it is; its type and
whether it is static are facts about it. -/
structure FieldSymbol where
  owner : TypeName
  name : String
  type : TypeName
  isStatic : Bool
  deriving DecidableEq, Repr, Inhabited

namespace FieldSymbol

/-- Whether two symbols name one field. -/
def same (a b : FieldSymbol) : Bool := a.owner == b.owner && a.name == b.name

end FieldSymbol

/-! ## What the analysis asks about types -/

/-- The questions about types that the analysis asks, and nothing more. -/
structure TypeLookup where
  /-- Whether the first type is the second or below it. -/
  isSubtype : TypeName → TypeName → Bool
  /-- The type that a written name stands for, if it stands for one. -/
  resolve : String → Option TypeName
  /-- The field of that name which objects of a type have. -/
  field : TypeName → String → Option FieldSymbol
  /-- The names of the fields of a type. They serve suggestions only, so a lookup may have none. -/
  fieldNames : TypeName → List String

namespace TypeLookup

/-- A type as written in source: the type that the name stands for, else the bare name. -/
def written (types : TypeLookup) (name : String) : TypeName :=
  (types.resolve name).getD ⟨name⟩

/-- The same lookup, with no list of field names. -/
def withoutMembers (types : TypeLookup) : TypeLookup :=
  { types with fieldNames := fun _ => [] }

end TypeLookup

end LockDiscipline
