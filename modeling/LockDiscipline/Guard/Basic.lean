-- A guard names the object whose lock protects a field or a method. It is written from where the
-- member is declared, so `this` means the declaring object; an access through another object needs
-- the guard rebound to that object.
import LockDiscipline.Program.Expr
import LockDiscipline.Types.Name

namespace LockDiscipline

/-! ## Guards -/

/-- A lock by the object that carries it. Guards that come from different expressions for one object
are equal; what cannot be taken apart is kept as text. -/
inductive Guard
  /-- The current object, of the given class. -/
  | this (cls : TypeName)
  /-- The object that many classes out from the current one. -/
  | enclosing (level : Nat) (cls : TypeName)
  /-- An instance field of another guard's object. -/
  | field (receiver : Guard) (field : FieldSymbol)
  /-- A static field. -/
  | staticField (field : FieldSymbol)
  /-- The class object of a type. -/
  | classLit (cls : TypeName)
  /-- An expression known only by its text, with its static type if there is one. -/
  | verbatim (text : String) (type : Option TypeName)
  deriving DecidableEq, Repr, Inhabited

namespace Guard

/-- The static type of the object, where it is known. -/
def type : Guard → Option TypeName
  | this cls => some cls
  | enclosing _ cls => some cls
  | field _ f => some f.type
  | staticField f => some f.type
  | classLit _ => some .classObject
  | verbatim _ type => type

/-- Whether two guards name the same lock. Types take no part: there is only one current object, a
field is known by its class and its name, and a text by its characters. -/
def same : Guard → Guard → Bool
  | this _, this _ => true
  | enclosing m a, enclosing n b => m == n && a == b
  | field r f, field s g => r.same s && f.same g
  | staticField f, staticField g => f.same g
  | classLit a, classLit b => a == b
  | verbatim s _, verbatim t _ => s == t
  | _, _ => false

instance : BEq Guard := ⟨same⟩

/-- Whether the guard is known only by its text. -/
def isVerbatim : Guard → Bool
  | verbatim _ _ => true
  | _ => false

/-- The guard as a message shows it: classes by their simple names, and fields of the current object
without a receiver. -/
def text : Guard → String
  | this _ => "this"
  | enclosing _ cls => cls.simple ++ ".this"
  | field (this _) f => f.name
  | field receiver f => receiver.text ++ "." ++ f.name
  | staticField f => f.owner.simple ++ "." ++ f.name
  | classLit cls => cls.simple ++ ".class"
  | verbatim text _ => text

/-- The guard of a member reached through a receiver. Where the declaration says `this` the receiver
takes its place; objects around the current one can be followed from such objects only, and what
cannot be followed is written down as text. -/
def rebind : Guard → Guard → Guard
  | guard, this _ => guard
  | this _, receiver => receiver
  | enclosing level cls, enclosing outer _ => enclosing (level + outer) cls
  | enclosing level cls, receiver =>
    verbatim (receiver.text ++ "." ++ (enclosing level cls).text) (some cls)
  | field inner f, receiver => field (inner.rebind receiver) f
  | staticField f, _ => staticField f
  | classLit cls, _ => classLit cls
  | verbatim text type, receiver => verbatim (receiver.text ++ "." ++ text) type

/-- An expression for the guard, at no known place. -/
def toExpr : Guard → Expr
  | this _ => .this .unknown
  | enclosing _ cls => .qualifiedThis cls.text .unknown
  | field receiver f => .select receiver.toExpr f.name .unknown
  | staticField f => .select (.name f.owner.text .unknown) f.name .unknown
  | classLit cls => .classLit cls.text .unknown
  | verbatim text _ => .name text .unknown

end Guard

end LockDiscipline
