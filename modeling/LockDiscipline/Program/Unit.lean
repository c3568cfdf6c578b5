-- The classes of a source file, with what they declare.
import LockDiscipline.Program.Expr
import LockDiscipline.Text.Segments

namespace LockDiscipline

/-! ## Declarations -/

/-- The text that names the lock of a field or a method, as the annotation gives it. -/
structure GuardNote where
  text : String
  span : Span
  deriving DecidableEq, Repr, Inhabited

/-- A field, with its type as written. Its initializer is never analysed. -/
structure FieldDecl where
  name : String
  type : String
  isStatic : Bool
  guardedBy : Option GuardNote
  initializer : Option Expr
  span : Span

/-- Constructors are told from other methods: nothing is checked inside them. -/
inductive MethodKind
  | method
  | constructor
  deriving DecidableEq, Repr, Inhabited

structure MethodDecl where
  name : String
  kind : MethodKind
  isStatic : Bool
  isSynchronized : Bool
  params : List Param
  guardedBy : Option GuardNote
  body : List Stmt
  span : Span

/-- A block of code that runs when an object or a class is set up. It is never analysed. -/
structure Initializer where
  isStatic : Bool
  body : List Stmt
  span : Span

/-- A class by its qualified name. A static class has no object of the class around it. -/
inductive ClassDecl
  | mk (name : String) (supertypes : List String) (isStatic : Bool) (fields : List FieldDecl)
      (methods : List MethodDecl) (initializers : List Initializer) (nested : List ClassDecl)
      (span : Span)

/-- What is checked at once: the classes of one source file, with its path and its text if they
are known. -/
structure CompilationUnit where
  path : Option String
  source : Option String
  classes : List ClassDecl

instance : Inhabited CompilationUnit := ⟨⟨none, none, []⟩⟩

namespace MethodDecl

def isConstructor (method : MethodDecl) : Bool := method.kind == .constructor

/-- How many parameters the method has. -/
def arity (method : MethodDecl) : Nat := method.params.length

end MethodDecl

namespace ClassDecl

def name : ClassDecl → String
  | mk name _ _ _ _ _ _ _ => name

def supertypes : ClassDecl → List String
  | mk _ supertypes _ _ _ _ _ _ => supertypes

def isStatic : ClassDecl → Bool
  | mk _ _ isStatic _ _ _ _ _ => isStatic

def fields : ClassDecl → List FieldDecl
  | mk _ _ _ fields _ _ _ _ => fields

def methods : ClassDecl → List MethodDecl
  | mk _ _ _ _ methods _ _ _ => methods

def initializers : ClassDecl → List Initializer
  | mk _ _ _ _ _ initializers _ _ => initializers

def nested : ClassDecl → List ClassDecl
  | mk _ _ _ _ _ _ nested _ => nested

def span : ClassDecl → Span
  | mk _ _ _ _ _ _ _ span => span

/-- The last piece of the qualified name. -/
def simpleName (cls : ClassDecl) : String :=
  String.ofList (Text.lastSegment cls.name.toList)

end ClassDecl

end LockDiscipline
