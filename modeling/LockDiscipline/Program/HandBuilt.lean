-- Trees that are put together by hand know no places inside bodies. A copy of a tree made that
-- way keeps what the short forms of nodes can say; kinds of nodes that have no short form are
-- taken over as they are.
import LockDiscipline.Program.Unit

namespace LockDiscipline

/-! ## Bodies -/

mutual

/-- The copy of an expression. An assignment has a plain short form only. -/
def Expr.handBuilt : Expr → Expr
  | .this _ => .this .unknown
  | .qualifiedThis cls _ => .qualifiedThis cls .unknown
  | .name n _ => .name n .unknown
  | .select receiver n _ => .select receiver.handBuilt n .unknown
  | .classLit cls _ => .classLit cls .unknown
  | .call receiver method args _ =>
    .call (Expr.handBuiltOption receiver) method (Expr.handBuiltAll args) .unknown
  | .assign target value _ _ => .assign target.handBuilt value.handBuilt none .unknown
  | .binary op lhs rhs _ => .binary op lhs.handBuilt rhs.handBuilt .unknown
  | .lambda params body _ => .lambda params (Stmt.handBuiltAll body) .unknown
  | .literal value _ => .literal value .unknown
  | .new cls args span => .new cls args span
  | .unary op operand span => .unary op operand span
  | .conditional cond thenVal elseVal span => .conditional cond thenVal elseVal span
  | .index base i span => .index base i span
  | .cast type expr span => .cast type expr span

/-- The copies of a list of expressions. -/
def Expr.handBuiltAll : List Expr → List Expr
  | [] => []
  | expr :: rest => expr.handBuilt :: Expr.handBuiltAll rest

/-- The copy of an expression that may be left out. -/
def Expr.handBuiltOption : Option Expr → Option Expr
  | none => none
  | some expr => some expr.handBuilt

/-- The copy of a statement. -/
def Stmt.handBuilt : Stmt → Stmt
  | .evaluate expr => .evaluate expr.handBuilt
  | .declare name type init _ => .declare name type (Expr.handBuiltOption init) .unknown
  | .returns value _ => .returns (Expr.handBuiltOption value) .unknown
  | .throws value _ => .throws value.handBuilt .unknown
  | .synchronized lock body _ =>
    .synchronized lock.handBuilt (Stmt.handBuiltAll body) .unknown
  | .ifElse cond thenBranch elseBranch _ =>
    .ifElse cond.handBuilt (Stmt.handBuiltAll thenBranch) (Stmt.handBuiltOption elseBranch)
      .unknown
  | .tryBlock body catches atEnd _ =>
    .tryBlock (Stmt.handBuiltAll body) (Stmt.handBuiltCatches catches)
      (Stmt.handBuiltOption atEnd) .unknown
  | .block body span => .block body span
  | .whileLoop cond body span => .whileLoop cond body span
  | .doWhile body cond span => .doWhile body cond span
  | .forLoop init cond update body span => .forLoop init cond update body span
  | .forEach var type iterable body span => .forEach var type iterable body span
  | .switch subject cases span => .switch subject cases span
  | .breaks span => .breaks span
  | .continues span => .continues span

/-- The copies of a list of statements. -/
def Stmt.handBuiltAll : List Stmt → List Stmt
  | [] => []
  | stmt :: rest => stmt.handBuilt :: Stmt.handBuiltAll rest

/-- The copies of the statements of a block that may be left out. -/
def Stmt.handBuiltOption : Option (List Stmt) → Option (List Stmt)
  | none => none
  | some body => some (Stmt.handBuiltAll body)

/-- The copies of handlers. -/
def Stmt.handBuiltCatches : List CatchClause → List CatchClause
  | [] => []
  | .mk param type body :: rest =>
    .mk param type (Stmt.handBuiltAll body) :: Stmt.handBuiltCatches rest

end

/-! ## Declarations -/

/-- An annotation at the place of the member that it stands on. -/
def GuardNote.onMember (span : Span) (note : GuardNote) : GuardNote :=
  ⟨note.text, span⟩

/-- The copy of a field, without its initializer. -/
def FieldDecl.handBuilt (field : FieldDecl) : FieldDecl :=
  { field with
    guardedBy := field.guardedBy.map (.onMember field.span)
    initializer := none }

/-- The copy of a method. A constructor bears the simple name of its class. -/
def MethodDecl.handBuilt (cls : String) (method : MethodDecl) : MethodDecl :=
  { method with
    name := if method.isConstructor then cls else method.name
    guardedBy := method.guardedBy.map (.onMember method.span)
    body := Stmt.handBuiltAll method.body }

/-- The copy of an initializer, at no known place. -/
def Initializer.handBuilt (initializer : Initializer) : Initializer :=
  ⟨initializer.isStatic, Stmt.handBuiltAll initializer.body, .unknown⟩

mutual

/-- The copy of a class, at no known place. -/
def ClassDecl.handBuilt : ClassDecl → ClassDecl
  | .mk name supertypes isStatic fields methods initializers nested _ =>
    .mk name supertypes isStatic (fields.map (·.handBuilt))
      (methods.map (·.handBuilt (String.ofList (Text.lastSegment name.toList))))
      (initializers.map (·.handBuilt)) (ClassDecl.handBuiltAll nested) .unknown

/-- The copies of a list of classes. -/
def ClassDecl.handBuiltAll : List ClassDecl → List ClassDecl
  | [] => []
  | cls :: rest => cls.handBuilt :: ClassDecl.handBuiltAll rest

end

/-- The copy of a unit. -/
def CompilationUnit.handBuilt (unit : CompilationUnit) : CompilationUnit :=
  { unit with classes := ClassDecl.handBuiltAll unit.classes }

end LockDiscipline
