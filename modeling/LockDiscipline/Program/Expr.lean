-- The expressions and statements of method bodies. The tree is small and of the shape of Java:
-- it keeps what decides which locks are held where, and the text of everything else.
import LockDiscipline.Program.Span

namespace LockDiscipline

/-! ## Expressions and statements -/

/-- A parameter of a method or of a lambda, with its type as written. -/
structure Param where
  name : String
  type : String
  deriving DecidableEq, Repr, Inhabited

mutual

/-- An expression. Every node carries the place where it stands. -/
inductive Expr
  /-- The current object. -/
  | this (span : Span)
  /-- An object around the current one: `Outer.this`. -/
  | qualifiedThis (cls : String) (span : Span)
  /-- A bare identifier: a local, a parameter, a field or a type name. -/
  | name (name : String) (span : Span)
  /-- A field of a receiver, or a longer qualified name: `receiver.name`. -/
  | select (receiver : Expr) (name : String) (span : Span)
  /-- A class object: `Type.class`. -/
  | classLit (cls : String) (span : Span)
  /-- A method call, with or without a receiver. -/
  | call (receiver : Option Expr) (method : String) (args : List Expr) (span : Span)
  /-- The creation of an object. -/
  | new (cls : String) (args : List Expr) (span : Span)
  /-- An assignment; a compound one such as `+=` names its operator. -/
  | assign (target : Expr) (value : Expr) (op : Option String) (span : Span)
  /-- A unary operation; `post++` and `post--` stand behind their operand. -/
  | unary (op : String) (operand : Expr) (span : Span)
  /-- A binary operation. -/
  | binary (op : String) (lhs : Expr) (rhs : Expr) (span : Span)
  /-- A choice between two values. -/
  | conditional (cond : Expr) (thenVal : Expr) (elseVal : Expr) (span : Span)
  /-- An element of an array. -/
  | index (base : Expr) (index : Expr) (span : Span)
  /-- A value seen at another type. -/
  | cast (type : String) (expr : Expr) (span : Span)
  /-- A function value, whose body may run long after the expression. -/
  | lambda (params : List Param) (body : List Stmt) (span : Span)
  /-- A literal, as written. -/
  | literal (value : String) (span : Span)

/-- A statement. -/
inductive Stmt
  /-- An expression evaluated for its effect; it has no place of its own. -/
  | evaluate (expr : Expr)
  /-- The declaration of a local variable. -/
  | declare (name : String) (type : String) (init : Option Expr) (span : Span)
  | block (body : List Stmt) (span : Span)
  | ifElse (cond : Expr) (thenBranch : List Stmt) (elseBranch : Option (List Stmt)) (span : Span)
  | whileLoop (cond : Expr) (body : List Stmt) (span : Span)
  | doWhile (body : List Stmt) (cond : Expr) (span : Span)
  | forLoop (init : List Stmt) (cond : Option Expr) (update : List Expr) (body : List Stmt)
      (span : Span)
  | forEach (var : String) (type : String) (iterable : Expr) (body : List Stmt) (span : Span)
  | switch (subject : Expr) (cases : List SwitchCase) (span : Span)
  | returns (value : Option Expr) (span : Span)
  | throws (value : Expr) (span : Span)
  | breaks (span : Span)
  | continues (span : Span)
  /-- A block that runs while the monitor of an object is held. -/
  | synchronized (lock : Expr) (body : List Stmt) (span : Span)
  /-- A block with its handlers and with the statements that run however it ends. -/
  | tryBlock (body : List Stmt) (catches : List CatchClause) (atEnd : Option (List Stmt))
      (span : Span)

/-- One case of a switch; the default case has no label. -/
inductive SwitchCase
  | mk (labels : List Expr) (body : List Stmt)

/-- One handler of a try block. -/
inductive CatchClause
  | mk (param : String) (type : String) (body : List Stmt)

end

instance : Inhabited Expr := ⟨.this .unknown⟩

instance : Inhabited Stmt := ⟨.breaks .unknown⟩

namespace Expr

/-- Where the expression stands. -/
def span : Expr → Span
  | this span | qualifiedThis _ span | name _ span | select _ _ span | classLit _ span
  | call _ _ _ span | new _ _ span | assign _ _ _ span | unary _ _ span | binary _ _ _ span
  | conditional _ _ _ span | index _ _ span | cast _ _ span | lambda _ _ span
  | literal _ span => span

/-- The expression moved to another place; what stands inside it keeps its own. -/
def movedTo (place : Span) : Expr → Expr
  | this _ => this place
  | qualifiedThis cls _ => qualifiedThis cls place
  | name n _ => name n place
  | select receiver n _ => select receiver n place
  | classLit cls _ => classLit cls place
  | call receiver method args _ => call receiver method args place
  | new cls args _ => new cls args place
  | assign target value op _ => assign target value op place
  | unary op operand _ => unary op operand place
  | binary op lhs rhs _ => binary op lhs rhs place
  | conditional cond thenVal elseVal _ => conditional cond thenVal elseVal place
  | index base i _ => index base i place
  | cast type expr _ => cast type expr place
  | lambda params body _ => lambda params body place
  | literal value _ => literal value place

@[simp] theorem span_movedTo (place : Span) (e : Expr) : (e.movedTo place).span = place := by
  cases e <;> rfl

/-- The dotted text of a plain chain of names, `a.b.c`; no other expression has one. -/
def dottedName? : Expr → Option String
  | name n _ => some n
  | select receiver n _ => (dottedName? receiver).map (· ++ "." ++ n)
  | _ => none

end Expr

end LockDiscipline
