-- The walk goes through a method body forward and reports every access to guarded state with the
-- lock it needs and the locks held there. Locks follow the shape of the program: what a
-- statement takes, it gives back, so the set after a statement is the set before it.
import LockDiscipline.Analysis.Calls

namespace LockDiscipline

/-! ## Accesses -/

/-- An access to guarded state: the expression, the guard it needs, and the locks held just before
it. -/
structure Access where
  expr : Expr
  guard : Guard
  held : HeldSet

namespace Access

/-- Where the access stands. -/
def span (access : Access) : Span := access.expr.span

end Access

namespace Setting

variable (setting : Setting)

/-- The guard that reading or writing an expression needs: the one of the field that it means,
rebound to the object whose field it is. -/
def fieldGuard (locals : Locals) (expr : Expr) : Option Guard :=
  match setting.canonical locals expr with
  | .field receiver field => (setting.guards.fieldGuard field).map (·.rebind receiver)
  | .staticField field => setting.guards.fieldGuard field
  | _ => none

/-- The method that a call on an object of a type means. -/
def methodOf (owner : TypeName) (name : String) (arity : Nat) : Option MethodEntry :=
  setting.guards.method? setting.types owner name arity

/-- The guard that a call without a receiver needs. The innermost class that has the method decides;
if it is not the class of the member itself, the call goes to the object around the current one. -/
def bareCallGuard (name : String) (arity : Nat) : Option Guard :=
  let found := setting.scope.frames.zipIdx.findSome? fun (frame, level) =>
    (setting.methodOf frame.name name arity).map (frame, level, ·)
  found.bind fun (frame, level, method) =>
    method.guard.map fun guard =>
      if !frame.reachable || level == 0 then guard
      else guard.rebind (.enclosing level frame.name)

/-- The guard that a call on a receiver needs. A receiver without a type may be the name of one. -/
def receiverCallGuard (locals : Locals) (receiver : Expr) (name : String) (arity : Nat) :
    Option Guard :=
  let base := setting.canonical locals receiver
  match base.type with
  | some owner => do
    let method ← setting.methodOf owner name arity
    return (← method.guard).rebind base
  | none => do
    let owner ← setting.types.resolve (← receiver.dottedName?)
    let method ← setting.methodOf owner name arity
    method.guard

/-- The guard that a call needs. -/
def callGuard (locals : Locals) (receiver : Option Expr) (name : String) (arity : Nat) :
    Option Guard :=
  match receiver with
  | none => setting.bareCallGuard name arity
  | some receiver => setting.receiverCallGuard locals receiver name arity

/-- The access that a field expression is, if it is one. -/
def fieldAccess (locals : Locals) (held : HeldSet) (expr : Expr) : List Access :=
  (setting.fieldGuard locals expr).toList.map (⟨expr, ·, held⟩)

/-- The access that a call is, if it is one. -/
def callAccess (locals : Locals) (held : HeldSet) (receiver : Option Expr) (name : String)
    (args : List Expr) (span : Span) : List Access :=
  (setting.callGuard locals receiver name args.length).toList.map
    (⟨.call receiver name args span, ·, held⟩)

/-! ## Locals -/

/-- One more local, with its type as written. -/
def bind (locals : Locals) (name type : String) : Locals :=
  (name, setting.types.written type) :: locals

/-- The locals with those of a list of parameters. -/
def bindAll (locals : Locals) (params : List Param) : Locals :=
  params.foldl (fun locals param => setting.bind locals param.name param.type) locals

/-- The locals after a statement. Only the declaration of a local changes them. -/
def afterStmt (locals : Locals) : Stmt → Locals
  | .declare name type _ _ => setting.bind locals name type
  | _ => locals

/-! ## The walk -/

/-- The set held inside a try block, from the set outside and the locks credited to the block. -/
def insideTry (held : HeldSet) (credited : List Guard) : HeldSet :=
  if credited.isEmpty then held else held.enter.plusAll credited

mutual

/-- The accesses of an expression in the order of evaluation. A lambda may run after the locks
around it are released, so its body holds nothing. -/
def inExpr (locals : Locals) (held : HeldSet) : Expr → List Access
  | .this _ | .qualifiedThis _ _ | .classLit _ _ | .literal _ _ => []
  | .name n span =>
    if (locals.lookup n).isSome then [] else setting.fieldAccess locals held (.name n span)
  | .select receiver n span =>
    inExpr locals held receiver ++ setting.fieldAccess locals held (.select receiver n span)
  | .call receiver method args span =>
    inOption locals held receiver ++ inExprs locals held args
      ++ setting.callAccess locals held receiver method args span
  | .new _ args _ => inExprs locals held args
  | .assign target value _ _ => inExpr locals held target ++ inExpr locals held value
  | .unary _ operand _ => inExpr locals held operand
  | .binary _ lhs rhs _ => inExpr locals held lhs ++ inExpr locals held rhs
  | .conditional cond thenVal elseVal _ =>
    inExpr locals held cond ++ inExpr locals held thenVal ++ inExpr locals held elseVal
  | .index base i _ => inExpr locals held base ++ inExpr locals held i
  | .cast _ expr _ => inExpr locals held expr
  | .lambda params body _ => inBlock (setting.bindAll locals params) .empty [] body

/-- The accesses of a list of expressions. -/
def inExprs (locals : Locals) (held : HeldSet) : List Expr → List Access
  | [] => []
  | expr :: rest => inExpr locals held expr ++ inExprs locals held rest

/-- The accesses of an expression that may be left out. -/
def inOption (locals : Locals) (held : HeldSet) : Option Expr → List Access
  | none => []
  | some expr => inExpr locals held expr

/-- The accesses of a statement, where `pending` are the locks that statements before it in its
block took by explicit calls and did not release. -/
def inStmt (locals : Locals) (held : HeldSet) (pending : List Guard) : Stmt → List Access
  | .evaluate expr => inExpr locals held expr
  | .declare _ _ init _ => inOption locals held init
  | .block body _ => inBlock locals held [] body
  | .ifElse cond thenBranch elseBranch _ =>
    inExpr locals held cond ++ inBlock locals held [] thenBranch
      ++ inBranch locals held elseBranch
  | .whileLoop cond body _ => inExpr locals held cond ++ inBlock locals held [] body
  | .doWhile body cond _ => inBlock locals held [] body ++ inExpr locals held cond
  | .forLoop init cond update body _ =>
    let inner := init.foldl setting.afterStmt locals
    inInit locals held init ++ inOption inner held cond ++ inBlock inner held [] body
      ++ inExprs inner held update
  | .forEach var type iterable body _ =>
    inExpr locals held iterable ++ inBlock (setting.bind locals var type) held [] body
  | .switch subject cases _ => inExpr locals held subject ++ inCases locals held cases
  | .returns value _ => inOption locals held value
  | .throws value _ => inExpr locals held value
  | .breaks _ | .continues _ => []
  | .synchronized lock body _ =>
    inExpr locals held lock
      ++ inBlock locals (held.enter.plus (setting.canonical locals lock)) [] body
  | .tryBlock body catches atEnd _ =>
    let inner := insideTry held (setting.credited locals pending body atEnd)
    inBlock locals inner [] body ++ inCatches locals inner catches ++ inBranch locals held atEnd

/-- The accesses of the statements of a block. -/
def inBlock (locals : Locals) (held : HeldSet) (pending : List Guard) : List Stmt → List Access
  | [] => []
  | stmt :: rest =>
    inStmt locals held pending stmt
      ++ inBlock (setting.afterStmt locals stmt) held (setting.track locals pending stmt) rest

/-- The accesses of the statements that set up a loop. No lock taken there is credited to a try
block there. -/
def inInit (locals : Locals) (held : HeldSet) : List Stmt → List Access
  | [] => []
  | stmt :: rest =>
    inStmt locals held [] stmt ++ inInit (setting.afterStmt locals stmt) held rest

/-- The accesses of a block that may be left out. -/
def inBranch (locals : Locals) (held : HeldSet) : Option (List Stmt) → List Access
  | none => []
  | some body => inBlock locals held [] body

/-- The accesses of the cases of a switch, the labels of each before its body. -/
def inCases (locals : Locals) (held : HeldSet) : List SwitchCase → List Access
  | [] => []
  | .mk labels body :: rest =>
    inExprs locals held labels ++ inBlock locals held [] body ++ inCases locals held rest

/-- The accesses of handlers, each with its parameter in scope. -/
def inCatches (locals : Locals) (held : HeldSet) : List CatchClause → List Access
  | [] => []
  | .mk param type body :: rest =>
    inBlock (setting.bind locals param type) held [] body ++ inCatches locals held rest

end

/-! ## Members -/

/-- The locks held when a method begins: the monitor that a synchronized method takes, and the guard
that its callers hold for it. -/
def entryLocks (method : MethodDecl) : HeldSet :=
  match setting.scope.currentClass with
  | none => .empty
  | some cls =>
    let monitor :=
      if !method.isSynchronized then []
      else if method.isStatic then [.classLit cls]
      else [.this cls]
    let guard := (setting.methodOf cls method.name method.arity).bind (·.guard)
    HeldSet.empty.plusAll (monitor ++ guard.toList)

/-- The accesses of a method in the order of evaluation. A constructor has none, for until it
ends no other thread knows the object. -/
def accesses (method : MethodDecl) : List Access :=
  if method.isConstructor then []
  else setting.inBlock (setting.bindAll [] method.params) (setting.entryLocks method) [] method.body

end Setting

end LockDiscipline
