-- Calls such as `mu.lock()` and `mu.unlock()` take and release locks, where the receiver is
-- known to be a lock and the call stands as a statement of its own.
import LockDiscipline.Guard.Canonical
import LockDiscipline.Guard.Table
import LockDiscipline.HeldSet
import LockDiscipline.Options

namespace LockDiscipline

/-! ## The words for locking -/

/-- Which calls take a lock and which release one, and on which types. -/
structure Vocabulary where
  acquireMethods : List String
  releaseMethods : List String
  lockTypes : List TypeName
  deriving DecidableEq, Repr, Inhabited

/-- The vocabulary that the options give. A lock type that nothing declares keeps its bare name. -/
def Options.vocabulary (options : Options) (types : TypeLookup) : Vocabulary where
  acquireMethods := options.acquireMethods
  releaseMethods := options.releaseMethods
  lockTypes := options.lockTypes.map types.written

/-! ## Statements inside statements -/

mutual

/-- The expressions that a statement evaluates as statements, itself or at any depth inside it. The
bodies of lambdas are not inside it. -/
def Stmt.evaluated : Stmt → List Expr
  | .evaluate expr => [expr]
  | .block body _ => Stmt.evaluatedAll body
  | .synchronized _ body _ => Stmt.evaluatedAll body
  | .whileLoop _ body _ => Stmt.evaluatedAll body
  | .doWhile body _ _ => Stmt.evaluatedAll body
  | .forEach _ _ _ body _ => Stmt.evaluatedAll body
  | .forLoop init _ _ body _ => Stmt.evaluatedAll init ++ Stmt.evaluatedAll body
  | .switch _ cases _ => Stmt.evaluatedCases cases
  | .ifElse _ thenBranch elseBranch _ =>
    Stmt.evaluatedAll thenBranch ++ Stmt.evaluatedOption elseBranch
  | .tryBlock body catches atEnd _ =>
    Stmt.evaluatedAll body ++ Stmt.evaluatedCatches catches ++ Stmt.evaluatedOption atEnd
  | .declare .. | .returns .. | .throws .. | .breaks _ | .continues _ => []

/-- The expressions that a list of statements evaluates as statements. -/
def Stmt.evaluatedAll : List Stmt → List Expr
  | [] => []
  | stmt :: rest => stmt.evaluated ++ Stmt.evaluatedAll rest

/-- The expressions that a branch, if there is one, evaluates as statements. -/
def Stmt.evaluatedOption : Option (List Stmt) → List Expr
  | none => []
  | some body => Stmt.evaluatedAll body

/-- The expressions that the cases of a switch evaluate as statements. -/
def Stmt.evaluatedCases : List SwitchCase → List Expr
  | [] => []
  | .mk _ body :: rest => Stmt.evaluatedAll body ++ Stmt.evaluatedCases rest

/-- The expressions that handlers evaluate as statements. -/
def Stmt.evaluatedCatches : List CatchClause → List Expr
  | [] => []
  | .mk _ _ body :: rest => Stmt.evaluatedAll body ++ Stmt.evaluatedCatches rest

end

/-! ## Locking calls -/

/-- What does not change while one member is analysed. -/
structure Setting where
  types : TypeLookup
  guards : GuardTable
  vocabulary : Vocabulary
  scope : Scope

namespace Setting

variable (setting : Setting)

/-- What gives the expressions of the member their meaning, for the locals in scope. -/
def context (locals : Locals) : Context := ⟨setting.types, setting.scope, locals⟩

/-- The canonical form of an expression of the member. -/
def canonical (locals : Locals) (expr : Expr) : Guard := (setting.context locals).canonical expr

/-- Whether the static type of an object is a lock type. -/
def isLock (guard : Guard) : Bool :=
  guard.type.any fun type => setting.vocabulary.lockTypes.any (setting.types.isSubtype type)

/-- The lock that an expression calls one of the given methods on, without arguments. -/
def lockCall (methods : List String) (locals : Locals) : Expr → Option Guard
  | .call (some receiver) method [] _ =>
    let lock := setting.canonical locals receiver
    if methods.contains method && setting.isLock lock then some lock else none
  | _ => none

/-- The lock that a statement takes by an explicit call. -/
def acquired (locals : Locals) : Stmt → Option Guard
  | .evaluate expr => setting.lockCall setting.vocabulary.acquireMethods locals expr
  | _ => none

/-- The locks that explicit calls release anywhere in a list of statements. The receivers are read
with the locals in scope before the statements. -/
def released (locals : Locals) (stmts : List Stmt) : List Guard :=
  (Stmt.evaluatedAll stmts).filterMap (setting.lockCall setting.vocabulary.releaseMethods locals)

/-- The locks that stay taken and not released after one more statement of a block. A release
anywhere inside the statement counts, on whatever path. -/
def track (locals : Locals) (pending : List Guard) (stmt : Stmt) : List Guard :=
  match setting.acquired locals stmt with
  | some lock => if pending.contains lock then pending else pending ++ [lock]
  | none =>
    let released := setting.released locals [stmt]
    pending.filter (!released.contains ·)

/-- The locks that are held throughout a try block and its handlers: taken before it in the same
block or by its first statement, and released at its end. -/
def credited (locals : Locals) (pending : List Guard) (body : List Stmt)
    (atEnd : Option (List Stmt)) : List Guard :=
  let taken := pending ++ (body.head?.bind (setting.acquired locals)).toList
  (setting.released locals (atEnd.getD [])).filter (taken.contains ·)

end Setting

end LockDiscipline
