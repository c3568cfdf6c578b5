-- An access is in order if the lock it needs is among those held. Read/write locks are left out:
-- which half of one is held is not known here.
import LockDiscipline.Analysis.Walk

namespace LockDiscipline

/-! ## Verdicts -/

/-- What is said of an access. -/
inductive Verdict
  | satisfied
  /-- The guard is a read/write lock, which is not enforced. -/
  | excluded
  | violation (message : String)
  deriving DecidableEq, Repr

/-- An access whose guard was not held. -/
structure Violation where
  span : Span
  /-- The source text of the access. -/
  access : String
  guard : Guard
  held : HeldSet
  message : String

/-- What is said of a member. -/
inductive MemberOutcome
  /-- A constructor, which is not checked. -/
  | exempt
  /-- How many guarded accesses the member has, and those that are violations. -/
  | checked (accesses : Nat) (violations : List Violation)

namespace MemberOutcome

def violations : MemberOutcome → List Violation
  | exempt => []
  | checked _ violations => violations

end MemberOutcome

/-- What is reported for an access that needs a guard while others are held. -/
def violationMessage (guard : Guard) (held : HeldSet) : String :=
  if held.isEmpty then
    "This access should be guarded by '" ++ guard.text ++ "', which is not currently held"
  else
    "This access should be guarded by '" ++ guard.text ++ "'; instead found: "
      ++ ", ".intercalate (held.locks.map fun lock => "'" ++ lock.text ++ "'")

/-! ## The rule -/

/-- What decides about accesses: the types, and the read/write lock types among them. -/
structure Checker where
  types : TypeLookup
  readWriteLockTypes : List TypeName

/-- The checker that the options give. A read/write lock type that nothing declares excludes
nothing. -/
def Options.checker (options : Options) (types : TypeLookup) : Checker :=
  ⟨types, options.readWriteLockTypes.filterMap types.resolve⟩

namespace Checker

variable (checker : Checker)

/-- Whether the static type of a guard is a read/write lock type. -/
def isReadWriteLock (guard : Guard) : Bool :=
  guard.type.any fun type => checker.readWriteLockTypes.any (checker.types.isSubtype type)

/-- The verdict for a guard where the given locks are held. -/
def judge (guard : Guard) (held : HeldSet) : Verdict :=
  if checker.isReadWriteLock guard then .excluded
  else if held.holds guard then .satisfied
  else .violation (violationMessage guard held)

/-- The violation that an access is, if it is one. -/
def violation? (access : Access) : Option Violation :=
  match checker.judge access.guard access.held with
  | .violation message =>
    some ⟨access.span, access.expr.text, access.guard, access.held, message⟩
  | _ => none

/-- Checks every access of a method. -/
def checkMember (setting : Setting) (method : MethodDecl) : MemberOutcome :=
  if method.isConstructor then .exempt
  else
    let accesses := setting.accesses method
    .checked accesses.length (accesses.filterMap checker.violation?)

end Checker

end LockDiscipline
