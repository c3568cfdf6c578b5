-- Every kind of finding has a code that stays the same, with an explanation: from E0700 on for
-- accesses, from E0710 on for annotations.
import LockDiscipline.Guard.Note

namespace LockDiscipline

/-! ## Error codes -/

/-- The kinds of findings. -/
inductive ErrorCode
  | unguardedAccess
  | malformedGuard
  | unresolvableGuard
  | instanceGuardOnStatic
  deriving DecidableEq, Repr

namespace ErrorCode

/-- Every code, in order. -/
def all : List ErrorCode :=
  [unguardedAccess, malformedGuard, unresolvableGuard, instanceGuardOnStatic]

/-- The code as it is written. -/
def text : ErrorCode → String
  | unguardedAccess => "E0700"
  | malformedGuard => "E0710"
  | unresolvableGuard => "E0711"
  | instanceGuardOnStatic => "E0712"

/-- What the finding means and what to do about it. -/
def explanation : ErrorCode → String
  | unguardedAccess =>
    "A field or method annotated as guarded by a lock was accessed on a path where that lock is "
      ++ "not provably held. Wrap the access in a synchronized block on the guard, acquire it with "
      ++ "lock() before a try whose finally calls unlock(), or annotate the enclosing method with "
      ++ "the same guard."
  | malformedGuard =>
    "The guard annotation text is not a lock expression. Accepted forms are 'this', "
      ++ "'Outer.this', a field name, a dotted field path such as 'a.b.c', 'Type.field' and "
      ++ "'Type.class'."
  | unresolvableGuard =>
    "The guard annotation does not name a lock the analysis can resolve: it is not 'this', an "
      ++ "enclosing instance, a class literal or a field visible from the annotated member. Check "
      ++ "the spelling of the field."
  | instanceGuardOnStatic =>
    "A static member is guarded by a lock that only exists per instance. Static state must be "
      ++ "guarded by a static field or a class literal."

/-- The code that a text is, if it is one. -/
def ofText? (text : String) : Option ErrorCode := all.find? (·.text == text)

/-- The explanation of a code given as text. -/
def explain (code : String) : String :=
  match ofText? code with
  | some code => code.explanation
  | none => "Unknown error code."

end ErrorCode

/-- The code of a rejected note. -/
def GuardError.code : GuardError → ErrorCode
  | malformed .. => .malformedGuard
  | unresolvable .. => .unresolvableGuard
  | instanceGuardOnStatic .. => .instanceGuardOnStatic

end LockDiscipline
