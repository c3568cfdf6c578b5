-- What a project may set: which types are locks, which calls take and release them, and how many
-- workers check its members.
import LockDiscipline.Types.Name

namespace LockDiscipline

/-! ## Options -/

/-- The options of a check. -/
structure Options where
  /-- A guard of one of these types, or of a type below one, is never enforced. -/
  readWriteLockTypes : List String
  /-- Only calls on objects of these types, or of types below them, take and release locks. -/
  lockTypes : List String
  /-- The methods that take a lock. -/
  acquireMethods : List String
  /-- The methods that release one. -/
  releaseMethods : List String
  /-- The number of workers; zero means one for each processor. -/
  jobs : Nat
  deriving DecidableEq, Repr

namespace Options

/-- The options of a project that sets none. -/
def default : Options where
  readWriteLockTypes := [TypeName.readWriteLock.text]
  lockTypes := [TypeName.lock.text]
  acquireMethods := ["lock", "lockInterruptibly"]
  releaseMethods := ["unlock"]
  jobs := 0

instance : Inhabited Options := ⟨default⟩

end Options

end LockDiscipline
