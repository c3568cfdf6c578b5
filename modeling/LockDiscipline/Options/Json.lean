-- The options as JSON, with every option written out. Reading them refuses names that are no
-- option.
import LockDiscipline.Json.Decoder
import LockDiscipline.Options

namespace LockDiscipline.Options

open LockDiscipline.Json LockDiscipline.Json.Fields LockDiscipline.Json.Decoder

/-- A list of names, with the default where it is left out. -/
def namesField (name : String) (default : List String) : Fields (List String) :=
  defaulted name (list string) default

/-- Reads options; each one that is left out has its default. -/
def decoder : Decoder Options :=
  record "CheckOptions"
    (Options.mk <$> namesField "read_write_lock_types" default.readWriteLockTypes
      <*> namesField "lock_types" default.lockTypes
      <*> namesField "acquire_methods" default.acquireMethods
      <*> namesField "release_methods" default.releaseMethods
      <*> defaulted "jobs" size default.jobs) true

def toJson (options : Options) : Tree :=
  .ofMembers
    [ ("read_write_lock_types", .ofList (options.readWriteLockTypes.map .ofString)),
      ("lock_types", .ofList (options.lockTypes.map .ofString)),
      ("acquire_methods", .ofList (options.acquireMethods.map .ofString)),
      ("release_methods", .ofList (options.releaseMethods.map .ofString)),
      ("jobs", .ofNat options.jobs) ]

end LockDiscipline.Options
