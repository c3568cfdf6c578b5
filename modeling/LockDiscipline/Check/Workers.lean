-- The members of a unit may be checked by several workers at once. Each claims the next index that
-- no worker has claimed, sends the outcome of that member, and stops when no member has the index.
-- The outcomes come in any order, and are put back into that of the members at the end.
import LockDiscipline.Check.Report

namespace LockDiscipline

/-! ## Workers -/

/-- Where a worker is in its loop. -/
inductive Worker
  /-- It is about to claim an index. -/
  | ready
  /-- It has claimed an index and sent nothing for it. -/
  | holding (index : Nat)
  /-- It has claimed an index that no item has. -/
  | stopped (index : Nat)
  deriving DecidableEq, Repr

/-- Workers that share a counter and a channel. -/
structure Pool (Outcome : Type) where
  /-- The index that is claimed next. -/
  next : Nat
  workers : List Worker
  /-- What was sent, in the order of arrival: the index of an item and its outcome. -/
  sent : List (Nat × Outcome)

namespace Pool

/-- What a worker does in one step. -/
inductive Action
  | claim (index : Nat)
  | send (index : Nat)
  | stop (index : Nat)
  deriving DecidableEq, Repr

variable {Item Outcome : Type}

/-- That many workers before their first step. -/
def start (jobs : Nat) : Pool Outcome := ⟨0, List.replicate jobs .ready, []⟩

def Finished (pool : Pool Outcome) : Prop :=
  ∀ worker ∈ pool.workers, ∃ index, worker = .stopped index

/-- The outcomes in the order of the indices that they were sent with. -/
def inOrder (pool : Pool Outcome) : List Outcome :=
  (pool.sent.mergeSort fun a b => a.1 ≤ b.1).map (·.2)

variable (check : Item → Outcome) (items : List Item)

/-- One worker, wherever it stands among the others, takes one step. Claiming an index reads the
counter and moves it on in one go. -/
inductive Step : Pool Outcome → Action → Pool Outcome → Prop
  | claim {next : Nat} {before after : List Worker} {sent : List (Nat × Outcome)} :
      Step ⟨next, before ++ .ready :: after, sent⟩ (.claim next)
        ⟨next + 1, before ++ .holding next :: after, sent⟩
  | send {next index : Nat} {before after : List Worker} {sent : List (Nat × Outcome)}
      {item : Item} : items[index]? = some item →
      Step ⟨next, before ++ .holding index :: after, sent⟩ (.send index)
        ⟨next, before ++ .ready :: after, sent ++ [(index, check item)]⟩
  | stop {next index : Nat} {before after : List Worker} {sent : List (Nat × Outcome)} :
      items[index]? = none →
      Step ⟨next, before ++ .holding index :: after, sent⟩ (.stop index)
        ⟨next, before ++ .stopped index :: after, sent⟩

/-- The steps of the workers in some order, one after the other. -/
inductive Run (first : Pool Outcome) : List Action → Pool Outcome → Prop
  | nothing : Run first [] first
  | andThen {actions : List Action} {action : Action} {pool last : Pool Outcome} :
      Run first actions pool → Step check items pool action last →
      Run first (actions ++ [action]) last

end Pool

/-! ## Checking a unit with workers -/

namespace Options

/-- How many workers are asked for, on a machine with that many processors. -/
def effectiveJobs (options : Options) (processors : Nat) : Nat :=
  if options.jobs = 0 then max processors 1 else options.jobs

/-- How many workers there are for so many members: no more than members, and at least one. -/
def workersFor (options : Options) (processors members : Nat) : Nat :=
  max (min (options.effectiveJobs processors) members) 1

end Options

/-- What may be reported on a unit: one worker goes through the members in order, several run until
all have stopped. -/
inductive CompilationUnit.Reports (unit : CompilationUnit) (types : TypeLookup) (options : Options)
    (processors : Nat) : Report → Prop
  | alone : options.workersFor processors unit.members.length = 1 →
      Reports unit types options processors
        (unit.report (unit.validate types)
          (unit.outcomes types options (unit.validate types).guards))
  | together {actions : List Pool.Action} {pool : Pool MemberOutcome} :
      options.workersFor processors unit.members.length ≠ 1 →
      Pool.Run (options.outcome types (unit.validate types).guards) unit.members
        (.start (options.workersFor processors unit.members.length)) actions pool →
      pool.Finished → Reports unit types options processors
        (unit.report (unit.validate types) pool.inOrder)

end LockDiscipline
