-- A report gathers what was found in a unit: rejected annotations first, then the accesses
-- without their guards, member by member.
import LockDiscipline.Diagnostic.Basic

namespace LockDiscipline

/-! ## Reports -/

structure Report where
  path : Option String
  diagnostics : List Diagnostic
  /-- How many members were checked. -/
  membersAnalyzed : Nat
  /-- How many constructors were left out. -/
  membersExempt : Nat
  /-- How many guarded accesses were seen. -/
  accesses : Nat
  rejectedGuards : Nat
  deriving DecidableEq, Repr

namespace Report

def errorCount (report : Report) : Nat := (report.diagnostics.filter (·.isError)).length

def hasErrors (report : Report) : Bool := 0 < report.errorCount

end Report

/-! ## Checking a unit -/

/-- A method at its place. -/
structure Member where
  site : ClassSite
  method : MethodDecl

namespace Member

/-- What the method's body is read in. -/
def scope (member : Member) : Scope := member.site.scope member.method.isStatic

end Member

/-- The methods of all classes of a unit, in the order of declaration. -/
def CompilationUnit.members (unit : CompilationUnit) : List Member :=
  unit.sites.flatMap fun site => site.cls.methods.map (⟨site, ·⟩)

/-- What is said of a member, where the guards are those that were accepted. -/
def Options.outcome (options : Options) (types : TypeLookup) (guards : GuardTable)
    (member : Member) : MemberOutcome :=
  (options.checker types).checkMember ⟨types, guards, options.vocabulary types, member.scope⟩
    member.method

/-- What is said of each member of a unit, in order. -/
def CompilationUnit.outcomes (unit : CompilationUnit) (types : TypeLookup) (options : Options)
    (guards : GuardTable) : List MemberOutcome :=
  unit.members.map (options.outcome types guards)

namespace MemberOutcome

/-- How many guarded accesses were seen in the member. -/
def accessCount : MemberOutcome → Nat
  | exempt => 0
  | checked accesses _ => accesses

def isExempt : MemberOutcome → Bool
  | exempt => true
  | checked .. => false

end MemberOutcome

/-- The report on a unit, from what is said of its annotations and of its members in order. -/
def CompilationUnit.report (unit : CompilationUnit) (validation : Validation)
    (outcomes : List MemberOutcome) : Report where
  path := unit.path
  diagnostics :=
    validation.errors.map (·.diagnostic unit)
      ++ (outcomes.flatMap (·.violations)).map (·.diagnostic unit)
  membersAnalyzed := outcomes.countP (!·.isExempt)
  membersExempt := outcomes.countP (·.isExempt)
  accesses := (outcomes.map (·.accessCount)).foldr (· + ·) 0
  rejectedGuards := validation.errors.length

/-- Checks a unit. The number of workers has no part in what is found. -/
def CompilationUnit.checkWith (unit : CompilationUnit) (types : TypeLookup) (options : Options) :
    Report :=
  let validation := unit.validate types
  unit.report validation (unit.outcomes types options validation.guards)

/-- Checks a unit by its own classes and the library's. -/
def CompilationUnit.check (unit : CompilationUnit) (options : Options) : Report :=
  unit.checkWith (ClassTable.ofUnit unit).lookup options

end LockDiscipline
