-- The counts of a report and its diagnostics are gathered in different passes: over the
-- annotations, over the members, and over the accesses of each. Every class is passed once, each
-- before those that it holds, so every annotation, member and access counts once and its diagnostic
-- stands in its place.
import LockDiscipline.Proofs.Members
import Mathlib.Data.List.Basic

namespace LockDiscipline

/-! ## The annotations of a unit -/

/-- An annotation with the name of its member and with what it is read in. -/
structure MemberNote where
  note : GuardNote
  member : String
  scope : Scope

/-- Why the annotation is rejected, if it is. -/
def MemberNote.rejection? (types : TypeLookup) (noted : MemberNote) : Option GuardError :=
  match noted.note.resolve noted.member noted.scope types with
  | .ok _ => none
  | .error error => some error

namespace ClassSite

variable (site : ClassSite)

def fieldNote? (field : FieldDecl) : Option MemberNote :=
  field.guardedBy.map (⟨·, field.name, site.scope field.isStatic⟩)

def methodNote? (method : MethodDecl) : Option MemberNote :=
  method.guardedBy.map (⟨·, method.name, site.scope method.isStatic⟩)

/-- The annotations of a class, those of its fields before those of its methods. -/
def notes : List MemberNote :=
  site.cls.fields.filterMap site.fieldNote? ++
    site.cls.methods.filterMap site.methodNote?

end ClassSite

/-- What is wrong with the annotations of a unit, class by class. -/
def CompilationUnit.rejections (unit : CompilationUnit) (types : TypeLookup) : List GuardError :=
  (unit.sites.flatMap (·.notes)).filterMap (·.rejection? types)

namespace Validation

variable (types : TypeLookup) (site : ClassSite)

theorem errors_addField (validation : Validation) (field : FieldDecl) :
    (addField types site validation field).errors =
      validation.errors ++ ((site.fieldNote? field).bind (·.rejection? types)).toList := by
  unfold addField ClassSite.fieldNote? MemberNote.rejection?
  cases field.guardedBy with
  | none => simp
  | some note =>
    cases h : note.resolve field.name (site.scope field.isStatic) types <;> simp [h]

theorem errors_addMethod (validation : Validation) (method : MethodDecl) :
    (addMethod types site validation method).errors =
      validation.errors ++ ((site.methodNote? method).bind (·.rejection? types)).toList := by
  unfold addMethod ClassSite.methodNote? MemberNote.rejection?
  cases method.guardedBy with
  | none => simp
  | some note =>
    cases h : note.resolve method.name (site.scope method.isStatic) types <;> simp [h]

/-- A pass over a list notes what each item adds, one after the other. -/
theorem errors_foldl {α : Type} {pass : Validation → α → Validation} {found : α → List GuardError}
    (h : ∀ validation item, (pass validation item).errors = validation.errors ++ found item)
    (items : List α) (validation : Validation) :
    (items.foldl pass validation).errors = validation.errors ++ items.flatMap found := by
  induction items generalizing validation with
  | nil => simp
  | cons item rest ih => rw [List.foldl_cons, ih, h, List.flatMap_cons, List.append_assoc]

theorem errors_addSite (validation : Validation) :
    (addSite types validation site).errors =
      validation.errors ++ site.notes.filterMap (·.rejection? types) := by
  unfold addSite ClassSite.notes
  rw [errors_foldl (errors_addMethod types site), errors_foldl (errors_addField types site),
    List.filterMap_append, List.filterMap_filterMap, List.filterMap_filterMap,
    List.filterMap_eq_flatMap_toList, List.filterMap_eq_flatMap_toList, List.append_assoc]

end Validation

theorem CompilationUnit.errors_validate (unit : CompilationUnit) (types : TypeLookup) :
    (unit.validate types).errors = unit.rejections types := by
  unfold validate rejections
  have hsites := fun validation site => Validation.errors_addSite types site validation
  rw [Validation.errors_foldl hsites, List.filterMap_flatMap, List.nil_append]

/-! ## Diagnostics -/

namespace Diagnostic

@[simp] theorem code_attach (diagnostic : Diagnostic) (unit : CompilationUnit) (span : Span) :
    (diagnostic.attach unit span).code = diagnostic.code := by
  unfold attach
  dsimp only
  split <;> rfl

/-- Every diagnostic is an error, as there is no other severity. -/
theorem isError_eq_true (diagnostic : Diagnostic) : diagnostic.isError = true := by
  unfold isError
  cases diagnostic.severity
  rfl

end Diagnostic

theorem GuardError.code_diagnostic (error : GuardError) (unit : CompilationUnit) :
    (error.diagnostic unit).code = some error.code.text := by
  unfold GuardError.diagnostic
  dsimp only
  rw [Diagnostic.code_attach]
  cases error with
  | unresolvable text member names span =>
    dsimp only
    rw [Diagnostic.foldl_suggest]
    rfl
  | _ => rfl

theorem Violation.code_diagnostic (violation : Violation) (unit : CompilationUnit) :
    (violation.diagnostic unit).code = some ErrorCode.unguardedAccess.text := by
  unfold Violation.diagnostic
  dsimp only
  rw [Diagnostic.code_attach]
  split <;> rfl

namespace Report

theorem errorCount_eq (report : Report) : report.errorCount = report.diagnostics.length := by
  unfold errorCount
  rw [List.filter_eq_self.mpr fun diagnostic _ => diagnostic.isError_eq_true]

theorem hasErrors_iff (report : Report) : report.hasErrors = true ↔ report.diagnostics ≠ [] := by
  unfold hasErrors
  rw [errorCount_eq, decide_eq_true_iff, List.length_pos_iff]

end Report

/-! ## The members of a unit -/

/-- The verdict is a violation. -/
def Verdict.isViolation : Verdict → Bool
  | violation _ => true
  | _ => false

namespace Checker

variable (checker : Checker) (setting : Setting) (method : MethodDecl)

theorem isSome_violation? (access : Access) :
    (checker.violation? access).isSome =
      (checker.judge access.guard access.held).isViolation := by
  unfold violation?
  cases checker.judge access.guard access.held <;> rfl

theorem isExempt_checkMember :
    (checker.checkMember setting method).isExempt = method.isConstructor := by
  unfold checkMember
  by_cases h : method.isConstructor = true <;> simp [h, MemberOutcome.isExempt]

theorem accessCount_checkMember :
    (checker.checkMember setting method).accessCount = (setting.accesses method).length := by
  unfold checkMember Setting.accesses
  by_cases h : method.isConstructor = true <;> simp [h, MemberOutcome.accessCount]

theorem violations_checkMember :
    (checker.checkMember setting method).violations =
      (setting.accesses method).filterMap checker.violation? := by
  unfold checkMember Setting.accesses
  by_cases h : method.isConstructor = true <;> simp [h, MemberOutcome.violations]

end Checker

namespace CompilationUnit

variable (unit : CompilationUnit) (options : Options)

/-- The accesses of all members, one member after the other. -/
def events : List Access :=
  unit.members.flatMap fun member => (unit.setting options member).accesses member.method

/-- The members are the methods of all classes, each class before those that it holds. -/
theorem map_method_members :
    unit.members.map (·.method) = unit.allClasses.flatMap (·.methods) := by
  unfold members
  rw [← unit.map_cls_sites, List.map_flatMap, List.flatMap_map]
  simp [Function.comp_def]

/-- Members are counted by whether they are constructors. -/
theorem countP_memberOutcomes (counts : Bool → Bool) :
    (unit.memberOutcomes options).countP (counts ·.isExempt) =
      (unit.allClasses.flatMap (·.methods)).countP (counts ·.isConstructor) := by
  unfold memberOutcomes
  rw [← map_method_members, List.countP_map, List.countP_map]
  congr 1
  funext member
  simp [Checker.isExempt_checkMember]

theorem accesses_check : (unit.check options).accesses = (unit.events options).length := by
  rw [check_eq]
  change ((unit.memberOutcomes options).map (·.accessCount)).sum = _
  unfold memberOutcomes events
  rw [List.map_map, List.length_flatMap]
  congr 2
  funext member
  simp [Checker.accessCount_checkMember]

theorem diagnostics_check : (unit.check options).diagnostics =
    (unit.rejections unit.types).map (·.diagnostic unit) ++
      ((unit.events options).filterMap (options.checker unit.types).violation?).map
        (·.diagnostic unit) := by
  rw [check_eq, ← errors_validate]
  unfold report memberOutcomes events
  rw [List.flatMap_map, List.filterMap_flatMap]
  simp [Checker.violations_checkMember]

theorem rejectedGuards_check :
    (unit.check options).rejectedGuards = (unit.rejections unit.types).length := by
  rw [check_eq, ← errors_validate]
  rfl

theorem errorCount_check : (unit.check options).errorCount =
    (unit.check options).rejectedGuards + (unit.events options).countP fun access =>
      ((options.checker unit.types).judge access.guard access.held).isViolation := by
  rw [Report.errorCount_eq, diagnostics_check, rejectedGuards_check, List.length_append,
    List.length_map, List.length_map, List.length_filterMap_eq_countP]
  congr 2
  funext access
  exact Checker.isSome_violation? _ _

/-- The report counts every method of every class once, as a constructor or as a checked member,
every access and every rejected annotation. Its diagnostics are those of the rejected annotations in
the order of the classes, the fields of a class before its methods, and behind them those of the
accesses whose guards are not held, in the order of the members and of evaluation in each. -/
theorem the_report_counts_everything_once :
    let report := unit.check options
    let methods := unit.allClasses.flatMap (·.methods)
    let checker := options.checker unit.types
    let rejections := unit.rejections unit.types
    unit.sites.map (·.cls) = unit.allClasses ∧ unit.members.map (·.method) = methods ∧
    report.membersExempt = methods.countP (·.isConstructor) ∧
    report.membersAnalyzed = methods.countP (!·.isConstructor) ∧
    report.accesses = (unit.events options).length ∧
    report.rejectedGuards = rejections.length ∧
    report.diagnostics =
      rejections.map (·.diagnostic unit) ++
        ((unit.events options).filterMap checker.violation?).map (·.diagnostic unit) ∧
    (∀ error : GuardError,
      (error.diagnostic unit).code ∈ [some "E0710", some "E0711", some "E0712"]) ∧
    (∀ violation : Violation, (violation.diagnostic unit).code = some "E0700") ∧
    (∀ access, (checker.violation? access).isSome =
      (checker.judge access.guard access.held).isViolation) ∧
    report.errorCount = report.rejectedGuards + (unit.events options).countP
      (fun access => (checker.judge access.guard access.held).isViolation) ∧
    (report.hasErrors = true ↔ report.diagnostics ≠ []) := by
  intro report methods checker rejections
  refine ⟨unit.map_cls_sites, unit.map_method_members, unit.countP_memberOutcomes options id,
    unit.countP_memberOutcomes options not, unit.accesses_check options,
    unit.rejectedGuards_check options, unit.diagnostics_check options, ?_, ?_,
    checker.isSome_violation?, unit.errorCount_check options, report.hasErrors_iff⟩
  · intro error
    rw [error.code_diagnostic]
    cases error <;> simp [GuardError.code, ErrorCode.text]
  · intro violation
    exact violation.code_diagnostic unit

end CompilationUnit

end LockDiscipline
