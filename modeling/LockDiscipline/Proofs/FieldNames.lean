-- The names of the fields of a type serve suggestions only. Where a lookup has no list of them, the
-- same annotations are accepted and rejected, every access is judged alike, and the report is the
-- same but for the suggestions for rejected annotations.
import LockDiscipline.Proofs.Accounting
import LockDiscipline.Proofs.LexicalLocks

namespace LockDiscipline

/-! ## Rejections without suggestions -/

/-- The rejection, without names that may be meant. -/
def GuardError.unadvised : GuardError → GuardError
  | .unresolvable text member _ span => .unresolvable text member [] span
  | error => error

def Validation.unadvised (validation : Validation) : Validation :=
  { validation with errors := validation.errors.map (·.unadvised) }

namespace Diagnostic

def unadvised (diagnostic : Diagnostic) : Diagnostic := { diagnostic with suggestions := [] }

theorem unadvised_attach (diagnostic : Diagnostic) (unit : CompilationUnit) (span : Span) :
    (diagnostic.attach unit span).unadvised = diagnostic.unadvised.attach unit span := by
  unfold attach unadvised
  dsimp only
  split <;> rfl

end Diagnostic

/-- Nothing but names that may be meant is suggested for a rejected annotation. -/
theorem GuardError.diagnostic_unadvised (error : GuardError) (unit : CompilationUnit) :
    error.unadvised.diagnostic unit = (error.diagnostic unit).unadvised := by
  unfold diagnostic
  dsimp only
  rw [Diagnostic.unadvised_attach]
  cases error with
  | unresolvable text member names span =>
    dsimp only
    rw [Diagnostic.foldl_suggest]
    rfl
  | _ => rfl

/-! ## Canonical forms -/

namespace Context

variable (types : TypeLookup) (scope : Scope) (locals : Locals)

theorem decompose_withoutMembers (e : Expr) :
    decompose ⟨types.withoutMembers, scope, locals⟩ e = decompose ⟨types, scope, locals⟩ e := by
  cases e with
  | select receiver n span =>
    rw [decompose, decompose, decompose_withoutMembers receiver]
    rfl
  | _ => rfl

theorem canonical_withoutMembers (e : Expr) :
    canonical ⟨types.withoutMembers, scope, locals⟩ e = canonical ⟨types, scope, locals⟩ e := by
  unfold canonical
  rw [decompose_withoutMembers]

end Context

/-! ## Annotations -/

/-- A text that cannot be read is malformed, so nothing is suggested for it. -/
theorem Guard.read_mapError_unadvised (text : String) (span : Span) :
    (Guard.read text span).mapError GuardError.unadvised = Guard.read text span := by
  unfold Guard.read
  dsimp only
  split
  · rfl
  · cases Guard.readPieces span .nothing (Guard.pieces text.toList) <;> rfl

/-- Without field names an annotation names the same guard, or is rejected for the same reason with
nothing suggested. -/
theorem GuardNote.resolve_withoutMembers (note : GuardNote) (member : String) (scope : Scope)
    (types : TypeLookup) :
    note.resolve member scope types.withoutMembers =
      (note.resolve member scope types).mapError GuardError.unadvised := by
  have hread := Guard.read_mapError_unadvised note.text note.span
  unfold resolve
  cases hexpr : Guard.read note.text note.span with
  | error error =>
    rw [hexpr] at hread
    have herror : error.unadvised = error := Except.error.inj hread
    exact congrArg Except.error herror.symm
  | ok e =>
    dsimp only [bind, Except.bind]
    rw [Context.canonical_withoutMembers, Context.canonical_withoutMembers]
    split
    · rfl
    · split
      · rfl
      · have hnames : suggestions types.withoutMembers scope member e = [] := by
          unfold suggestions
          split <;> rfl
        rw [hnames]
        rfl

namespace Validation

variable (types : TypeLookup) (site : ClassSite)

theorem addField_withoutMembers (validation : Validation) (field : FieldDecl) :
    addField types.withoutMembers site validation.unadvised field =
      (addField types site validation field).unadvised := by
  unfold addField
  cases field.guardedBy with
  | none => rfl
  | some note =>
    dsimp only
    rw [note.resolve_withoutMembers]
    cases note.resolve field.name (site.scope field.isStatic) types <;>
      simp [Except.mapError, unadvised]

theorem addMethod_withoutMembers (validation : Validation) (method : MethodDecl) :
    addMethod types.withoutMembers site validation.unadvised method =
      (addMethod types site validation method).unadvised := by
  unfold addMethod
  cases method.guardedBy with
  | none => rfl
  | some note =>
    dsimp only
    rw [note.resolve_withoutMembers]
    cases note.resolve method.name (site.scope method.isStatic) types <;>
      simp [Except.mapError, unadvised]

theorem addSite_withoutMembers (validation : Validation) :
    addSite types.withoutMembers validation.unadvised site =
      (addSite types validation site).unadvised := by
  unfold addSite
  rw [List.foldl_hom unadvised fun validation field =>
      addField_withoutMembers types site validation field,
    List.foldl_hom unadvised fun validation method =>
      addMethod_withoutMembers types site validation method]

end Validation

/-- The same guards are accepted, and the same annotations are rejected. -/
theorem CompilationUnit.validate_withoutMembers (unit : CompilationUnit) (types : TypeLookup) :
    unit.validate types.withoutMembers = (unit.validate types).unadvised := by
  have hsites := fun validation site =>
    Validation.addSite_withoutMembers types site validation
  unfold validate
  rw [← List.foldl_hom Validation.unadvised hsites]
  rfl

/-! ## Accesses -/

namespace Setting

variable (setting : Setting)

/-- The same setting, with no list of field names. -/
def withoutMembers : Setting := { setting with types := setting.types.withoutMembers }

theorem canonical_withoutMembers : setting.withoutMembers.canonical = setting.canonical := by
  funext locals e
  exact Context.canonical_withoutMembers setting.types setting.scope locals e

theorem lockCall_withoutMembers : setting.withoutMembers.lockCall = setting.lockCall := by
  funext methods locals e
  unfold lockCall
  rw [canonical_withoutMembers]
  rfl

theorem acquired_withoutMembers : setting.withoutMembers.acquired = setting.acquired := by
  funext locals stmt
  unfold acquired
  rw [lockCall_withoutMembers]
  rfl

theorem released_withoutMembers : setting.withoutMembers.released = setting.released := by
  funext locals stmts
  unfold released
  rw [lockCall_withoutMembers]
  rfl

theorem track_withoutMembers : setting.withoutMembers.track = setting.track := by
  funext locals pending stmt
  unfold track
  rw [acquired_withoutMembers, released_withoutMembers]

theorem pendingAfter_withoutMembers (locals : Locals) (pending : List Guard) (stmts : List Stmt) :
    setting.withoutMembers.pendingAfter locals pending stmts =
      setting.pendingAfter locals pending stmts := by
  induction stmts generalizing locals pending with
  | nil => rfl
  | cons s rest ih =>
    rw [pendingAfter_cons, pendingAfter_cons, ih, track_withoutMembers]
    rfl

theorem into_withoutMembers : setting.withoutMembers.into = setting.into := by
  funext step place
  cases step with
  | behind before =>
    unfold into pendingInto
    dsimp only
    rw [pendingAfter_withoutMembers]
    rfl
  | monitor lock =>
    unfold into heldInto
    dsimp only
    rw [canonical_withoutMembers]
    rfl
  | attempt body atEnd | handler body atEnd name type =>
    unfold into heldInto credited
    dsimp only
    rw [acquired_withoutMembers, released_withoutMembers]
    rfl
  | _ => rfl

theorem placeAt_withoutMembers : setting.withoutMembers.placeAt = setting.placeAt := by
  unfold placeAt
  rw [into_withoutMembers]

theorem needs_withoutMembers : setting.withoutMembers.needs = setting.needs := by
  have hfield : setting.withoutMembers.fieldGuard = setting.fieldGuard := by
    unfold fieldGuard
    rw [canonical_withoutMembers]
    rfl
  have hcall : setting.withoutMembers.callGuard = setting.callGuard := by
    unfold callGuard receiverCallGuard
    rw [canonical_withoutMembers]
    rfl
  funext locals e
  unfold needs
  rw [hfield, hcall]

/-- The walk never asks for field names. -/
theorem accesses_withoutMembers : setting.withoutMembers.accesses = setting.accesses := by
  funext method
  cases hc : method.isConstructor with
  | true => rw [accesses_of_constructor _ hc, accesses_of_constructor _ hc]
  | false =>
    have hstart : setting.withoutMembers.start method = setting.start method := rfl
    rw [accesses_eq_occurrences _ hc, accesses_eq_occurrences _ hc, hstart]
    unfold accessAt accessOf
    rw [needs_withoutMembers, placeAt_withoutMembers]

end Setting

/-! ## Reports -/

/-- Every member is judged alike. -/
theorem Options.outcome_withoutMembers (options : Options) (types : TypeLookup)
    (guards : GuardTable) :
    options.outcome types.withoutMembers guards = options.outcome types guards := by
  funext member
  let setting : Setting := ⟨types, guards, options.vocabulary types, member.scope⟩
  have haccesses : setting.withoutMembers.accesses = setting.accesses :=
    setting.accesses_withoutMembers
  change Checker.checkMember _ setting.withoutMembers _ = Checker.checkMember _ setting _
  unfold Checker.checkMember
  rw [haccesses]
  rfl

/-- A check that knows no field names accepts the same guards and says the same of every member. Its
report is the same, but that it suggests nothing for a rejected annotation. -/
theorem CompilationUnit.field_names_serve_suggestions_only (unit : CompilationUnit)
    (types : TypeLookup) (options : Options) :
    let validation := unit.validate types
    let outcomes := unit.outcomes types options validation.guards
    (unit.validate types.withoutMembers).guards = validation.guards ∧
      unit.outcomes types.withoutMembers options validation.guards = outcomes ∧
      unit.checkWith types.withoutMembers options =
        { unit.checkWith types options with
          diagnostics :=
            validation.errors.map (fun error => (error.diagnostic unit).unadvised) ++
              (outcomes.flatMap (·.violations)).map (·.diagnostic unit) } := by
  intro validation outcomes
  have hvalidate : unit.validate types.withoutMembers = validation.unadvised :=
    unit.validate_withoutMembers types
  have houtcomes : unit.outcomes types.withoutMembers options validation.guards = outcomes := by
    unfold outcomes CompilationUnit.outcomes
    rw [options.outcome_withoutMembers]
  have herrors : validation.unadvised.errors.map (·.diagnostic unit) =
      validation.errors.map fun error => (error.diagnostic unit).unadvised := by
    unfold Validation.unadvised
    rw [List.map_map]
    exact List.map_congr_left fun error _ => error.diagnostic_unadvised unit
  refine ⟨?_, houtcomes, ?_⟩
  · rw [hvalidate]
    rfl
  · unfold checkWith
    rw [hvalidate]
    dsimp only
    change unit.report validation.unadvised
      (unit.outcomes types.withoutMembers options validation.guards) = _
    rw [houtcomes]
    unfold report
    rw [herrors, Validation.unadvised, List.length_map]

end LockDiscipline
