-- What is said of a unit does not hang on where its pieces stand in the source text, nor on code
-- that is not checked: the bodies of constructors, and what sets up fields and objects. Leave all
-- of it out, and the report is the same but for the places that it shows.
import LockDiscipline.Proofs.BareBodies
import LockDiscipline.Proofs.LexicalLocks
import LockDiscipline.Proofs.TypeTable

namespace LockDiscipline

/-! ## Units without places and without exempt code -/

def GuardNote.bare (note : GuardNote) : GuardNote := ⟨note.text, .unknown⟩

/-- The field with no place known and no initializer. -/
def FieldDecl.bare (field : FieldDecl) : FieldDecl :=
  { field with
    guardedBy := field.guardedBy.map (·.bare)
    initializer := none
    span := .unknown }

/-- The method with no place known. A constructor loses its body. -/
def MethodDecl.bare (method : MethodDecl) : MethodDecl :=
  { method with
    guardedBy := method.guardedBy.map (·.bare)
    body := if method.isConstructor then [] else method.body.map Stmt.bare
    span := .unknown }

mutual

/-- The class with no place known, no initializers and no code that is exempt. -/
def ClassDecl.bare : ClassDecl → ClassDecl
  | .mk name supertypes isStatic fields methods _ nested _ =>
    .mk name supertypes isStatic (fields.map (·.bare)) (methods.map (·.bare)) []
      (ClassDecl.bareAll nested) .unknown

def ClassDecl.bareAll : List ClassDecl → List ClassDecl
  | [] => []
  | cls :: rest => cls.bare :: ClassDecl.bareAll rest

end

/-- The unit with no place known, no source text and no code that is exempt. -/
def CompilationUnit.bare (unit : CompilationUnit) : CompilationUnit :=
  ⟨unit.path, none, ClassDecl.bareAll unit.classes⟩

def ClassSite.bare (site : ClassSite) : ClassSite := ⟨site.cls.bare, site.nesting⟩

def Member.bare (member : Member) : Member := ⟨member.site.bare, member.method.bare⟩

/-! ## Findings without places -/

def GuardError.bare : GuardError → GuardError
  | .malformed text why _ => .malformed text why .unknown
  | .unresolvable text member suggestions _ => .unresolvable text member suggestions .unknown
  | .instanceGuardOnStatic text member _ => .instanceGuardOnStatic text member .unknown

def Validation.bare (validation : Validation) : Validation :=
  { validation with errors := validation.errors.map (·.bare) }

def Violation.bare (violation : Violation) : Violation := { violation with span := .unknown }

def MemberOutcome.bare : MemberOutcome → MemberOutcome
  | .exempt => .exempt
  | .checked accesses violations => .checked accesses (violations.map (·.bare))

/-- The diagnostic without what shows where it stands. -/
def Diagnostic.bare (diagnostic : Diagnostic) : Diagnostic :=
  { diagnostic with line := none, column := none, sourceLine := none, underline := none }

/-- The report with every place left out of its diagnostics. -/
def Report.bare (report : Report) : Report :=
  { report with diagnostics := report.diagnostics.map (·.bare) }

/-! ## The classes of a unit -/

mutual

theorem preorder_bare (cls : ClassDecl) : cls.bare.preorder = cls.preorder.map ClassDecl.bare := by
  cases cls with
  | mk name supertypes isStatic fields methods initializers nested span =>
    rw [ClassDecl.bare, ClassDecl.preorder, preorderAll_bare nested, ClassDecl.preorder,
      List.map_cons, ClassDecl.bare]

theorem preorderAll_bare (classes : List ClassDecl) :
    ClassDecl.preorderAll (ClassDecl.bareAll classes) =
      (ClassDecl.preorderAll classes).map ClassDecl.bare := by
  cases classes with
  | nil => rfl
  | cons cls rest =>
    rw [ClassDecl.bareAll, ClassDecl.preorderAll, preorder_bare cls, preorderAll_bare rest,
      ClassDecl.preorderAll, List.map_append]

end

mutual

theorem sites_bare (outer : List NestedClass) (cls : ClassDecl) :
    cls.bare.sites outer = (cls.sites outer).map ClassSite.bare := by
  cases cls with
  | mk name supertypes isStatic fields methods initializers nested span =>
    rw [ClassDecl.bare, ClassDecl.sites, sitesAll_bare _ nested, ClassDecl.sites, List.map_cons,
      ClassSite.bare, ClassDecl.bare]

theorem sitesAll_bare (outer : List NestedClass) (classes : List ClassDecl) :
    ClassDecl.sitesAll outer (ClassDecl.bareAll classes) =
      (ClassDecl.sitesAll outer classes).map ClassSite.bare := by
  cases classes with
  | nil => rfl
  | cons cls rest =>
    rw [ClassDecl.bareAll, ClassDecl.sitesAll, sites_bare _ cls, sitesAll_bare _ rest,
      ClassDecl.sitesAll, List.map_append]

end

namespace ClassDecl

@[simp] theorem type_bare (cls : ClassDecl) : cls.bare.type = cls.type := by
  cases cls
  rfl

@[simp] theorem fields_bare (cls : ClassDecl) : cls.bare.fields = cls.fields.map (·.bare) := by
  cases cls
  rfl

@[simp] theorem methods_bare (cls : ClassDecl) : cls.bare.methods = cls.methods.map (·.bare) := by
  cases cls
  rfl

end ClassDecl

namespace ClassTable

theorem declaredInfo_bare (known : List TypeName) (cls : ClassDecl) :
    declaredInfo known cls.bare = declaredInfo known cls := by
  cases cls
  simp [declaredInfo, ClassDecl.bare, ClassDecl.supertypes, ClassDecl.fields, ClassDecl.type,
    ClassDecl.name, FieldDecl.bare]

/-- The types of a unit do not hang on the places of its classes. -/
theorem ofUnit_bare (unit : CompilationUnit) : ofUnit unit.bare = ofUnit unit := by
  have hclasses : unit.bare.allClasses = unit.allClasses.map ClassDecl.bare :=
    preorderAll_bare unit.classes
  have htype : ClassDecl.type ∘ ClassDecl.bare = ClassDecl.type := funext ClassDecl.type_bare
  have hknown : knownNames unit.bare.allClasses = knownNames unit.allClasses := by
    simp [knownNames, hclasses, htype]
  have htold : ∀ type, told unit.bare type = told unit type := by
    intro type
    have hbare : ((·.type == type) ∘ ClassDecl.bare) = (·.type == type) := by
      funext cls
      simp
    unfold told
    rw [hknown, hclasses, ← List.map_reverse, List.find?_map, hbare]
    cases unit.allClasses.reverse.find? (·.type == type) with
    | none => rfl
    | some cls => exact declaredInfo_bare _ cls
  have hentries : (ofUnit unit.bare).entries = (ofUnit unit).entries := by
    simp [entries_ofUnit, hknown, htold]
  exact congrArg ClassTable.mk hentries

end ClassTable

/-! ## Annotations -/

namespace Guard

def Chain.bare : Chain → Chain
  | .nothing => .nothing
  | .names e => .names e.bare
  | .object e => .object e.bare

theorem push_bare (name : String) (span : Span) (chain : Chain) :
    (chain.push name span).bare = chain.bare.push name .unknown := by
  cases chain <;> rfl

theorem readPieces_bare (span : Span) (chain : Chain) (pieces : List (List Char)) :
    readPieces .unknown chain.bare pieces = (readPieces span chain pieces).map Expr.bare := by
  induction pieces generalizing chain with
  | nil => cases chain <;> rfl
  | cons piece rest ih =>
    have hpush := ih (chain.push (String.ofList piece) span)
    rw [push_bare] at hpush
    cases chain with
    | nothing =>
      rw [Chain.bare, readPieces, readPieces]
      split_ifs
      · exact ih (.object (.this span))
      · rfl
      · exact hpush
      · rfl
    | names e =>
      rw [Chain.bare, readPieces, readPieces, e.dottedName?_bare]
      split_ifs
      · exact ih (.object (.qualifiedThis (e.dottedName?.getD "") span))
      · rfl
      · rfl
      · exact hpush
      · rfl
    | object e =>
      rw [Chain.bare, readPieces, readPieces]
      split_ifs
      · rfl
      · rfl
      · exact hpush
      · rfl

/-- The text of an annotation alone tells how it is read. -/
theorem read_bare (text : String) (span : Span) :
    read text .unknown = ((read text span).map Expr.bare).mapError GuardError.bare := by
  have hpieces := readPieces_bare span .nothing (pieces text.toList)
  unfold read
  dsimp only
  by_cases hempty : (Text.trim text.toList).isEmpty = true
  · rw [if_pos hempty, if_pos hempty]
    rfl
  · rw [if_neg hempty, if_neg hempty]
    dsimp only [Chain.bare] at hpieces
    rw [hpieces]
    cases readPieces span .nothing (pieces text.toList) <;> rfl

end Guard

theorem GuardNote.suggestions_bare (types : TypeLookup) (scope : Scope) (member : String)
    (e : Expr) : suggestions types scope member e.bare = suggestions types scope member e := by
  unfold suggestions
  cases scope.currentClass <;> cases e <;> rfl

/-- An annotation names the same guard, or is rejected for the same reason. -/
theorem GuardNote.resolve_bare (note : GuardNote) (member : String) (scope : Scope)
    (types : TypeLookup) :
    note.bare.resolve member scope types =
      (note.resolve member scope types).mapError GuardError.bare := by
  unfold resolve
  dsimp only [GuardNote.bare]
  rw [Guard.read_bare note.text note.span]
  cases Guard.read note.text note.span with
  | error error => rfl
  | ok e =>
    dsimp only [Except.map, Except.mapError, bind, Except.bind]
    rw [Context.canonical_bare, Context.canonical_bare, suggestions_bare]
    split
    · rfl
    · split <;> rfl

/-! ## The table of guards -/

namespace Validation

variable (types : TypeLookup) (site : ClassSite)

theorem enter_bare (method : MethodDecl) (guard : Option Guard) (guards : GuardTable) :
    enter site.bare method.bare guard guards = enter site method guard guards := by
  unfold enter ClassSite.bare
  rw [ClassDecl.type_bare]
  rfl

theorem addField_bare (validation : Validation) (field : FieldDecl) :
    addField types site.bare validation.bare field.bare =
      (addField types site validation field).bare := by
  unfold addField
  dsimp only [FieldDecl.bare]
  cases field.guardedBy with
  | none => rfl
  | some note =>
    have hresolve : note.bare.resolve field.name (site.bare.scope field.isStatic) types =
        (note.resolve field.name (site.scope field.isStatic) types).mapError GuardError.bare :=
      note.resolve_bare field.name (site.scope field.isStatic) types
    simp only [Option.map_some, hresolve]
    cases note.resolve field.name (site.scope field.isStatic) types <;>
      simp [Except.mapError, bare, ClassSite.bare]

theorem addMethod_bare (validation : Validation) (method : MethodDecl) :
    addMethod types site.bare validation.bare method.bare =
      (addMethod types site validation method).bare := by
  unfold addMethod
  simp only [enter_bare]
  dsimp only [MethodDecl.bare]
  cases method.guardedBy with
  | none => rfl
  | some note =>
    have hresolve : note.bare.resolve method.name (site.bare.scope method.isStatic) types =
        (note.resolve method.name (site.scope method.isStatic) types).mapError GuardError.bare :=
      note.resolve_bare method.name (site.scope method.isStatic) types
    simp only [Option.map_some, hresolve]
    cases note.resolve method.name (site.scope method.isStatic) types <;>
      simp [Except.mapError, bare]

/-- A pass over items without places notes the same, without places. -/
theorem foldl_bare {α : Type} {bareItem : α → α} {pass barePass : Validation → α → Validation}
    (h : ∀ validation item, barePass validation.bare (bareItem item) = (pass validation item).bare)
    (items : List α) (validation : Validation) :
    (items.map bareItem).foldl barePass validation.bare = (items.foldl pass validation).bare := by
  induction items generalizing validation with
  | nil => rfl
  | cons item rest ih => rw [List.map_cons, List.foldl_cons, h, ih, List.foldl_cons]

theorem addSite_bare (validation : Validation) :
    addSite types validation.bare site.bare = (addSite types validation site).bare := by
  have hcls : site.bare.cls = site.cls.bare := rfl
  unfold addSite
  rw [hcls, ClassDecl.fields_bare, ClassDecl.methods_bare, foldl_bare (addField_bare types site),
    foldl_bare (addMethod_bare types site)]

end Validation

namespace CompilationUnit

variable (unit : CompilationUnit)

@[simp] theorem path_bare : unit.bare.path = unit.path := rfl

theorem sites_bare : unit.bare.sites = unit.sites.map ClassSite.bare :=
  sitesAll_bare [] unit.classes

theorem validate_bare (types : TypeLookup) :
    unit.bare.validate types = (unit.validate types).bare := by
  unfold validate
  rw [sites_bare]
  exact Validation.foldl_bare (fun validation site => Validation.addSite_bare types site validation)
    unit.sites ⟨.empty, []⟩

theorem types_bare : unit.bare.types = unit.types := by
  rw [types, types, ClassTable.ofUnit_bare]

theorem members_bare : unit.bare.members = unit.members.map Member.bare := by
  unfold members
  rw [sites_bare, List.flatMap_map, List.map_flatMap]
  apply List.flatMap_congr
  intro site _
  have hcls : site.bare.cls.methods = site.cls.methods.map (·.bare) :=
    ClassDecl.methods_bare site.cls
  rw [hcls, List.map_map, List.map_map]
  rfl

theorem setting_bare (options : Options) (member : Member) :
    unit.bare.setting options member.bare = unit.setting options member := by
  unfold setting
  rw [types_bare, validate_bare]
  rfl

end CompilationUnit

/-! ## What is said of a member -/

namespace Setting

variable (setting : Setting)

theorem accesses_bare (method : MethodDecl) :
    setting.accesses method.bare = (setting.accesses method).map Access.bare := by
  cases h : method.isConstructor with
  | true =>
    have hbare : method.bare.isConstructor = true := h
    rw [setting.accesses_of_constructor h, setting.accesses_of_constructor hbare]
    rfl
  | false =>
    have hbare : method.bare.isConstructor = false := h
    have hbody : Piece.block method.bare.body = (Piece.block method.body).bare := by
      simp [MethodDecl.bare, h, Piece.bare]
    rw [setting.accesses_of_method h, setting.accesses_of_method hbare, hbody,
      ← setting.walk_bare]
    rfl

end Setting

namespace MemberOutcome

variable (outcome : MemberOutcome)

@[simp] theorem isExempt_bare : outcome.bare.isExempt = outcome.isExempt := by
  cases outcome <;> rfl

@[simp] theorem accessCount_bare : outcome.bare.accessCount = outcome.accessCount := by
  cases outcome <;> rfl

@[simp] theorem violations_bare :
    outcome.bare.violations = outcome.violations.map (·.bare) := by
  cases outcome <;> rfl

end MemberOutcome

namespace Checker

variable (checker : Checker)

theorem violation?_bare (access : Access) :
    checker.violation? access.bare = (checker.violation? access).map Violation.bare := by
  unfold violation?
  have hspan : access.bare.span = .unknown := access.expr.span_bare
  have htext : access.bare.expr.text = access.expr.text := access.expr.text_bare
  have hjudge : checker.judge access.bare.guard access.bare.held =
      checker.judge access.guard access.held := rfl
  rw [hspan, htext, hjudge]
  cases checker.judge access.guard access.held <;> rfl

theorem checkMember_bare (setting : Setting) (method : MethodDecl) :
    checker.checkMember setting method.bare = (checker.checkMember setting method).bare := by
  have hviolations : (checker.violation? ∘ Access.bare) =
      fun access => (checker.violation? access).map Violation.bare := by
    funext access
    exact checker.violation?_bare access
  unfold checkMember
  change (if method.isConstructor = true then _ else _) = _
  split
  · rfl
  · simp only [setting.accesses_bare, List.length_map, List.filterMap_map, hviolations,
      MemberOutcome.bare, List.map_filterMap]

end Checker

/-! ## The report -/

namespace Diagnostic

theorem bare_attach (diagnostic : Diagnostic) (unit : CompilationUnit) (span : Span) :
    (diagnostic.attach unit span).bare = { diagnostic.bare with file := unit.path } := by
  unfold attach
  dsimp only
  split <;> rfl

theorem bare_foldl_suggest (suggestion : String → String) (names : List String)
    (diagnostic : Diagnostic) :
    (names.foldl (fun (d : Diagnostic) name => d.suggest (suggestion name)) diagnostic).bare =
      names.foldl (fun (d : Diagnostic) name => d.suggest (suggestion name)) diagnostic.bare := by
  rw [foldl_suggest, foldl_suggest]
  rfl

end Diagnostic

theorem GuardError.diagnostic_bare (error : GuardError) (unit : CompilationUnit) :
    error.bare.diagnostic unit.bare = (error.diagnostic unit).bare := by
  unfold diagnostic
  dsimp only
  rw [Diagnostic.bare_attach]
  cases error with
  | unresolvable text member names span =>
    dsimp only [bare]
    rw [Diagnostic.bare_foldl_suggest]
    rfl
  | _ => rfl

theorem Violation.diagnostic_bare (violation : Violation) (unit : CompilationUnit) :
    violation.bare.diagnostic unit.bare = (violation.diagnostic unit).bare := by
  unfold diagnostic
  dsimp only
  rw [Diagnostic.bare_attach]
  change Diagnostic.attach (if violation.held.isEmpty = true then _ else _) _ _ = _
  split <;> rfl

namespace CompilationUnit

variable (unit : CompilationUnit)

theorem memberOutcomes_bare (options : Options) :
    unit.bare.memberOutcomes options = (unit.memberOutcomes options).map MemberOutcome.bare := by
  unfold memberOutcomes
  rw [members_bare, List.map_map, List.map_map]
  apply List.map_congr_left
  intro member _
  simp only [Function.comp_apply, setting_bare, types_bare]
  exact Checker.checkMember_bare _ _ _

theorem report_bare (validation : Validation) (outcomes : List MemberOutcome) :
    unit.bare.report validation.bare (outcomes.map MemberOutcome.bare) =
      (unit.report validation outcomes).bare := by
  unfold report Report.bare
  simp [Validation.bare, List.countP_map, List.flatMap_map, Function.comp_def,
    GuardError.diagnostic_bare, Violation.diagnostic_bare, ← List.map_flatMap]

/-- A unit without places and exempt code has the report of the unit, without places. So two units
that are the same but for places, source text and exempt code have the same report but for the
places that it shows, under all options. -/
theorem places_and_exempt_code_have_no_say (unit other : CompilationUnit)
    (h : unit.bare = other.bare) (options : Options) :
    unit.bare.check options = (unit.check options).bare ∧
      (unit.check options).bare = (other.check options).bare := by
  have hcheck : ∀ unit : CompilationUnit,
      unit.bare.check options = (unit.check options).bare := by
    intro unit
    rw [check_eq, check_eq, types_bare, validate_bare, memberOutcomes_bare, report_bare]
  refine ⟨hcheck unit, ?_⟩
  rw [← hcheck unit, ← hcheck other, h]

end CompilationUnit

namespace Counter

/-- The class with a method that reads `x` at a place, and a constructor with a body. -/
def readAt (source : Option String) (span : Span) (body : List Stmt) : CompilationUnit :=
  let constructor : MethodDecl := ⟨"Counter", .constructor, false, false, [], none, body, span⟩
  ⟨none, source, [cls [constructor, method [] none [.returns (some (.name "x" span)) span]]]⟩

theorem a_read_is_reported_alike_at_any_place :
    let here := readAt (some "return x;") ⟨7, 8, 1, 8⟩ [readX]
    let there := readAt none .unknown []
    here.bare = there.bare ∧
      (here.check .default).diagnostics.map (·.line) = [some 1] ∧
      (there.check .default).diagnostics.map (·.line) = [none] ∧
      (here.check .default).bare = (there.check .default).bare := by
  intro here there
  have hbare : here.bare = there.bare := rfl
  exact ⟨hbare, by decide +kernel, by decide +kernel,
    (here.places_and_exempt_code_have_no_say there hbare .default).2⟩

end Counter

end LockDiscipline
