-- A unit may list its classes in any order. The guard of a field is set by one class only, and a
-- call comes down to the first method of one class, so the tables of guards answer alike, whatever
-- the order of their entries. Every member and every annotation is then judged alike.
import LockDiscipline.Proofs.Accounting
import LockDiscipline.Proofs.Reordering

namespace LockDiscipline

/-! ## The guards of the fields -/

namespace ClassSite

variable (types : TypeLookup) (site : ClassSite)

/-- The guard that the declaration of a field sets for a field of the table. -/
def setsGuard (f : FieldSymbol) (field : FieldDecl) : Option Guard :=
  if site.cls.type == f.owner && field.name == f.name then
    field.guardedBy.bind fun note =>
      (note.resolve field.name (site.scope field.isStatic) types).toOption
  else none

/-- The guard that a class sets for a field of the table. The last declaration counts. -/
def guardSet (f : FieldSymbol) : Option Guard :=
  site.cls.fields.reverse.findSome? (site.setsGuard types f)

theorem type_of_guardSet {types : TypeLookup} {site : ClassSite} {f : FieldSymbol} {guard : Guard}
    (h : site.guardSet types f = some guard) : site.cls.type = f.owner := by
  obtain ⟨field, -, hsets⟩ := List.exists_of_findSome?_eq_some h
  unfold setsGuard at hsets
  split at hsets
  · rename_i hsame
    rw [Bool.and_eq_true] at hsame
    exact beq_iff_eq.mp hsame.1
  · cases hsets

end ClassSite

namespace GuardTable

theorem fieldGuard_setField (table : GuardTable) (owner : TypeName) (name : String) (guard : Guard)
    (f : FieldSymbol) :
    (table.setField owner name guard).fieldGuard f =
      if owner == f.owner && name == f.name then some guard else table.fieldGuard f := by
  unfold fieldGuard setField
  dsimp only
  rw [List.find?_append, List.find?_singleton, List.find?_filter]
  by_cases hsame : (owner == f.owner && name == f.name) = true
  · -- The earlier entry of the field was taken out, so the new one is found.
    have hnone : table.fields.find? (fun e => decide
        ((!(e.owner == owner && e.name == name)) = true ∧
          (e.owner == f.owner && e.name == f.name) = true)) = none := by
      rw [List.find?_eq_none]
      intro e _ hfound
      rw [Bool.and_eq_true, beq_iff_eq, beq_iff_eq] at hsame
      rw [decide_eq_true_iff, hsame.1, hsame.2] at hfound
      rw [hfound.2] at hfound
      cases hfound.1
    rw [hnone, if_pos hsame, if_pos hsame]
    rfl
  · have hkept : table.fields.find? (fun e => decide
        ((!(e.owner == owner && e.name == name)) = true ∧
          (e.owner == f.owner && e.name == f.name) = true)) =
        table.fields.find? fun e => e.owner == f.owner && e.name == f.name := by
      apply List.find?_congr
      intro e _
      rw [Bool.eq_iff_iff, decide_eq_true_iff, and_iff_right_iff_imp]
      intro hfound
      rw [Bool.and_eq_true, beq_iff_eq, beq_iff_eq] at hfound
      rw [← hfound.1, ← hfound.2, Bool.not_eq_true] at hsame
      rw [Bool.not_eq_true', BEq.comm, BEq.comm (a := e.name)]
      exact hsame
    rw [hkept, if_neg hsame, if_neg hsame, Option.or_none]

end GuardTable

namespace Validation

variable (types : TypeLookup) (site : ClassSite) (f : FieldSymbol)

theorem fieldGuard_addField (validation : Validation) (field : FieldDecl) :
    (addField types site validation field).guards.fieldGuard f =
      (site.setsGuard types f field).or (validation.guards.fieldGuard f) := by
  unfold addField ClassSite.setsGuard
  cases field.guardedBy with
  | none => simp
  | some note =>
    cases hresolve : note.resolve field.name (site.scope field.isStatic) types with
    | error error => simp [hresolve, Except.toOption]
    | ok guard =>
      dsimp only [Option.bind]
      rw [hresolve, GuardTable.fieldGuard_setField]
      split <;> rfl

/-- Where each item of a list may set the guard of a field, the last one that does counts. -/
theorem fieldGuard_foldl {α : Type} {pass : Validation → α → Validation} {sets : α → Option Guard}
    (h : ∀ validation item, (pass validation item).guards.fieldGuard f =
      (sets item).or (validation.guards.fieldGuard f))
    (items : List α) (validation : Validation) :
    (items.foldl pass validation).guards.fieldGuard f =
      (items.reverse.findSome? sets).or (validation.guards.fieldGuard f) := by
  induction items generalizing validation with
  | nil => rfl
  | cons item rest ih =>
    rw [List.foldl_cons, ih, h, List.reverse_cons, List.findSome?_append, Option.or_assoc]
    simp

theorem fieldGuard_addSite (validation : Validation) :
    (addSite types validation site).guards.fieldGuard f =
      (site.guardSet types f).or (validation.guards.fieldGuard f) := by
  have hfields : (addSite types validation site).guards.fields =
      (site.cls.fields.foldl (addField types site) validation).guards.fields :=
    fields_addMethods types site _ _
  have hguard := fieldGuard_foldl f (fieldGuard_addField types site f) site.cls.fields validation
  unfold GuardTable.fieldGuard at hguard ⊢
  rw [hfields, hguard]
  rfl

end Validation

namespace CompilationUnit

variable {unit other : CompilationUnit}

theorem fieldGuard_validate (unit : CompilationUnit) (types : TypeLookup) (f : FieldSymbol) :
    (unit.validate types).guards.fieldGuard f =
      unit.sites.reverse.findSome? (·.guardSet types f) := by
  have hsites := fun validation site => Validation.fieldGuard_addSite types site f validation
  unfold validate
  rw [Validation.fieldGuard_foldl f hsites]
  exact Option.or_none

theorem fieldGuard_eq_of_reordered (h : unit.Reordered other) (hnames : unit.DistinctNames)
    (types : TypeLookup) (f : FieldSymbol) :
    (unit.validate types).guards.fieldGuard f = (other.validate types).guards.fieldGuard f := by
  have hreverse : unit.sites.reverse.Perm other.sites.reverse :=
    (List.reverse_perm _).trans (h.sites.trans (List.reverse_perm _).symm)
  rw [fieldGuard_validate, fieldGuard_validate]
  apply findSome?_eq_of_perm hreverse
  intro a ha b hb x y hx hy
  have htype : a.cls.type = b.cls.type :=
    (ClassSite.type_of_guardSet hx).trans (ClassSite.type_of_guardSet hy).symm
  exact eq_of_type_eq hnames (List.mem_reverse.mp ha) (List.mem_reverse.mp hb) htype

/-! ## The methods -/

theorem candidates_perm (h : unit.Reordered other) (types : TypeLookup) (type : TypeName)
    (name : String) (arity : Nat) :
    (unit.candidates types type name arity).Perm (other.candidates types type name arity) :=
  h.members.filter _

/-- The first candidate of one class is the same in any order, as the class has one place. -/
theorem find?_owner_eq_of_reordered (h : unit.Reordered other) (hnames : unit.DistinctNames)
    (types : TypeLookup) (type : TypeName) (name : String) (arity : Nat) (owner : TypeName) :
    (unit.candidates types type name arity).find? (·.owner == owner) =
      (other.candidates types type name arity).find? (·.owner == owner) := by
  unfold candidates members
  rw [List.find?_filter, List.find?_filter, List.find?_flatMap, List.find?_flatMap]
  have howner : ∀ (site : ClassSite) (member : Member),
      (site.cls.methods.map (⟨site, ·⟩)).find? (fun member : Member => decide
        (member.isCandidate types type name arity = true ∧ (member.owner == owner) = true)) =
          some member →
      site.cls.type = owner := by
    intro site member hfind
    obtain ⟨method, -, hmember⟩ := List.mem_map.mp (List.mem_of_find?_eq_some hfind)
    have hfound := List.find?_some hfind
    rw [← hmember, decide_eq_true_iff] at hfound
    exact beq_iff_eq.mp hfound.2
  apply findSome?_eq_of_perm h.sites
  intro a ha b hb x y hx hy
  exact eq_of_type_eq hnames ha hb ((howner a x hx).trans (howner b y hy).symm)

/-- A call means the same method in any order of the classes. -/
theorem method?_eq_of_reordered (h : unit.Reordered other) (hnames : unit.DistinctNames)
    (hsingle : unit.SingleSupertypes) (hlinks : (ClassTable.ofUnit unit).NoCircle)
    (hobject : unit.LeavesObject) (type : TypeName) (name : String) (arity : Nat) :
    (unit.validate unit.types).guards.method? unit.types type name arity =
      (other.validate unit.types).guards.method? unit.types type name arity := by
  have hperm := candidates_perm h unit.types type name arity
  rw [method?_eq_map_deciding, method?_eq_map_deciding]
  by_cases hnone : unit.candidates unit.types type name arity = []
  · rw [hnone] at hperm ⊢
    rw [hperm.symm.eq_nil]
  · obtain ⟨callee, hcallee, hleast⟩ := hsingle.exists_mostDerived hobject hnone
      fun member hmember => isSubtype_of_mem_candidates hmember
    have hother : callee.MostDerived unit.types (other.candidates unit.types type name arity) := by
      intro member hmember
      exact hleast member (hperm.mem_iff.mpr hmember)
    have hacyclic : (ClassTable.ofUnit other).Acyclic :=
      (h.leavesObject hobject).objectOnTop.acyclic
        (ClassTable.noCircle_of_reordered h hnames hlinks)
    have hdeciding : Member.deciding unit.types type
          (other.candidates unit.types type name arity) =
        (other.candidates unit.types type name arity).find? (·.owner == callee.owner) := by
      have hmember := hperm.mem_iff.mp hcallee
      rw [h.types hnames] at hmember hother ⊢
      exact deciding_eq_find? hacyclic hmember hother
    rw [deciding_eq_find? (hobject.objectOnTop.acyclic hlinks) hcallee hleast, hdeciding,
      find?_owner_eq_of_reordered h hnames]

end CompilationUnit

/-! ## Tables that answer alike -/

/-- The tables have the same guard for each field and the same method for each call. -/
structure GuardTable.Alike (types : TypeLookup) (table other : GuardTable) : Prop where
  fieldGuard : ∀ f, table.fieldGuard f = other.fieldGuard f
  method? : ∀ owner name arity,
    table.method? types owner name arity = other.method? types owner name arity

namespace Setting

variable {types : TypeLookup} {table other : GuardTable} (vocabulary : Vocabulary) (scope : Scope)

theorem pendingAfter_eq_of_types (locals : Locals) (pending : List Guard) (stmts : List Stmt) :
    pendingAfter ⟨types, table, vocabulary, scope⟩ locals pending stmts =
      pendingAfter ⟨types, other, vocabulary, scope⟩ locals pending stmts := by
  induction stmts generalizing locals pending with
  | nil => rfl
  | cons s rest ih =>
    rw [pendingAfter_cons, pendingAfter_cons, ih]
    rfl

/-- The table has no say in what is in scope and what is held at a place. -/
theorem placeAt_eq_of_types (start : Place) (path : Path) :
    placeAt ⟨types, table, vocabulary, scope⟩ start path =
      placeAt ⟨types, other, vocabulary, scope⟩ start path := by
  induction path with
  | nil => rfl
  | cons step path ih =>
    rw [placeAt_cons, placeAt_cons, ih]
    cases step with
    | behind before =>
      unfold into pendingInto
      dsimp only
      rw [pendingAfter_eq_of_types]
      rfl
    | _ => rfl

variable (h : table.Alike types other)

include h

theorem methodOf_eq_of_alike :
    methodOf ⟨types, table, vocabulary, scope⟩ = methodOf ⟨types, other, vocabulary, scope⟩ := by
  funext owner name arity
  exact h.method? owner name arity

theorem fieldGuard_eq_of_alike (locals : Locals) (e : Expr) :
    fieldGuard ⟨types, table, vocabulary, scope⟩ locals e =
      fieldGuard ⟨types, other, vocabulary, scope⟩ locals e := by
  unfold fieldGuard canonical context
  simp only [h.fieldGuard]

theorem needs_eq_of_alike (locals : Locals) (e : Expr) :
    needs ⟨types, table, vocabulary, scope⟩ locals e =
      needs ⟨types, other, vocabulary, scope⟩ locals e := by
  have hfield := fieldGuard_eq_of_alike vocabulary scope h locals
  have hmethod := methodOf_eq_of_alike vocabulary scope h
  cases e with
  | name n span => simp only [needs, hfield]
  | select receiver n span => exact hfield _
  | call receiver name args span =>
    cases receiver with
    | none => simp only [needs, callGuard, bareCallGuard, hmethod]
    | some receiver =>
      simp only [needs, callGuard, receiverCallGuard, canonical, context, hmethod]
  | _ => rfl

theorem entryLocks_eq_of_alike (method : MethodDecl) :
    entryLocks ⟨types, table, vocabulary, scope⟩ method =
      entryLocks ⟨types, other, vocabulary, scope⟩ method := by
  unfold entryLocks
  rw [methodOf_eq_of_alike vocabulary scope h]

/-- Accesses do not hang on anything in the table but its answers. -/
theorem accesses_eq_of_alike (method : MethodDecl) :
    accesses ⟨types, table, vocabulary, scope⟩ method =
      accesses ⟨types, other, vocabulary, scope⟩ method := by
  cases hc : method.isConstructor with
  | true => rw [accesses_of_constructor _ hc, accesses_of_constructor _ hc]
  | false =>
    have hstart : start ⟨types, table, vocabulary, scope⟩ method =
        start ⟨types, other, vocabulary, scope⟩ method := by
      unfold start
      rw [entryLocks_eq_of_alike vocabulary scope h]
      rfl
    rw [accesses_eq_occurrences _ hc, accesses_eq_occurrences _ hc, hstart]
    congr 1
    funext occurrence
    unfold accessAt accessOf
    rw [needs_eq_of_alike vocabulary scope h, placeAt_eq_of_types]

end Setting

/-! ## The findings, class by class -/

namespace ClassDecl

/-- The annotations of a class and of every class inside it. -/
def notesInside (cls : ClassDecl) : List MemberNote := (cls.sites []).flatMap (·.notes)

/-- The methods of a class and of every class inside it. -/
def membersInside (cls : ClassDecl) : List Member :=
  (cls.sites []).flatMap fun site => site.cls.methods.map (⟨site, ·⟩)

end ClassDecl

namespace CompilationUnit

/-- What is said of a member of the unit. -/
def outcomeOf (unit : CompilationUnit) (options : Options) : Member → MemberOutcome :=
  options.outcome unit.types (unit.validate unit.types).guards

/-- The diagnostics for the annotations of a class and of every class inside it. -/
def rejectedInside (unit : CompilationUnit) (cls : ClassDecl) : List Diagnostic :=
  (cls.notesInside.filterMap (·.rejection? unit.types)).map (·.diagnostic unit)

/-- The diagnostics for the accesses of a class and of every class inside it. -/
def violatedInside (unit : CompilationUnit) (options : Options) (cls : ClassDecl) :
    List Diagnostic :=
  (cls.membersInside.flatMap fun member => (unit.outcomeOf options member).violations).map
    (·.diagnostic unit)

theorem members_eq_flatMap (unit : CompilationUnit) :
    unit.members = unit.classes.flatMap (·.membersInside) := by
  unfold members sites
  rw [sitesAll_eq_flatMap, List.flatMap_assoc]
  rfl

theorem notes_eq_flatMap (unit : CompilationUnit) :
    unit.sites.flatMap (·.notes) = unit.classes.flatMap (·.notesInside) := by
  unfold sites
  rw [sitesAll_eq_flatMap, List.flatMap_assoc]
  rfl

/-- The diagnostics of a report come class by class, those for annotations first. -/
theorem diagnostics_check_eq_flatMap (unit : CompilationUnit) (options : Options) :
    (unit.check options).diagnostics =
      unit.classes.flatMap unit.rejectedInside ++
        unit.classes.flatMap (unit.violatedInside options) := by
  have hrejected : (unit.rejections unit.types).map (·.diagnostic unit) =
      unit.classes.flatMap unit.rejectedInside := by
    unfold rejections rejectedInside
    rw [notes_eq_flatMap, List.filterMap_flatMap, List.map_flatMap]
  have hviolated : ((unit.memberOutcomes options).flatMap (·.violations)).map
        (·.diagnostic unit) =
      unit.classes.flatMap (unit.violatedInside options) := by
    unfold memberOutcomes violatedInside
    rw [members_eq_flatMap, List.flatMap_map, List.flatMap_assoc, List.map_flatMap]
    rfl
  rw [check_eq, ← hrejected, ← hviolated, ← errors_validate]
  rfl

end CompilationUnit

variable {unit other : CompilationUnit}

theorem GuardError.diagnostic_eq_of_reordered (h : unit.Reordered other) (error : GuardError) :
    error.diagnostic unit = error.diagnostic other := by
  unfold diagnostic Diagnostic.attach
  rw [h.path, h.source]

theorem Violation.diagnostic_eq_of_reordered (h : unit.Reordered other) (violation : Violation) :
    violation.diagnostic unit = violation.diagnostic other := by
  unfold diagnostic Diagnostic.attach
  rw [h.path, h.source]

namespace CompilationUnit

/-- A member is judged alike in any order of the classes. -/
theorem outcomeOf_eq_of_reordered (h : unit.Reordered other) (hnames : unit.DistinctNames)
    (hsingle : unit.SingleSupertypes) (hlinks : (ClassTable.ofUnit unit).NoCircle)
    (hobject : unit.LeavesObject) (options : Options) :
    unit.outcomeOf options = other.outcomeOf options := by
  have halike : (unit.validate unit.types).guards.Alike unit.types
      (other.validate unit.types).guards :=
    ⟨fieldGuard_eq_of_reordered h hnames unit.types,
      method?_eq_of_reordered h hnames hsingle hlinks hobject⟩
  funext member
  unfold outcomeOf
  rw [← h.types hnames]
  unfold Options.outcome Checker.checkMember
  rw [Setting.accesses_eq_of_alike _ _ halike]

theorem rejectedInside_eq_of_reordered (h : unit.Reordered other) (hnames : unit.DistinctNames) :
    unit.rejectedInside = other.rejectedInside := by
  funext cls
  unfold rejectedInside
  rw [h.types hnames]
  apply List.map_congr_left
  intro error _
  exact error.diagnostic_eq_of_reordered h

theorem violatedInside_eq_of_reordered (h : unit.Reordered other) {options : Options}
    (hsame : unit.outcomeOf options = other.outcomeOf options) :
    unit.violatedInside options = other.violatedInside options := by
  funext cls
  unfold violatedInside
  rw [hsame]
  apply List.map_congr_left
  intro violation _
  exact violation.diagnostic_eq_of_reordered h

/-- The classes of a unit may be listed in another order if their names differ, none has more than
one supertype, no way up leads back, and none is `java.lang.Object`. All members and annotations are
the same, and so is what is said of each. The counts of the report stay. Its diagnostics go the way
of the classes, so those for the annotations of one class and all inside it, and those for its
accesses, stay together and in order. -/
theorem the_order_of_the_classes_has_no_say (unit other : CompilationUnit) (options : Options)
    (h : unit.Reordered other) (hnames : unit.DistinctNames) (hsingle : unit.SingleSupertypes)
    (hlinks : (ClassTable.ofUnit unit).NoCircle) (hobject : unit.LeavesObject) :
    let report := unit.check options
    let reordered := other.check options
    unit.members.Perm other.members ∧
      (∀ member, unit.outcomeOf options member = other.outcomeOf options member) ∧
      (unit.sites.flatMap (·.notes)).Perm (other.sites.flatMap (·.notes)) ∧
      (∀ noted : MemberNote,
        noted.note.resolve noted.member noted.scope unit.types =
          noted.note.resolve noted.member noted.scope other.types) ∧
      (report.membersAnalyzed = reordered.membersAnalyzed ∧
        report.membersExempt = reordered.membersExempt ∧
        report.accesses = reordered.accesses ∧
        report.rejectedGuards = reordered.rejectedGuards ∧
        report.errorCount = reordered.errorCount) ∧
      report.diagnostics.Perm reordered.diagnostics ∧
      report.diagnostics =
        unit.classes.flatMap unit.rejectedInside ++
          unit.classes.flatMap (unit.violatedInside options) ∧
      reordered.diagnostics =
        other.classes.flatMap unit.rejectedInside ++
          other.classes.flatMap (unit.violatedInside options) := by
  intro report reordered
  have houtcome := outcomeOf_eq_of_reordered h hnames hsingle hlinks hobject options
  have hnotes : (unit.sites.flatMap (·.notes)).Perm (other.sites.flatMap (·.notes)) :=
    h.sites.flatMap_right _
  have houtcomes : (unit.memberOutcomes options).Perm (other.memberOutcomes options) := by
    change (unit.members.map (unit.outcomeOf options)).Perm
      (other.members.map (other.outcomeOf options))
    rw [houtcome]
    exact h.members.map _
  have hrejections : (unit.rejections unit.types).Perm (other.rejections other.types) := by
    unfold rejections
    rw [h.types hnames]
    exact hnotes.filterMap _
  have hreport := unit.diagnostics_check_eq_flatMap options
  have hreordered := other.diagnostics_check_eq_flatMap options
  rw [← rejectedInside_eq_of_reordered h hnames,
    ← violatedInside_eq_of_reordered h houtcome] at hreordered
  have hdiagnostics : report.diagnostics.Perm reordered.diagnostics := by
    rw [hreport, hreordered]
    exact (h.classes.flatMap_right _).append (h.classes.flatMap_right _)
  refine ⟨h.members, congrFun houtcome, hnotes, ?_, ⟨?_, ?_, ?_, ?_, ?_⟩, hdiagnostics, hreport,
    hreordered⟩
  · intro noted
    rw [h.types hnames]
  · exact houtcomes.countP_eq _
  · exact houtcomes.countP_eq _
  · exact (houtcomes.map _).sum_nat
  · change (unit.check options).rejectedGuards = (other.check options).rejectedGuards
    rw [rejectedGuards_check, rejectedGuards_check, hrejections.length_eq]
  · rw [Report.errorCount_eq, Report.errorCount_eq, hdiagnostics.length_eq]

end CompilationUnit

/-! ## Two orders

A method of the class `Base` and one of the class `Derived` below it read the field `x` of `Base`
without its guard. A field of `Derived` has an annotation that names nothing. -/

namespace TwoOrders

/-- A method that reads `x` at a line. -/
def reads (line : Nat) : MethodDecl :=
  ⟨"m", .method, false, false, [], none, [.returns (some (.name "x" ⟨0, 0, line, 0⟩)) .unknown],
    .unknown⟩

def base : ClassDecl :=
  .mk "Base" [] false
    [⟨"mu", "Object", false, none, none, .unknown⟩,
      ⟨"x", "int", false, some ⟨"mu", .unknown⟩, none, .unknown⟩]
    [reads 1] [] [] .unknown

def derived : ClassDecl :=
  .mk "Derived" ["Base"] false [⟨"y", "int", false, some ⟨"nu", ⟨0, 0, 3, 0⟩⟩, none, .unknown⟩]
    [reads 2] [] [] .unknown

theorem two_orders_have_the_same_diagnostics :
    let unit : CompilationUnit := ⟨some "A.java", none, [base, derived]⟩
    let other : CompilationUnit := ⟨some "A.java", none, [derived, base]⟩
    let report := unit.check .default
    let reordered := other.check .default
    unit.Reordered other ∧ unit.DistinctNames ∧ unit.SingleSupertypes ∧
      (ClassTable.ofUnit unit).NoCircle ∧ unit.LeavesObject ∧
      report.diagnostics.map (·.line) = [some 3, some 1, some 2] ∧
      reordered.diagnostics.map (·.line) = [some 3, some 2, some 1] ∧
      report.diagnostics.Perm reordered.diagnostics := by
  intro unit other report reordered
  have h : unit.Reordered other := ⟨rfl, rfl, List.Perm.swap derived base []⟩
  have hnames : unit.DistinctNames := by decide
  have hsingle : unit.SingleSupertypes := by decide
  have hlinks : (ClassTable.ofUnit unit).NoCircle :=
    ClassTable.noCircle_of_height (by decide +kernel)
  have hobject : unit.LeavesObject := by decide +kernel
  obtain ⟨-, -, -, -, -, hdiagnostics, -⟩ :=
    unit.the_order_of_the_classes_has_no_say other .default h hnames hsingle hlinks hobject
  exact ⟨h, hnames, hsingle, hlinks, hobject, by decide +kernel, by decide +kernel, hdiagnostics⟩

end TwoOrders

end LockDiscipline
