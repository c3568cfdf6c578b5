-- What a unit says of its members: each stands in one of its classes, and the table of guards holds
-- the methods of all classes in the order of declaration, each with the guard that was accepted for
-- it. Annotations are resolved one by one, so no other annotation has a say in that guard.
import LockDiscipline.Check.Report

namespace LockDiscipline

/-! ## The places of the classes -/

mutual

theorem map_cls_sites (outer : List NestedClass) (cls : ClassDecl) :
    (cls.sites outer).map (·.cls) = cls.preorder := by
  cases cls with
  | mk name supertypes isStatic fields methods initializers nested span =>
    rw [ClassDecl.sites, List.map_cons, map_cls_sitesAll _ nested, ClassDecl.preorder]

theorem map_cls_sitesAll (outer : List NestedClass) (classes : List ClassDecl) :
    (ClassDecl.sitesAll outer classes).map (·.cls) = ClassDecl.preorderAll classes := by
  cases classes with
  | nil => rfl
  | cons cls rest =>
    rw [ClassDecl.sitesAll, List.map_append, map_cls_sites _ cls, map_cls_sitesAll _ rest,
      ClassDecl.preorderAll]

end

namespace ClassSite

/-- The class of a place is the innermost one of the classes around its members. -/
def Innermost (site : ClassSite) : Prop :=
  ∃ outer, site.nesting = outer ++ [⟨site.cls.type, site.cls.isStatic⟩]

theorem currentClass_scope {site : ClassSite} (h : site.Innermost) (memberIsStatic : Bool) :
    (site.scope memberIsStatic).currentClass = some site.cls.type := by
  obtain ⟨outer, hnesting⟩ := h
  simp [scope, Scope.currentClass, Scope.frames, hnesting, Scope.framesFrom]

end ClassSite

mutual

theorem innermost_of_mem_sites {outer : List NestedClass} {cls : ClassDecl} {site : ClassSite}
    (h : site ∈ cls.sites outer) : site.Innermost := by
  cases cls with
  | mk name supertypes isStatic fields methods initializers nested span =>
    rw [ClassDecl.sites, List.mem_cons] at h
    rcases h with rfl | h
    · exact ⟨outer, rfl⟩
    · exact innermost_of_mem_sitesAll h

theorem innermost_of_mem_sitesAll {outer : List NestedClass} {classes : List ClassDecl}
    {site : ClassSite} (h : site ∈ ClassDecl.sitesAll outer classes) : site.Innermost := by
  cases classes with
  | nil => cases h
  | cons cls rest =>
    rw [ClassDecl.sitesAll, List.mem_append] at h
    rcases h with h | h
    · exact innermost_of_mem_sites h
    · exact innermost_of_mem_sitesAll h

end

namespace CompilationUnit

/-- Class names are pairwise distinct. -/
def DistinctNames (unit : CompilationUnit) : Prop := (unit.allClasses.map (·.name)).Nodup

instance (unit : CompilationUnit) : Decidable unit.DistinctNames :=
  inferInstanceAs (Decidable (unit.allClasses.map (·.name)).Nodup)

theorem map_cls_sites (unit : CompilationUnit) : unit.sites.map (·.cls) = unit.allClasses :=
  map_cls_sitesAll [] unit.classes

theorem innermost_of_mem {unit : CompilationUnit} {site : ClassSite} (h : site ∈ unit.sites) :
    site.Innermost := innermost_of_mem_sitesAll h

theorem mem_members {unit : CompilationUnit} {member : Member} :
    member ∈ unit.members ↔ member.site ∈ unit.sites ∧ member.method ∈ member.site.cls.methods := by
  cases member with
  | mk site method => simp [members]

end CompilationUnit

/-! ## The methods of the table -/

namespace ClassSite

variable (types : TypeLookup) (site : ClassSite)

/-- The guard that the annotation of a method names, if the method has one and it is accepted. -/
def acceptedGuard (method : MethodDecl) : Option Guard :=
  method.guardedBy.bind fun note =>
    (note.resolve method.name (site.scope method.isStatic) types).toOption

/-- The entry of a method in the table. -/
def entry (method : MethodDecl) : MethodEntry :=
  ⟨site.cls.type, method.name, method.arity, site.acceptedGuard types method⟩

/-- The entries of a class: one for each method that is no constructor. -/
def entries : List MethodEntry :=
  (site.cls.methods.filter (!·.isConstructor)).map (site.entry types)

end ClassSite

namespace Validation

variable (types : TypeLookup) (site : ClassSite)

theorem methods_addField (validation : Validation) (field : FieldDecl) :
    (addField types site validation field).guards.methods = validation.guards.methods := by
  unfold addField
  split
  · rfl
  · split <;> rfl

theorem methods_enter (method : MethodDecl) (guard : Option Guard) (guards : GuardTable) :
    (enter site method guard guards).methods =
      guards.methods ++ (if method.isConstructor then []
        else [⟨site.cls.type, method.name, method.arity, guard⟩]) := by
  unfold enter
  split
  · exact (List.append_nil _).symm
  · rfl

theorem methods_addMethod (validation : Validation) (method : MethodDecl) :
    (addMethod types site validation method).guards.methods =
      validation.guards.methods ++
        (if method.isConstructor then [] else [site.entry types method]) := by
  unfold addMethod ClassSite.entry ClassSite.acceptedGuard
  cases method.guardedBy with
  | none => exact methods_enter ..
  | some note =>
    dsimp only [Option.bind]
    cases note.resolve method.name (site.scope method.isStatic) types with
    | ok guard => exact methods_enter ..
    | error error => exact methods_enter ..

theorem methods_addFields (fields : List FieldDecl) (validation : Validation) :
    (fields.foldl (addField types site) validation).guards.methods = validation.guards.methods := by
  induction fields generalizing validation with
  | nil => rfl
  | cons field rest ih => rw [List.foldl_cons, ih, methods_addField]

theorem methods_addMethods (methods : List MethodDecl) (validation : Validation) :
    (methods.foldl (addMethod types site) validation).guards.methods =
      validation.guards.methods ++
        (methods.filter (!·.isConstructor)).map (site.entry types) := by
  induction methods generalizing validation with
  | nil => exact (List.append_nil _).symm
  | cons method rest ih =>
    rw [List.foldl_cons, ih, methods_addMethod, List.append_assoc]
    by_cases h : method.isConstructor <;> simp [h]

theorem methods_addSites (sites : List ClassSite) (validation : Validation) :
    (sites.foldl (addSite types) validation).guards.methods =
      validation.guards.methods ++ sites.flatMap (·.entries types) := by
  induction sites generalizing validation with
  | nil => exact (List.append_nil _).symm
  | cons site rest ih =>
    rw [List.foldl_cons, ih, addSite, methods_addMethods, methods_addFields, List.flatMap_cons,
      List.append_assoc]
    rfl

end Validation

namespace CompilationUnit

/-- The table holds the methods of all classes in order, constructors left out. -/
theorem methods_validate (unit : CompilationUnit) (types : TypeLookup) :
    (unit.validate types).guards.methods = unit.sites.flatMap (·.entries types) :=
  Validation.methods_addSites types unit.sites ⟨.empty, []⟩

/-- The methods with a guard are those whose annotations are accepted, constructors left out. -/
theorem guardedMethodCount_validate (unit : CompilationUnit) (types : TypeLookup) :
    (unit.validate types).guards.guardedMethodCount =
      unit.members.countP fun member =>
        !member.method.isConstructor && (member.site.acceptedGuard types member.method).isSome := by
  have hsite (site : ClassSite) :
      (site.entries types).countP (·.guard.isSome) =
        (site.cls.methods.map (⟨site, ·⟩)).countP fun member : Member =>
          !member.method.isConstructor &&
            (member.site.acceptedGuard types member.method).isSome := by
    unfold ClassSite.entries
    rw [List.countP_map, List.countP_map, List.countP_filter]
    congr 1
    funext method
    exact Bool.and_comm _ _
  unfold GuardTable.guardedMethodCount
  rw [methods_validate, ← List.countP_eq_length_filter]
  unfold members
  rw [List.countP_flatMap, List.countP_flatMap]
  congr 1
  exact List.map_congr_left fun site _ => hsite site

/-! ## The setting of a member -/

/-- The types that a unit and the library declare. -/
def types (unit : CompilationUnit) : TypeLookup := (ClassTable.ofUnit unit).lookup

/-- What a member of a unit is analysed in. -/
def setting (unit : CompilationUnit) (options : Options) (member : Member) : Setting where
  types := unit.types
  guards := (unit.validate unit.types).guards
  vocabulary := options.vocabulary unit.types
  scope := member.scope

/-- What is said of each member, in order. -/
def memberOutcomes (unit : CompilationUnit) (options : Options) : List MemberOutcome :=
  unit.members.map fun member =>
    (options.checker unit.types).checkMember (unit.setting options member) member.method

/-- Checking a unit is validating it and checking each of its members in its setting. -/
theorem check_eq (unit : CompilationUnit) (options : Options) :
    unit.check options =
      unit.report (unit.validate unit.types) (unit.memberOutcomes options) := rfl

end CompilationUnit

/-! ## A unit to look at

One class with a lock `mu` and a field `x` that is guarded by it. -/

namespace Counter

/-- A method that is called `m` whatever its parameters. -/
def method (params : List Param) (guardedBy : Option GuardNote) (body : List Stmt) : MethodDecl :=
  ⟨"m", .method, false, false, params, guardedBy, body, .unknown⟩

def cls (methods : List MethodDecl) : ClassDecl :=
  .mk "Counter" [] false
    [⟨"mu", "ReentrantLock", false, none, none, .unknown⟩,
      ⟨"x", "int", false, some ⟨"mu", .unknown⟩, none, .unknown⟩]
    methods [] [] .unknown

def unit (methods : List MethodDecl) : CompilationUnit := ⟨none, none, [cls methods]⟩

/-- A method of the class at its place. -/
def member (methods : List MethodDecl) (method : MethodDecl) : Member :=
  ⟨⟨cls methods, [⟨⟨"Counter"⟩, false⟩]⟩, method⟩

/-- What a method of the class is analysed in. -/
def setting (methods : List MethodDecl) (method : MethodDecl) : Setting :=
  (unit methods).setting .default (member methods method)

/-- The lock `mu` of the current object. -/
def mu : Guard :=
  .field (.this ⟨"Counter"⟩) ⟨⟨"Counter"⟩, "mu", .reentrantLock, false⟩

/-- A call on `mu`. -/
def onMu (method : String) : Expr := .call (some (.name "mu" .unknown)) method [] .unknown

/-- The statement that reads `x`. -/
def readX : Stmt := .returns (some (.name "x" .unknown)) .unknown

/-- A block at the end of which `mu` is released. -/
def releasing (body : List Stmt) : Stmt :=
  .tryBlock body [] (some [.evaluate (onMu "unlock")]) .unknown

end Counter

end LockDiscipline
