-- A copy that is put together by hand is as plain as it can be: a copy of the copy is no different.
-- And it declares what the unit does, so the same types are known, the same guards are accepted,
-- and the same annotations are rejected, though at other places.
import LockDiscipline.Program.HandBuilt
import LockDiscipline.Proofs.BareUnits
import LockDiscipline.Proofs.Signatures

namespace LockDiscipline

/-! ## Copies of copies -/

mutual

theorem Expr.handBuilt_handBuilt (e : Expr) : e.handBuilt.handBuilt = e.handBuilt := by
  cases e with
  | select receiver n _ => rw [Expr.handBuilt, Expr.handBuilt, receiver.handBuilt_handBuilt]
  | call receiver method args _ =>
    rw [Expr.handBuilt, Expr.handBuilt, Expr.handBuiltOption_handBuiltOption receiver,
      Expr.handBuiltAll_handBuiltAll args]
  | assign target value _ _ =>
    rw [Expr.handBuilt, Expr.handBuilt, target.handBuilt_handBuilt, value.handBuilt_handBuilt]
  | binary op lhs rhs _ =>
    rw [Expr.handBuilt, Expr.handBuilt, lhs.handBuilt_handBuilt, rhs.handBuilt_handBuilt]
  | lambda params body _ => rw [Expr.handBuilt, Expr.handBuilt, Stmt.handBuiltAll_handBuiltAll body]
  | _ => rw [Expr.handBuilt, Expr.handBuilt]

theorem Expr.handBuiltAll_handBuiltAll (es : List Expr) :
    Expr.handBuiltAll (Expr.handBuiltAll es) = Expr.handBuiltAll es := by
  cases es with
  | nil => rfl
  | cons e rest =>
    rw [Expr.handBuiltAll, Expr.handBuiltAll, e.handBuilt_handBuilt,
      Expr.handBuiltAll_handBuiltAll rest]

theorem Expr.handBuiltOption_handBuiltOption (e : Option Expr) :
    Expr.handBuiltOption (Expr.handBuiltOption e) = Expr.handBuiltOption e := by
  cases e with
  | none => rfl
  | some e => rw [Expr.handBuiltOption, Expr.handBuiltOption, e.handBuilt_handBuilt]

theorem Stmt.handBuilt_handBuilt (s : Stmt) : s.handBuilt.handBuilt = s.handBuilt := by
  cases s with
  | evaluate e => rw [Stmt.handBuilt, Stmt.handBuilt, e.handBuilt_handBuilt]
  | declare name type init _ =>
    rw [Stmt.handBuilt, Stmt.handBuilt, Expr.handBuiltOption_handBuiltOption init]
  | returns value _ =>
    rw [Stmt.handBuilt, Stmt.handBuilt, Expr.handBuiltOption_handBuiltOption value]
  | throws value _ => rw [Stmt.handBuilt, Stmt.handBuilt, value.handBuilt_handBuilt]
  | synchronized lock body _ =>
    rw [Stmt.handBuilt, Stmt.handBuilt, lock.handBuilt_handBuilt,
      Stmt.handBuiltAll_handBuiltAll body]
  | ifElse cond thenBranch elseBranch _ =>
    rw [Stmt.handBuilt, Stmt.handBuilt, cond.handBuilt_handBuilt,
      Stmt.handBuiltAll_handBuiltAll thenBranch, Stmt.handBuiltOption_handBuiltOption elseBranch]
  | tryBlock body catches atEnd _ =>
    rw [Stmt.handBuilt, Stmt.handBuilt, Stmt.handBuiltAll_handBuiltAll body,
      Stmt.handBuiltCatches_handBuiltCatches catches, Stmt.handBuiltOption_handBuiltOption atEnd]
  | _ => rw [Stmt.handBuilt, Stmt.handBuilt]

theorem Stmt.handBuiltAll_handBuiltAll (stmts : List Stmt) :
    Stmt.handBuiltAll (Stmt.handBuiltAll stmts) = Stmt.handBuiltAll stmts := by
  cases stmts with
  | nil => rfl
  | cons s rest =>
    rw [Stmt.handBuiltAll, Stmt.handBuiltAll, s.handBuilt_handBuilt,
      Stmt.handBuiltAll_handBuiltAll rest]

theorem Stmt.handBuiltOption_handBuiltOption (body : Option (List Stmt)) :
    Stmt.handBuiltOption (Stmt.handBuiltOption body) = Stmt.handBuiltOption body := by
  cases body with
  | none => rfl
  | some body =>
    rw [Stmt.handBuiltOption, Stmt.handBuiltOption, Stmt.handBuiltAll_handBuiltAll body]

theorem Stmt.handBuiltCatches_handBuiltCatches (catches : List CatchClause) :
    Stmt.handBuiltCatches (Stmt.handBuiltCatches catches) = Stmt.handBuiltCatches catches := by
  cases catches with
  | nil => rfl
  | cons c rest =>
    cases c with
    | mk param type body =>
      rw [Stmt.handBuiltCatches, Stmt.handBuiltCatches, Stmt.handBuiltAll_handBuiltAll body,
        Stmt.handBuiltCatches_handBuiltCatches rest]

end

theorem FieldDecl.handBuilt_handBuilt (field : FieldDecl) :
    field.handBuilt.handBuilt = field.handBuilt := by
  unfold handBuilt
  cases field.guardedBy <;> rfl

theorem MethodDecl.handBuilt_handBuilt (cls : String) (method : MethodDecl) :
    (method.handBuilt cls).handBuilt cls = method.handBuilt cls := by
  have hkind : (method.handBuilt cls).isConstructor = method.isConstructor := rfl
  have hnote : (method.guardedBy.map (·.onMember method.span)).map (·.onMember method.span) =
      method.guardedBy.map (·.onMember method.span) := by
    cases method.guardedBy <;> rfl
  rw [handBuilt, hkind]
  unfold handBuilt
  dsimp only
  rw [hnote, Stmt.handBuiltAll_handBuiltAll]
  split <;> rfl

mutual

theorem ClassDecl.handBuilt_handBuilt (cls : ClassDecl) :
    cls.handBuilt.handBuilt = cls.handBuilt := by
  cases cls with
  | mk name supertypes isStatic fields methods initializers nested _ =>
    have hinitializer (initializer : Initializer) :
        initializer.handBuilt.handBuilt = initializer.handBuilt := by
      unfold Initializer.handBuilt
      rw [Stmt.handBuiltAll_handBuiltAll]
    simp only [handBuilt, List.map_map, Function.comp_def, FieldDecl.handBuilt_handBuilt,
      MethodDecl.handBuilt_handBuilt, hinitializer, ClassDecl.handBuiltAll_handBuiltAll nested]

theorem ClassDecl.handBuiltAll_handBuiltAll (classes : List ClassDecl) :
    ClassDecl.handBuiltAll (ClassDecl.handBuiltAll classes) = ClassDecl.handBuiltAll classes := by
  cases classes with
  | nil => rfl
  | cons cls rest =>
    rw [handBuiltAll, handBuiltAll, cls.handBuilt_handBuilt,
      ClassDecl.handBuiltAll_handBuiltAll rest]

end

/-- A copy of a copy is the copy. -/
theorem CompilationUnit.handBuilt_handBuilt (unit : CompilationUnit) :
    unit.handBuilt.handBuilt = unit.handBuilt := by
  unfold handBuilt
  rw [ClassDecl.handBuiltAll_handBuiltAll]

/-! ## What a copy declares -/

def ClassSite.handBuilt (site : ClassSite) : ClassSite := ⟨site.cls.handBuilt, site.nesting⟩

mutual

theorem sites_handBuilt (outer : List NestedClass) (cls : ClassDecl) :
    cls.handBuilt.sites outer = (cls.sites outer).map ClassSite.handBuilt := by
  cases cls with
  | mk name supertypes isStatic fields methods initializers nested span =>
    rw [ClassDecl.handBuilt, ClassDecl.sites, sitesAll_handBuilt _ nested, ClassDecl.sites,
      List.map_cons, ClassSite.handBuilt, ClassDecl.handBuilt]

theorem sitesAll_handBuilt (outer : List NestedClass) (classes : List ClassDecl) :
    ClassDecl.sitesAll outer (ClassDecl.handBuiltAll classes) =
      (ClassDecl.sitesAll outer classes).map ClassSite.handBuilt := by
  cases classes with
  | nil => rfl
  | cons cls rest =>
    rw [ClassDecl.handBuiltAll, ClassDecl.sitesAll, sites_handBuilt _ cls,
      sitesAll_handBuilt _ rest, ClassDecl.sitesAll, List.map_append]

end

/-- The annotation is moved, and the initializer is gone: without places and initializers the field
is the same. -/
theorem FieldDecl.bare_handBuilt (field : FieldDecl) : field.handBuilt.bare = field.bare := by
  unfold bare handBuilt
  cases field.guardedBy <;> rfl

theorem MethodDecl.signature_bare_handBuilt {cls : String} {method : MethodDecl}
    (h : method.isConstructor = true → method.name = cls) :
    (method.handBuilt cls).bare.signature = method.bare.signature := by
  have hname : (if method.isConstructor = true then cls else method.name) = method.name := by
    split
    · rename_i hconstructor
      exact (h hconstructor).symm
    · rfl
  have hnote : (method.guardedBy.map (·.onMember method.span)).map (·.bare) =
      method.guardedBy.map (·.bare) := by
    cases method.guardedBy <;> rfl
  unfold signature bare handBuilt
  simp only [hname, hnote]

/-- Constructors bear the simple names of their classes. -/
def ClassSite.NamesConstructors (site : ClassSite) : Prop :=
  ∀ method ∈ site.cls.methods, method.isConstructor = true → method.name = site.cls.simpleName

theorem ClassSite.outline_bare_handBuilt {site : ClassSite} (h : site.NamesConstructors) :
    site.handBuilt.bare.outline = site.bare.outline := by
  obtain ⟨cls, nesting⟩ := site
  cases cls with
  | mk name supertypes isStatic fields methods initializers nested span =>
    have hmethods : (methods.map fun method =>
          (method.handBuilt (String.ofList (Text.lastSegment name.toList))).bare.signature) =
        methods.map fun method => method.bare.signature :=
      List.map_congr_left fun method hmethod =>
        MethodDecl.signature_bare_handBuilt (h method hmethod)
    simpa [handBuilt, bare, outline, ClassDecl.handBuilt, ClassDecl.bare, ClassDecl.outline,
      ClassDecl.name, ClassDecl.supertypes, ClassDecl.isStatic, ClassDecl.fields,
      ClassDecl.methods, Function.comp_def, FieldDecl.bare_handBuilt] using hmethods

namespace CompilationUnit

variable {unit : CompilationUnit}

theorem sameOutline_bare_handBuilt (h : ∀ site ∈ unit.sites, site.NamesConstructors) :
    unit.handBuilt.bare.SameOutline unit.bare := by
  have hsites : unit.handBuilt.sites = unit.sites.map ClassSite.handBuilt :=
    sitesAll_handBuilt [] unit.classes
  unfold SameOutline
  rw [sites_bare, sites_bare, hsites, List.map_map, List.map_map, List.map_map]
  exact List.map_congr_left fun site hsite => ClassSite.outline_bare_handBuilt (h site hsite)

/-- A copy of a unit whose constructors bear the names of their classes declares the same types and
gets the same guards. The same annotations are rejected, but for their places. -/
theorem a_copy_declares_the_same (h : ∀ site ∈ unit.sites, site.NamesConstructors)
    (types : TypeLookup) :
    let copy := unit.handBuilt
    copy.types = unit.types ∧
      (copy.validate types).guards = (unit.validate types).guards ∧
      (copy.validate types).errors.map (·.bare) = (unit.validate types).errors.map (·.bare) := by
  intro copy
  have houtline := sameOutline_bare_handBuilt h
  have htypes := houtline.types_eq
  rw [types_bare, types_bare] at htypes
  have hvalidate := houtline.validate_eq types
  rw [validate_bare, validate_bare] at hvalidate
  have hguards := congrArg Validation.guards hvalidate
  have herrors := congrArg Validation.errors hvalidate
  exact ⟨htypes, hguards, herrors⟩

end CompilationUnit

end LockDiscipline
