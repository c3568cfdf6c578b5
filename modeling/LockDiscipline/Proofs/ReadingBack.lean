-- A guard can be written down as an expression that has the guard as its canonical form, in the same
-- context. Nothing is lost on the way: objects are named by their classes, fields by their names, and
-- what has only a text by its text. A local or a field that happens to have such a name would hide
-- what the name is meant to say.
import LockDiscipline.Proofs.Nesting
import LockDiscipline.Proofs.TypeTable

namespace LockDiscipline

namespace Context

variable {ctx : Context}

/-! ## Names that mean something by themselves -/

/-- A local in scope, or a field of some class around the member, has the name. -/
def Binds (ctx : Context) (name : String) : Prop :=
  (ctx.locals.lookup name).isSome ∨
    ∃ frame ∈ ctx.scope.frames, (ctx.types.field frame.name name).isSome

instance (name : String) : Decidable (ctx.Binds name) := by
  unfold Binds
  infer_instance

/-- A name that nothing has stands for itself. -/
theorem canonical_name_of_not_binds {name : String} (h : ¬ ctx.Binds name) (span : Span) :
    ctx.canonical (.name name span) = .verbatim name none := by
  have hlocal : ctx.locals.lookup name = none := by
    rw [← Option.not_isSome_iff_eq_none]
    exact fun hsome => h (Or.inl hsome)
  have hfield : ctx.fieldNamed name = none := by
    unfold fieldNamed
    rw [List.findSome?_eq_none_iff.mpr, Option.bind_none]
    rintro ⟨frame, level⟩ hmem
    have hframe : frame ∈ ctx.scope.frames :=
      List.mem_of_getElem? (List.mem_zipIdx_iff_getElem?.mp hmem)
    rw [Option.map_eq_none_iff, ← Option.not_isSome_iff_eq_none]
    exact fun hsome => h (Or.inr ⟨frame, hframe, hsome⟩)
  refine canonical_eq_verbatim (e := .name name span) ?_
  rw [decompose, named, hlocal]
  exact hfield

/-! ## Each form by itself -/

/-- An object around the current one is named by its class, if no other class around has the name. -/
theorem decompose_qualifiedThis (hnodup : (ctx.scope.frames.map (·.name)).Nodup) {level : Nat}
    {cls : TypeName} (hframe : ctx.scope.frames[level]? = some ⟨cls, true⟩)
    (hresolve : ctx.types.resolve cls.text = some cls) (span : Span) :
    ctx.decompose (.qualifiedThis cls.text span) =
      some (if level = 0 then .this cls else .enclosing level cls) := by
  have hlevel : ctx.levelOf cls.text = some level := by
    unfold levelOf
    rw [hresolve]
    obtain ⟨hlt, hget⟩ := List.getElem?_eq_some_iff.mp hframe
    refine List.findIdx?_eq_some_iff_getElem.mpr ⟨hlt, by simp [hget], fun j hj heq => ?_⟩
    have hsame : (ctx.scope.frames.map (·.name))[j]? = (ctx.scope.frames.map (·.name))[level]? := by
      rw [List.getElem?_map, List.getElem?_map, hframe,
        List.getElem?_eq_getElem (Nat.lt_trans hj hlt)]
      simpa using heq
    have hj' : j < (ctx.scope.frames.map (·.name)).length := by
      rw [List.length_map]
      exact Nat.lt_trans hj hlt
    exact absurd ((List.getElem?_inj hj' hnodup).mp hsame) (Nat.ne_of_lt hj)
  rw [decompose, hlevel, Option.bind_some]
  exact (ctx.scope.instanceAt_eq_some_iff level _).mpr ⟨cls, hframe, rfl⟩

/-- A static field is named by the class that declares it, if the name of the class says nothing
else. -/
theorem decompose_staticField {f : FieldSymbol} (hstatic : f.isStatic = true)
    (hresolve : ctx.types.resolve f.owner.text = some f.owner)
    (hfield : ctx.types.field f.owner f.name = some f) (hfree : ¬ ctx.Binds f.owner.text)
    (span : Span) :
    ctx.decompose (.select (.name f.owner.text span) f.name span) = some (.staticField f) := by
  have howner := canonical_name_of_not_binds hfree span
  unfold canonical at howner
  rw [decompose, howner]
  simp [selected, Guard.isVerbatim, Guard.type, staticFieldOf, Expr.dottedName?, hresolve, hfield,
    hstatic]

/-- A field of an object is named by the object and by its own name. -/
theorem decompose_field {base : Guard} {e : Expr} (hbase : ctx.decompose e = some base)
    {owner : TypeName} (howner : base.type = some owner) {f : FieldSymbol}
    (hfield : ctx.types.field owner f.name = some f) (hstatic : f.isStatic = false) (span : Span) :
    ctx.decompose (.select e f.name span) = some (.field base f) := by
  rw [decompose, hbase]
  simp [selected, fieldOf, howner, hfield, hstatic]

end Context

/-! ## Reading a guard of a unit -/

namespace CompilationUnit

variable {unit : CompilationUnit}

theorem nodup_frames (h : unit.DistinctNames) {site : ClassSite} (hsite : site ∈ unit.sites)
    (memberIsStatic : Bool) : ((site.scope memberIsStatic).frames.map (·.name)).Nodup := by
  rw [Scope.frames, Scope.map_name_framesFrom, List.map_reverse, List.nodup_reverse]
  exact nodup_nesting h hsite

/-- The full name of a class around a member stands for that class. -/
theorem resolve_frame {site : ClassSite} (hsite : site ∈ unit.sites) {memberIsStatic : Bool}
    {level : Nat} {type : TypeName}
    (h : (site.scope memberIsStatic).classAt level = some type) :
    unit.types.resolve type.text = some type := by
  rw [ClassSite.classAt_scope, ← ClassSite.classAt_scope site false] at h
  obtain ⟨cls, hcls, rfl⟩ := mem_allClasses_of_around hsite h
  exact ClassTable.resolve_text (ClassTable.type_mem_names hcls)

/-- A form is read back from the expression that it is written as. -/
theorem decompose_toExpr (h : unit.DistinctNames) {site : ClassSite} (hsite : site ∈ unit.sites)
    (memberIsStatic : Bool) (locals : Locals)
    (hfree : ∀ type ∈ (ClassTable.ofUnit unit).names,
      ¬ Context.Binds ⟨unit.types, site.scope memberIsStatic, locals⟩ type.text)
    {guard : Guard}
    (hform : Context.Form ⟨unit.types, site.scope memberIsStatic, locals⟩ guard) :
    Context.decompose ⟨unit.types, site.scope memberIsStatic, locals⟩ guard.toExpr =
      some guard := by
  induction hform with
  | @object level guard hobject =>
    obtain ⟨cls, hframe, hguard⟩ := (Scope.instanceAt_eq_some_iff _ _ _).mp hobject
    by_cases hlevel : level = 0
    · rw [if_pos hlevel] at hguard
      rw [hlevel] at hobject
      rw [hguard] at hobject ⊢
      exact hobject
    · have hclass : (site.scope memberIsStatic).classAt level = some cls := by
        rw [Scope.classAt, hframe]
        rfl
      have hread : Context.decompose ⟨unit.types, site.scope memberIsStatic, locals⟩
          (.qualifiedThis cls.text .unknown) = _ :=
        Context.decompose_qualifiedThis (nodup_frames h hsite memberIsStatic) hframe
          (resolve_frame hsite hclass) .unknown
      rw [if_neg hlevel] at hguard hread
      rw [hguard]
      exact hread
  | @localVar name type hlocal =>
    rw [Guard.toExpr, Context.decompose, Context.named, hlocal]
  | @field base owner name f hbase howner hfield hstatic ih =>
    obtain ⟨rfl, -, -⟩ := ClassTable.field_eq_some hfield
    exact Context.decompose_field ih howner hfield hstatic .unknown
  | @staticField owner name f hfield hstatic =>
    obtain ⟨-, hknown, hown⟩ := ClassTable.field_eq_some hfield
    exact Context.decompose_staticField hstatic (ClassTable.resolve_text hknown) hown
      (hfree _ hknown) .unknown
  | classLit written =>
    rw [Guard.toExpr, Context.decompose]
    exact congrArg (fun type => some (Guard.classLit type))
      ((ClassTable.ofUnit unit).written_written written)

/-- The canonical form of an expression, written as an expression, has itself as its canonical form,
down to the static types. No local in scope and no field of a class around the member may be named
like a known type; and where the expression is known only by its text, though it is no name, none
may have that text for its name. -/
theorem a_canonical_form_can_be_read_back (unit : CompilationUnit) (h : unit.DistinctNames)
    (site : ClassSite) (hsite : site ∈ unit.sites) (memberIsStatic : Bool) (locals : Locals)
    (e : Expr) :
    let ctx : Context := ⟨unit.types, site.scope memberIsStatic, locals⟩
    (∀ type ∈ (ClassTable.ofUnit unit).names, ¬ ctx.Binds type.text) →
      (∀ text type, ctx.canonical e = .verbatim text type → (∀ name span, e ≠ .name name span) →
        ¬ ctx.Binds text) →
      ctx.canonical (ctx.canonical e).toExpr = ctx.canonical e := by
  intro ctx hfree htext
  rcases ctx.form_or_verbatim e with hform | ⟨hnone, hverbatim⟩
  · exact Context.canonical_eq_of_decompose
      (decompose_toExpr h hsite memberIsStatic locals hfree hform)
  · rw [hverbatim, Guard.toExpr]
    by_cases hname : ∃ name span, e = .name name span
    · -- A name that means nothing is written as itself.
      obtain ⟨name, span, rfl⟩ := hname
      exact Context.canonical_eq_verbatim (e := .name name .unknown) hnone
    · refine Context.canonical_name_of_not_binds (htext _ _ hverbatim fun name span heq => ?_) _
      exact hname ⟨name, span, heq⟩

end CompilationUnit

namespace Nested

theorem the_mu_of_the_outermost_class_is_read_back :
    let ctx : Context := ⟨(unit []).types, (leafSite []).scope false, [("o", ⟨"Outer"⟩)]⟩
    (unit []).DistinctNames ∧ leafSite [] ∈ (unit []).sites ∧
      (∀ type ∈ (ClassTable.ofUnit (unit [])).names, ¬ ctx.Binds type.text) ∧
      ctx.canonical (.name "mu" .unknown) = outerMu 2 ∧
      (outerMu 2).toExpr.text = "Outer.this.mu" ∧ ctx.canonical (outerMu 2).toExpr = outerMu 2 := by
  intro ctx
  have hdistinct : (unit []).DistinctNames := by decide
  have hfree : ∀ type ∈ (ClassTable.ofUnit (unit [])).names, ¬ ctx.Binds type.text := by
    decide +kernel
  have hmu : ctx.canonical (.name "mu" .unknown) = outerMu 2 := by decide +kernel
  have hread := CompilationUnit.a_canonical_form_can_be_read_back (unit []) hdistinct (leafSite [])
    (leafSite_mem_sites []) false [("o", ⟨"Outer"⟩)] (.name "mu" .unknown) hfree
    fun text type heq => by cases hmu.symm.trans heq
  rw [hmu] at hread
  exact ⟨hdistinct, leafSite_mem_sites [], hfree, hmu, by decide +kernel, hread⟩

end Nested

end LockDiscipline
