-- An annotation is turned down if the whole of its guard is known by its text only. That says
-- nothing of the objects behind the guard, and nothing of static members under the lock of an
-- object. Both follow from how canonical forms are built where there are no locals.
import LockDiscipline.Proofs.DeclaredGuards
import LockDiscipline.Proofs.Nesting
import LockDiscipline.Proofs.Rebinding

namespace LockDiscipline

/-! ## Scopes of static members -/

namespace Scope

variable {scope : Scope}

theorem lt_length_of_classAt {level : Nat} {cls : TypeName} (h : scope.classAt level = some cls) :
    level < scope.nesting.length := by
  rw [classAt_eq] at h
  obtain ⟨hlt, -⟩ := List.getElem?_eq_some_iff.mp h
  simpa using hlt

theorem reachable_of_mem_framesFrom {classes : List NestedClass} {frame : Frame}
    (h : frame ∈ framesFrom false classes) : frame.reachable = false := by
  induction classes with
  | nil => cases h
  | cons cls outer ih =>
    rcases List.mem_cons.mp h with rfl | h
    · rfl
    · exact ih h

theorem instanceAt_of_static (h : scope.memberIsStatic = true) (level : Nat) :
    scope.instanceAt level = none := by
  cases hobject : scope.instanceAt level with
  | none => rfl
  | some guard =>
    obtain ⟨cls, hframe, -⟩ := (scope.instanceAt_eq_some_iff level guard).mp hobject
    unfold frames at hframe
    rw [h] at hframe
    cases reachable_of_mem_framesFrom (List.mem_of_getElem? hframe)

end Scope

/-! ## What a guard is made of -/

namespace Context

variable {ctx : Context} {guard : Guard}

/-- A form that starts at a text starts at a local that is in scope. -/
theorem lookup_of_form {guard : Guard} (h : ctx.Form guard) {name : String}
    {type : Option TypeName} (horigin : guard.origin = .verbatim name type) :
    ∃ known, type = some known ∧ ctx.locals.lookup name = some known := by
  induction h with
  | object hobject =>
    obtain ⟨cls, -, rfl⟩ := (ctx.scope.instanceAt_eq_some_iff _ _).mp hobject
    split at horigin <;> cases horigin
  | localVar hlocal =>
    cases horigin
    exact ⟨_, rfl, hlocal⟩
  | field _ _ _ _ ih => exact ih horigin
  | staticField => cases horigin
  | classLit => cases horigin

/-- Where there are no locals, nothing in a form is known by its text only. -/
theorem Form.not_verbatim_of_mem_nodes (h : ctx.Form guard) (hlocals : ctx.locals = []) :
    ∀ node ∈ guard.nodes, node.isVerbatim = false := by
  intro node hnode
  cases node with
  | verbatim text type =>
    rw [Guard.mem_nodes_iff (.verbatim text type) guard nofun] at hnode
    obtain ⟨_, -, hlocal⟩ := lookup_of_form h hnode
    rw [hlocals] at hlocal
    cases hlocal
  | _ => rfl

/-- The objects that a form speaks of are at hand. -/
theorem Form.instanceAt_of_mem_nodes (h : ctx.Form guard) :
    ∀ node ∈ guard.nodes, ∀ level, node.depth? = some level →
      ctx.scope.instanceAt level = some node := by
  induction h with
  | @object level guard hobject =>
    obtain ⟨cls, -, heq⟩ := (ctx.scope.instanceAt_eq_some_iff level guard).mp hobject
    have hself : guard.nodes = [guard] ∧ guard.depth? = some level := by
      rw [heq]
      split <;> simp_all [Guard.nodes, Guard.depth?]
    intro node hnode level' hdepth
    rw [hself.1, List.mem_singleton] at hnode
    rw [hnode, hself.2, Option.some.injEq] at hdepth
    rw [hnode, ← hdepth]
    exact hobject
  | field _ _ _ _ ih =>
    refine List.forall_mem_cons.mpr ⟨?_, ih⟩
    intro level hdepth
    cases hdepth
  | _ => simp [Guard.nodes, Guard.depth?]

/-- Seen from a static member, no form speaks of an object of a class around. -/
theorem Form.depth_of_mem_nodes (h : ctx.Form guard) (hstatic : ctx.scope.memberIsStatic = true) :
    ∀ node ∈ guard.nodes, node.depth? = none := by
  intro node hnode
  rw [Option.eq_none_iff_forall_ne_some]
  intro level hdepth
  have hobject := h.instanceAt_of_mem_nodes node hnode level hdepth
  rw [Scope.instanceAt_of_static hstatic] at hobject
  cases hobject

end Context

/-- The guard that an annotation names has one of the forms, where there are no locals. -/
theorem GuardNote.form_of_accepted {note : Option GuardNote} {name : String} {scope : Scope}
    {types : TypeLookup} {guard : Guard}
    (h : (note.bind fun note => (note.resolve name scope types).toOption) = some guard) :
    Context.Form ⟨types, scope, []⟩ guard := by
  obtain ⟨e, hvalue, rfl⟩ := GuardNote.exists_canonical_of_accepted h
  rcases Context.form_or_verbatim e with hform | ⟨-, hverbatim⟩
  · exact hform
  · rw [hverbatim] at hvalue
    cases hvalue

namespace Guard

/-- Only what starts at an object or at a text depends on the receiver. -/
theorem rebind_eq_self {guard : Guard} (hnamed : ∀ node ∈ guard.nodes, node.isVerbatim = false)
    (hfree : ∀ node ∈ guard.nodes, node.depth? = none) (receiver : Guard) :
    guard.rebind receiver = guard := by
  induction guard with
  | this cls => cases hfree _ List.mem_cons_self
  | enclosing level cls => cases hfree _ List.mem_cons_self
  | field base f ih =>
    rw [rebind_field, ih (List.forall_mem_cons.mp hnamed).2 (List.forall_mem_cons.mp hfree).2]
  | staticField f => exact rebind_staticField f receiver
  | classLit cls => exact rebind_classLit cls receiver
  | verbatim text type => cases hnamed _ List.mem_cons_self

/-- What the guard of a member can be where the member stands. -/
structure Fits (guard : Guard) (scope : Scope) : Prop where
  /-- Nothing in it is known by its text only. -/
  named : ∀ node ∈ guard.nodes, node.isVerbatim = false
  /-- Its objects around the current one are those of classes around the member. -/
  inside : ∀ node ∈ guard.nodes, ∀ level, node.depth? = some level →
    level < scope.nesting.length ∧ scope.classAt level = node.type
  /-- A static member has a guard with no object of a class around it. -/
  instanceFree : scope.memberIsStatic = true → ∀ node ∈ guard.nodes, node.depth? = none
  /-- The guard of a static member is the same for every receiver. -/
  fixed : scope.memberIsStatic = true → ∀ receiver, guard.rebind receiver = guard

/-- The guard that an annotation names fits where it was resolved. -/
theorem fits_of_accepted {note : Option GuardNote} {name : String} {scope : Scope}
    {types : TypeLookup} {guard : Guard}
    (h : (note.bind fun note => (note.resolve name scope types).toOption) = some guard) :
    guard.Fits scope := by
  have hform := GuardNote.form_of_accepted h
  have hnamed := hform.not_verbatim_of_mem_nodes rfl
  refine ⟨hnamed, ?_, hform.depth_of_mem_nodes, ?_⟩
  · intro node hnode level hdepth
    have hobject := hform.instanceAt_of_mem_nodes node hnode level hdepth
    obtain ⟨cls, hframe, -⟩ := (scope.instanceAt_eq_some_iff level node).mp hobject
    have hclass : scope.classAt level = some cls := by
      unfold Scope.classAt
      simp [hframe]
    exact ⟨Scope.lt_length_of_classAt hclass, (scope.type_of_instanceAt hobject).symm⟩
  · intro hstatic
    exact rebind_eq_self hnamed (hform.depth_of_mem_nodes hstatic)

end Guard

/-! ## The guards of a unit -/

theorem ClassSite.Declares.exists_fits {site : ClassSite} {types : TypeLookup} {guard : Guard}
    (h : site.Declares types guard) : ∃ memberIsStatic, guard.Fits (site.scope memberIsStatic) := by
  rcases h with ⟨field, -, hguard⟩ | ⟨method, -, hguard⟩
  · exact ⟨field.isStatic, Guard.fits_of_accepted hguard⟩
  · exact ⟨method.isStatic, Guard.fits_of_accepted hguard⟩

namespace CompilationUnit

/-- Every guard in the table of a unit was accepted for a member, and every guard that is accepted
for a member fits where the member stands. -/
theorem every_accepted_guard_fits_its_member (unit : CompilationUnit) (types : TypeLookup) :
    let table := (unit.validate types).guards
    (∀ entry ∈ table.fields,
      ∃ site ∈ unit.sites, ∃ field ∈ site.cls.fields, site.IsEntry types field entry) ∧
    (∀ entry ∈ table.methods,
      ∃ site ∈ unit.sites, ∃ method ∈ site.cls.methods, entry = site.entry types method) ∧
    ∀ site ∈ unit.sites,
      (∀ field ∈ site.cls.fields, ∀ guard, site.acceptedFieldGuard types field = some guard →
        guard.Fits (site.scope field.isStatic)) ∧
      ∀ method ∈ site.cls.methods, ∀ guard, site.acceptedGuard types method = some guard →
        guard.Fits (site.scope method.isStatic) := by
  intro table
  refine ⟨?_, ?_, ?_⟩
  · intro entry hentry
    rcases Validation.mem_fields_addSites types hentry with hnone | hentry
    · cases hnone
    · exact hentry
  · intro entry hentry
    have hentry : entry ∈ unit.sites.flatMap (·.entries types) :=
      unit.methods_validate types ▸ hentry
    obtain ⟨site, hsite, hentry⟩ := List.mem_flatMap.mp hentry
    obtain ⟨method, hmethod, rfl⟩ := List.mem_map.mp hentry
    exact ⟨site, hsite, method, (List.mem_filter.mp hmethod).1, rfl⟩
  · intro site _
    constructor
    · intro field _ guard hguard
      exact Guard.fits_of_accepted hguard
    · intro method _ guard hguard
      exact Guard.fits_of_accepted hguard

end CompilationUnit

/-! ## A static field and a field of an inner class

The class `Outer` guards its static field `count` by a field of its static field `LOCK`. The class
`Inner` inside it guards its field `x` by the lock `mu` of the object around. -/

namespace StaticAndInner

def lock : FieldDecl := ⟨"LOCK", "Outer", true, none, none, .unknown⟩

def count : FieldDecl := ⟨"count", "int", true, some ⟨"LOCK.mu", .unknown⟩, none, .unknown⟩

def inner : ClassDecl := .mk "Outer.Inner" [] false [Nested.x] [] [] [] .unknown

def outer : ClassDecl :=
  .mk "Outer" [] false [lock, Nested.mu, count] [] [] [inner] .unknown

def unit : CompilationUnit := ⟨none, none, [outer]⟩

def outerSite : ClassSite := ⟨outer, [⟨⟨"Outer"⟩, false⟩]⟩

def innerSite : ClassSite := ⟨inner, [⟨⟨"Outer"⟩, false⟩, ⟨⟨"Outer.Inner"⟩, false⟩]⟩

/-- The lock `mu` of the object that `LOCK` holds. -/
def muOfLock : Guard :=
  .field (.staticField ⟨⟨"Outer"⟩, "LOCK", ⟨"Outer"⟩, true⟩) ⟨⟨"Outer"⟩, "mu", .object, false⟩

theorem the_guards_of_count_and_x_fit :
    outerSite ∈ unit.sites ∧ innerSite ∈ unit.sites ∧
      outerSite.acceptedFieldGuard unit.types count = some muOfLock ∧
      innerSite.acceptedFieldGuard unit.types Nested.x = some (Nested.outerMu 1) ∧
      muOfLock.Fits (outerSite.scope true) ∧ (Nested.outerMu 1).Fits (innerSite.scope false) := by
  have houter : outerSite ∈ unit.sites := List.mem_cons_self
  have hinner : innerSite ∈ unit.sites := List.mem_cons_of_mem _ List.mem_cons_self
  have hcount : outerSite.acceptedFieldGuard unit.types count = some muOfLock := by
    decide +kernel
  have hx : innerSite.acceptedFieldGuard unit.types Nested.x = some (Nested.outerMu 1) := by
    decide +kernel
  obtain ⟨-, -, hfits⟩ := unit.every_accepted_guard_fits_its_member unit.types
  refine ⟨houter, hinner, hcount, hx, ?_, ?_⟩
  · exact (hfits outerSite houter).1 count (by simp [outerSite, outer, ClassDecl.fields]) _ hcount
  · exact (hfits innerSite hinner).1 Nested.x List.mem_cons_self _ hx

end StaticAndInner

end LockDiscipline
