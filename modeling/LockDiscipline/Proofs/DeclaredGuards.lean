-- Where the guards of a unit come from: each one in its table was accepted for a member of the class
-- that the table names, and means what its text means where that member is declared.
import LockDiscipline.Proofs.Members

namespace LockDiscipline

/-! ## The guards that a class declares -/

theorem eq_ok_of_toOption {ε α : Type} {result : Except ε α} {value : α}
    (h : result.toOption = some value) : result = .ok value := by
  cases result with
  | error _ => cases h
  | ok _ =>
    cases h
    rfl

/-- The guard that an annotation names is the canonical form of an expression, and not known by its
text only. -/
theorem GuardNote.exists_canonical_of_accepted {note : Option GuardNote} {name : String}
    {scope : Scope} {types : TypeLookup} {guard : Guard}
    (h : (note.bind fun note => (note.resolve name scope types).toOption) = some guard) :
    ∃ e : Expr, guard.isVerbatim = false ∧ Context.canonical ⟨types, scope, []⟩ e = guard := by
  obtain ⟨note, -, hresolve⟩ := Option.bind_eq_some_iff.mp h
  have hresolve := eq_ok_of_toOption hresolve
  unfold GuardNote.resolve at hresolve
  cases hread : Guard.read note.text note.span with
  | error error =>
    rw [hread] at hresolve
    cases hresolve
  | ok e =>
    rw [hread] at hresolve
    dsimp only [bind, Except.bind] at hresolve
    split at hresolve
    · rename_i hvalue
      cases hresolve
      exact ⟨e, by simpa using hvalue, rfl⟩
    · split at hresolve <;> cases hresolve

namespace ClassSite

variable (types : TypeLookup) (site : ClassSite)

/-- The guard that the annotation of a field names, if the field has one and it is accepted. -/
def acceptedFieldGuard (field : FieldDecl) : Option Guard :=
  field.guardedBy.bind fun note =>
    (note.resolve field.name (site.scope field.isStatic) types).toOption

/-- The guard was accepted for a field or a method of the class. -/
def Declares (guard : Guard) : Prop :=
  (∃ field ∈ site.cls.fields, site.acceptedFieldGuard types field = some guard) ∨
    ∃ method ∈ site.cls.methods, site.acceptedGuard types method = some guard

/-- The entry of the table is that of a guarded field of the class. -/
def IsEntry (field : FieldDecl) (entry : FieldEntry) : Prop :=
  entry.owner = site.cls.type ∧ entry.name = field.name ∧
    site.acceptedFieldGuard types field = some entry.guard

end ClassSite

/-! ## The entries of the table -/

namespace Validation

variable (types : TypeLookup) (site : ClassSite)

theorem mem_fields_addField {validation : Validation} {field : FieldDecl} {entry : FieldEntry}
    (h : entry ∈ (addField types site validation field).guards.fields) :
    entry ∈ validation.guards.fields ∨ site.IsEntry types field entry := by
  unfold addField at h
  split at h
  · exact Or.inl h
  · rename_i note hnote
    split at h
    · rename_i guard hresolve
      rcases List.mem_append.mp h with h | h
      · exact Or.inl ((List.mem_filter.mp h).1)
      · cases List.mem_singleton.mp h
        refine Or.inr ⟨rfl, rfl, ?_⟩
        rw [ClassSite.acceptedFieldGuard, hnote, Option.bind_some, hresolve]
        rfl
    · exact Or.inl h

theorem mem_fields_addFields {fields : List FieldDecl} {validation : Validation}
    {entry : FieldEntry}
    (h : entry ∈ (fields.foldl (addField types site) validation).guards.fields) :
    entry ∈ validation.guards.fields ∨ ∃ field ∈ fields, site.IsEntry types field entry := by
  induction fields generalizing validation with
  | nil => exact Or.inl h
  | cons field rest ih =>
    rcases ih h with h | ⟨other, hother, hentry⟩
    · rcases mem_fields_addField types site h with h | hentry
      · exact Or.inl h
      · exact Or.inr ⟨field, List.mem_cons_self, hentry⟩
    · exact Or.inr ⟨other, List.mem_cons_of_mem _ hother, hentry⟩

theorem fields_enter (method : MethodDecl) (guard : Option Guard) (guards : GuardTable) :
    (enter site method guard guards).fields = guards.fields := by
  unfold enter
  split <;> rfl

theorem fields_addMethod (validation : Validation) (method : MethodDecl) :
    (addMethod types site validation method).guards.fields = validation.guards.fields := by
  unfold addMethod
  split
  · exact fields_enter ..
  · split <;> exact fields_enter ..

theorem fields_addMethods (methods : List MethodDecl) (validation : Validation) :
    (methods.foldl (addMethod types site) validation).guards.fields = validation.guards.fields := by
  induction methods generalizing validation with
  | nil => rfl
  | cons method rest ih => rw [List.foldl_cons, ih, fields_addMethod]

theorem mem_fields_addSites {sites : List ClassSite} {validation : Validation} {entry : FieldEntry}
    (h : entry ∈ (sites.foldl (addSite types) validation).guards.fields) :
    entry ∈ validation.guards.fields ∨
      ∃ site ∈ sites, ∃ field ∈ site.cls.fields, site.IsEntry types field entry := by
  induction sites generalizing validation with
  | nil => exact Or.inl h
  | cons site rest ih =>
    rcases ih h with h | ⟨other, hother, hentry⟩
    · rw [addSite, fields_addMethods] at h
      rcases mem_fields_addFields types site h with h | hentry
      · exact Or.inl h
      · exact Or.inr ⟨site, List.mem_cons_self, hentry⟩
    · exact Or.inr ⟨other, List.mem_cons_of_mem _ hother, hentry⟩

end Validation

namespace GuardTable

variable {table : GuardTable} {types : TypeLookup} {owner : TypeName} {name : String} {arity : Nat}
  {entry : MethodEntry}

/-- The method that a call means is one that objects of the type have. -/
theorem mem_callable_of_method? (h : table.method? types owner name arity = some entry) :
    entry ∈ table.callable types owner name arity := by
  rcases Option.or_eq_some_iff.mp h with h | ⟨-, h⟩
  · exact List.mem_of_find?_eq_some h
  · rcases Option.or_eq_some_iff.mp h with h | ⟨-, h⟩
    · exact List.mem_of_find?_eq_some h
    · exact List.mem_of_head? h

/-- The method that a call means is one of the table. -/
theorem mem_of_method? (h : table.method? types owner name arity = some entry) :
    entry ∈ table.methods := (List.mem_filter.mp (mem_callable_of_method? h)).1

/-- The method that a call means stands in the type of the object or in a type above it. -/
theorem isSubtype_of_method? (h : table.method? types owner name arity = some entry) :
    types.isSubtype owner entry.owner = true := by
  have hcallable := (List.mem_filter.mp (mem_callable_of_method? h)).2
  rw [Bool.and_eq_true] at hcallable
  exact hcallable.2

end GuardTable

namespace CompilationUnit

variable {unit : CompilationUnit} {types : TypeLookup}

/-- The guard of a field is declared by the class that declares the field. -/
theorem declares_of_fieldGuard {f : FieldSymbol} {guard : Guard}
    (h : (unit.validate types).guards.fieldGuard f = some guard) :
    ∃ home ∈ unit.sites, home.cls.type = f.owner ∧ home.Declares types guard := by
  obtain ⟨entry, hfind, rfl⟩ := Option.map_eq_some_iff.mp h
  have howner : entry.owner = f.owner ∧ entry.name = f.name := by
    simpa using List.find?_some hfind
  rcases Validation.mem_fields_addSites types (List.mem_of_find?_eq_some hfind) with hnone | hentry
  · cases hnone
  · obtain ⟨home, hhome, field, hfield, htype, -, hguard⟩ := hentry
    exact ⟨home, hhome, htype.symm.trans howner.1, Or.inl ⟨field, hfield, hguard⟩⟩

/-- The guard of a method is declared by the class that declares the method. -/
theorem declares_of_method? {owner : TypeName} {name : String} {arity : Nat} {entry : MethodEntry}
    {guard : Guard} (h : (unit.validate types).guards.method? types owner name arity = some entry)
    (hguard : entry.guard = some guard) :
    ∃ home ∈ unit.sites, home.cls.type = entry.owner ∧ home.Declares types guard := by
  have hentry := GuardTable.mem_of_method? h
  rw [methods_validate, List.mem_flatMap] at hentry
  obtain ⟨home, hhome, hentry⟩ := hentry
  obtain ⟨method, hmethod, rfl⟩ := List.mem_map.mp hentry
  exact ⟨home, hhome, rfl, Or.inr ⟨method, (List.mem_filter.mp hmethod).1, hguard⟩⟩

end CompilationUnit

end LockDiscipline
