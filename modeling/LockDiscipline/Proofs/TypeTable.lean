-- The table of a unit knows a type by its name, and a field by the class that declares it. Whatever
-- way led to a type or to a field, these names lead to it again.
import LockDiscipline.Types.ClassTable
import Mathlib.Data.List.Basic

namespace LockDiscipline

namespace ClassTable

/-! ## Names of types -/

theorem names_ofUnit (unit : CompilationUnit) :
    (ofUnit unit).names = knownNames unit.allClasses := by
  rw [names, ofUnit, List.map_map]
  conv => rhs; rw [← List.map_id (knownNames unit.allClasses)]
  refine List.map_congr_left fun type _ => ?_
  rw [Function.comp_apply]
  split <;> rfl

theorem type_mem_names {unit : CompilationUnit} {cls : ClassDecl} (h : cls ∈ unit.allClasses) :
    cls.type ∈ (ofUnit unit).names := by
  rw [names_ofUnit, knownNames, List.mem_eraseDups]
  exact List.mem_append_right _ (List.mem_map_of_mem h)

variable {table : ClassTable}

/-- The full name of a known type stands for that type. -/
theorem resolve_text {type : TypeName} (h : type ∈ table.names) :
    table.resolve type.text = some type := by
  unfold resolve resolveAmong
  exact if_pos (List.contains_iff_mem.mpr h)

/-- A written name stands for known types only. -/
theorem mem_names_of_resolve {written : String} {type : TypeName}
    (h : table.resolve written = some type) : type ∈ table.names := by
  unfold resolve resolveAmong at h
  split at h
  · rename_i hknown
    cases h
    exact List.contains_iff_mem.mp hknown
  · split at h
    · rename_i only hfilter
      cases h
      have honly : type ∈ table.names.filter (·.simple == written) := by
        rw [hfilter]
        exact List.mem_singleton_self type
      exact (List.mem_filter.mp honly).1
    · cases h

/-- What a written name stands for stands for itself. -/
theorem written_written (table : ClassTable) (written : String) :
    table.lookup.written (table.lookup.written written).text = table.lookup.written written := by
  unfold TypeLookup.written
  cases h : table.lookup.resolve written with
  | none =>
    rw [Option.getD_none, h]
    rfl
  | some type =>
    have hself : table.lookup.resolve type.text = some type :=
      resolve_text (mem_names_of_resolve h)
    rw [Option.getD_some, hself]
    rfl

/-! ## Fields of types -/

theorem lookup_map_mk {α β : Type} [BEq α] [LawfulBEq α] (f : α → β) (keys : List α) (key : α) :
    (keys.map fun k => (k, f k)).lookup key = if keys.contains key then some (f key) else none := by
  induction keys with
  | nil => rfl
  | cons first rest ih =>
    rw [List.map_cons, List.lookup_cons, ih, List.contains_cons]
    by_cases h : key = first
    · simp [h]
    · have hne : (key == first) = false := by simpa using h
      rw [hne, Bool.false_or]

/-- What the last declaration of a class says of it or, for a class that is not declared, what the
library says. -/
def told (unit : CompilationUnit) (type : TypeName) : ClassInfo :=
  match unit.allClasses.reverse.find? (·.type == type) with
  | some cls => declaredInfo (knownNames unit.allClasses) cls
  | none => libraryInfo type

theorem entries_ofUnit (unit : CompilationUnit) :
    (ofUnit unit).entries =
      (knownNames unit.allClasses).map fun type => (type, told unit type) := by
  refine List.map_congr_left fun type _ => ?_
  unfold told
  cases unit.allClasses.reverse.find? (·.type == type) <;> rfl

theorem info_ofUnit (unit : CompilationUnit) (type : TypeName) :
    (ofUnit unit).info type =
      if (knownNames unit.allClasses).contains type then told unit type else ⟨[], []⟩ := by
  rw [info, entries_ofUnit, lookup_map_mk]
  split <;> rfl

/-- A class declares the fields that the table knows of its type. -/
theorem owner_of_mem_fields {unit : CompilationUnit} {type : TypeName} {f : FieldSymbol}
    (h : f ∈ ((ofUnit unit).info type).fields) :
    f.owner = type ∧ type ∈ (ofUnit unit).names := by
  rw [info_ofUnit] at h
  split at h
  · rename_i hknown
    rw [names_ofUnit]
    refine ⟨?_, List.contains_iff_mem.mp hknown⟩
    unfold told at h
    split at h
    · rename_i cls hfind
      obtain ⟨field, -, rfl⟩ := List.mem_map.mp h
      simpa using List.find?_some hfind
    · cases h
  · cases h

theorem ancestry_eq_cons (table : ClassTable) (type : TypeName) :
    ∃ above, table.ancestry type = type :: above := ⟨_, rfl⟩

/-- A field that some type has has the name that was asked for, and its class has it too. -/
theorem field_eq_some {unit : CompilationUnit} {owner : TypeName} {name : String} {f : FieldSymbol}
    (h : (ofUnit unit).field owner name = some f) :
    f.name = name ∧ f.owner ∈ (ofUnit unit).names ∧
      (ofUnit unit).field f.owner f.name = some f := by
  obtain ⟨type, -, hfind⟩ := List.exists_of_findSome?_eq_some h
  have hname : f.name = name := by simpa using List.find?_some hfind
  obtain ⟨howner, hknown⟩ := owner_of_mem_fields (List.mem_of_find?_eq_some hfind)
  refine ⟨hname, howner ▸ hknown, ?_⟩
  obtain ⟨above, habove⟩ := (ofUnit unit).ancestry_eq_cons type
  rw [howner, hname, field, habove, List.findSome?_cons, hfind]

end ClassTable

end LockDiscipline
