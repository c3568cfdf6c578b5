-- The rounds of the climb are enough: the ancestry of a type is all that links lead to from it. So
-- a type is below whatever its supertypes are below, as long as the type above all others names no
-- supertype of its own.
import LockDiscipline.Proofs.Supertypes
import Mathlib.Data.List.Basic

namespace LockDiscipline

open Relation (ReflTransGen TransGen)

namespace ClassTable

variable {table : ClassTable}

/-! ## The ancestry leaves nothing out -/

theorem mem_above_iff {seen types : List TypeName} {type : TypeName} :
    type ∈ table.above seen types ↔ (∃ sub ∈ types, table.Extends sub type) ∧ type ∉ seen := by
  unfold above Extends
  simp [List.mem_eraseDups]

/-- The known types that have not been seen. -/
def unseen (table : ClassTable) (seen : List TypeName) : List TypeName :=
  table.names.filter (!seen.contains ·)

theorem unseen_append (table : ClassTable) (seen types : List TypeName) :
    table.unseen (seen ++ types) = (table.unseen seen).filter (!types.contains ·) := by
  unfold unseen
  rw [List.filter_filter]
  apply List.filter_congr
  intro type _
  simp [Bool.and_comm]

theorem length_unseen_lt {seen types : List TypeName} {type : TypeName} (h : type ∈ types)
    (hknown : type ∈ table.names) (hnew : type ∉ seen) :
    (table.unseen (seen ++ types)).length < (table.unseen seen).length := by
  rw [unseen_append, List.length_filter_lt_length_iff_exists]
  refine ⟨type, ?_, by simp [h]⟩
  unfold unseen
  simp [hknown, hnew]

/-- What a round of the climb begins with: no link leads from the types that have been seen to any
but those and the types at hand, and the types at hand are new. -/
structure Frontier (table : ClassTable) (seen types : List TypeName) : Prop where
  closed : ∀ sub ∈ seen, ∀ sup, table.Extends sub sup → sup ∈ seen ++ types
  fresh : ∀ type ∈ types, type ∉ seen

theorem frontier_start (type : TypeName) : table.Frontier [] [type] := ⟨nofun, by simp⟩

theorem Frontier.step {seen types : List TypeName} (h : table.Frontier seen types) :
    table.Frontier (seen ++ types) (table.above (seen ++ types) types) := by
  constructor
  · intro sub hsub sup hextends
    by_cases hseen : sup ∈ seen ++ types
    · exact List.mem_append_left _ hseen
    · rcases List.mem_append.mp hsub with hsub | hsub
      · exact absurd (h.closed sub hsub sup hextends) hseen
      · exact List.mem_append_right _ (mem_above_iff.mpr ⟨⟨sub, hsub, hextends⟩, hseen⟩)
  · intro type htype
    exact (mem_above_iff.mp htype).2

/-- Links that stay in a list lead to nothing outside it. -/
theorem mem_of_closed {types : List TypeName}
    (h : ∀ sub ∈ types, ∀ sup, table.Extends sub sup → sup ∈ types) {start type : TypeName}
    (hstart : start ∈ types) (hreached : ReflTransGen table.Extends start type) : type ∈ types := by
  induction hreached with
  | refl => exact hstart
  | tail _ hextends hsub => exact h _ hsub _ hextends

/-- With more rounds left than there are known types to be seen, the climb reaches whatever links
lead to. -/
theorem Frontier.mem_of_reached {rounds : Nat} {seen types : List TypeName}
    (h : table.Frontier seen types) (hrounds : (table.unseen seen).length < rounds)
    {start type : TypeName} (hstart : start ∈ seen ++ types)
    (hreached : ReflTransGen table.Extends start type) :
    type ∈ seen ++ table.climb rounds seen types := by
  induction rounds generalizing seen types with
  | zero => omega
  | succ rounds ih =>
    rw [climb, ← List.append_assoc]
    by_cases hknown : ∃ sub ∈ types, sub ∈ table.names
    · obtain ⟨sub, hsub, hsubKnown⟩ := hknown
      have hfewer := length_unseen_lt hsub hsubKnown (h.fresh sub hsub)
      apply ih h.step
      · omega
      · exact List.mem_append_left _ hstart
    · -- No link leads away from a type that the table does not know, so this round is the last.
      have hclosed : ∀ sub ∈ seen ++ types, ∀ sup, table.Extends sub sup → sup ∈ seen ++ types := by
        intro sub hsub sup hextends
        rcases List.mem_append.mp hsub with hsub | hsub
        · exact h.closed sub hsub sup hextends
        · refine absurd hextends (not_extends_of_not_mem fun hname => ?_)
          exact hknown ⟨sub, hsub, hname⟩
      exact List.mem_append_left _ (mem_of_closed hclosed hstart hreached)

/-- The climb from a type has more rounds than there are known types. -/
theorem length_unseen_nil_lt (table : ClassTable) :
    (table.unseen []).length < table.entries.length + 1 := by
  have hle : (table.unseen []).length ≤ table.names.length := List.length_filter_le _ _
  rw [names, List.length_map] at hle
  omega

theorem mem_ancestry_iff {type sup : TypeName} :
    sup ∈ table.ancestry type ↔ ReflTransGen table.Extends type sup := by
  constructor
  · exact reached_of_mem_ancestry
  · intro h
    exact (frontier_start type).mem_of_reached table.length_unseen_nil_lt (by simp) h

/-! ## Being below is transitive -/

theorem isSubtype_iff {sub sup : TypeName} :
    table.isSubtype sub sup = true ↔ sup = .object ∨ ReflTransGen table.Extends sub sup := by
  unfold isSubtype
  rw [Bool.or_eq_true, Bool.or_eq_true, beq_iff_eq, beq_iff_eq, List.contains_iff_mem,
    mem_ancestry_iff]
  constructor
  · rintro ((rfl | htop) | hreached)
    · exact Or.inr .refl
    · exact Or.inl htop
    · exact Or.inr hreached
  · rintro (htop | hreached)
    · exact Or.inl (Or.inr htop)
    · exact Or.inr hreached

/-- The type above all others names no supertype. -/
def ObjectOnTop (table : ClassTable) : Prop := ∀ sup, ¬ table.Extends .object sup

theorem ObjectOnTop.isSubtype_trans (h : table.ObjectOnTop) {a b c : TypeName}
    (hab : table.isSubtype a b = true) (hbc : table.isSubtype b c = true) :
    table.isSubtype a c = true := by
  rw [isSubtype_iff] at hab hbc ⊢
  rcases hbc with htop | hbc
  · exact Or.inl htop
  · rcases hab with rfl | hab
    · rcases ReflTransGen.cases_head hbc with rfl | ⟨sup, hextends, -⟩
      · exact Or.inl rfl
      · exact absurd hextends (h sup)
    · exact Or.inr (hab.trans hbc)

/-- A type is below the class that declares a field of it. -/
theorem isSubtype_owner {unit : CompilationUnit} {type : TypeName} {name : String} {f : FieldSymbol}
    (h : (ofUnit unit).field type name = some f) :
    (ofUnit unit).isSubtype type f.owner = true := by
  obtain ⟨sup, hsup, hfind⟩ := List.exists_of_findSome?_eq_some h
  obtain ⟨howner, -⟩ := owner_of_mem_fields (List.mem_of_find?_eq_some hfind)
  rw [isSubtype_iff, howner]
  exact Or.inr (mem_ancestry_iff.mp hsup)

/-! ## No circles -/

/-- No way along links leads from a type back to it. -/
def NoCircle (table : ClassTable) : Prop := ∀ type, ¬ TransGen table.Extends type type

/-- If links alone make no circle, the type above all others makes none with them, for no link leads
on from it. -/
theorem ObjectOnTop.acyclic (h : table.ObjectOnTop) (hlinks : table.NoCircle) : table.Acyclic := by
  have hway : ∀ sub sup, TransGen table.DirectlyBelow sub sup →
      sub ≠ .object ∧ (sup = .object ∨ TransGen table.Extends sub sup) := by
    intro sub sup hway
    induction hway with
    | single hstep =>
      obtain ⟨hne, hextends | rfl⟩ := hstep
      · exact ⟨fun htop => h _ (htop ▸ hextends), Or.inr (.single hextends)⟩
      · exact ⟨hne, Or.inl rfl⟩
    | tail _ hstep ih =>
      obtain ⟨hsub, hmid⟩ := ih
      obtain ⟨hne, hextends | rfl⟩ := hstep
      · refine ⟨hsub, Or.inr ?_⟩
        rcases hmid with rfl | hmid
        · exact absurd hextends (h _)
        · exact hmid.tail hextends
      · exact ⟨hsub, Or.inl rfl⟩
  intro type hcircle
  obtain ⟨hne, htop | hlinked⟩ := hway type type hcircle
  · exact hne htop
  · exact hlinks type hlinked

/-- Links make no circle if each known type is higher than those that it names. -/
theorem noCircle_of_height (h : ∀ sub ∈ table.names, ∀ sup ∈ (table.info sub).supertypes,
    table.height sup < table.height sub) : table.NoCircle := by
  apply no_circle_of_rank table.height
  intro sub sup hextends
  by_cases hknown : sub ∈ table.names
  · exact h sub hknown sup hextends
  · exact absurd hextends (not_extends_of_not_mem hknown)

end ClassTable

namespace CompilationUnit

/-- No class of the unit takes the place of the type above all others. -/
def LeavesObject (unit : CompilationUnit) : Prop := ∀ cls ∈ unit.allClasses, cls.type ≠ .object

instance (unit : CompilationUnit) : Decidable unit.LeavesObject :=
  inferInstanceAs (Decidable (∀ cls ∈ unit.allClasses, cls.type ≠ .object))

theorem LeavesObject.objectOnTop {unit : CompilationUnit} (h : unit.LeavesObject) :
    (ClassTable.ofUnit unit).ObjectOnTop := by
  intro sup hextends
  have htold : ClassTable.told unit .object = ClassTable.libraryInfo .object := by
    have hnone : unit.allClasses.reverse.find? (·.type == .object) = none := by
      rw [List.find?_eq_none]
      intro cls hcls
      simpa using h cls (List.mem_reverse.mp hcls)
    rw [ClassTable.told, hnone]
  unfold ClassTable.Extends at hextends
  rw [ClassTable.info_ofUnit, htold] at hextends
  split at hextends <;> cases hextends

end CompilationUnit

end LockDiscipline
