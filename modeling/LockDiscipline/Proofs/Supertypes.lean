-- Every type that the table counts above a type is reached from it by links from a type to one that
-- it names as its supertype. So where the links never lead back, no two types are below each other.
import LockDiscipline.Proofs.TypeTable
import Mathlib.Logic.Relation

namespace LockDiscipline

open Relation (ReflTransGen TransGen)

namespace ClassTable

variable (table : ClassTable)

/-! ## Links -/

/-- One type names the other as a type directly above it. -/
def Extends (sub sup : TypeName) : Prop := sup ∈ (table.info sub).supertypes

variable {table}

theorem exists_extends_of_mem_above {seen types : List TypeName} {type : TypeName}
    (h : type ∈ table.above seen types) : ∃ sub ∈ types, table.Extends sub type := by
  have hnext := (List.mem_filter.mp h).1
  rw [List.mem_eraseDups] at hnext
  exact List.mem_flatMap.mp hnext

theorem reached_of_mem_climb {rounds : Nat} {seen types : List TypeName} {type : TypeName}
    (h : type ∈ table.climb rounds seen types) :
    ∃ start ∈ types, ReflTransGen table.Extends start type := by
  induction rounds generalizing seen types with
  | zero => cases h
  | succ rounds ih =>
    rcases List.mem_append.mp h with h | h
    · exact ⟨type, h, .refl⟩
    · obtain ⟨sup, hsup, hreached⟩ := ih h
      obtain ⟨sub, hsub, hextends⟩ := exists_extends_of_mem_above hsup
      exact ⟨sub, hsub, .head hextends hreached⟩

/-- Whatever stands in the ancestry of a type is reached from the type by links. -/
theorem reached_of_mem_ancestry {type sup : TypeName} (h : sup ∈ table.ancestry type) :
    ReflTransGen table.Extends type sup := by
  obtain ⟨start, hstart, hreached⟩ := reached_of_mem_climb h
  cases List.mem_singleton.mp hstart
  exact hreached

/-! ## No way back -/

variable (table)

/-- One type is directly below another: it names the other, or the other is the type above all. -/
def DirectlyBelow (sub sup : TypeName) : Prop := sub ≠ sup ∧ (table.Extends sub sup ∨ sup = .object)

/-- No way up leads from a type back to it. A type that names itself as its supertype says nothing
by that; but a type that the type above all others names makes a circle with it. -/
def Acyclic : Prop := ∀ type, ¬ TransGen table.DirectlyBelow type type

variable {table}

/-- If each step goes to a smaller rank, no way leads back. -/
theorem no_circle_of_rank {R : TypeName → TypeName → Prop} (rank : TypeName → Nat)
    (h : ∀ sub sup, R sub sup → rank sup < rank sub) (type : TypeName) : ¬ TransGen R type type := by
  have hway : ∀ sub sup, TransGen R sub sup → rank sup < rank sub := by
    intro sub sup hway
    induction hway with
    | single hstep => exact h _ _ hstep
    | tail _ hstep ih => exact Nat.lt_trans (h _ _ hstep) ih
  intro hcircle
  exact Nat.lt_irrefl _ (hway type type hcircle)

theorem eq_or_below_of_reached {sub sup : TypeName} (h : ReflTransGen table.Extends sub sup) :
    sub = sup ∨ TransGen table.DirectlyBelow sub sup := by
  induction h with
  | refl => exact Or.inl rfl
  | @tail mid sup _ hextends ih =>
    by_cases hsame : mid = sup
    · exact hsame ▸ ih
    · have hstep : table.DirectlyBelow mid sup := ⟨hsame, Or.inl hextends⟩
      rcases ih with rfl | hbelow
      · exact Or.inr (.single hstep)
      · exact Or.inr (.tail hbelow hstep)

/-- A type that is below another one, and is not that type, is some steps below it. -/
theorem below_of_isSubtype {sub sup : TypeName} (h : table.isSubtype sub sup = true)
    (hne : sub ≠ sup) : TransGen table.DirectlyBelow sub sup := by
  unfold isSubtype at h
  rw [Bool.or_eq_true, Bool.or_eq_true, beq_iff_eq, beq_iff_eq, List.contains_iff_mem] at h
  rcases h with (hsame | htop) | hmem
  · exact absurd hsame hne
  · exact .single ⟨hne, Or.inr htop⟩
  · exact (eq_or_below_of_reached (reached_of_mem_ancestry hmem)).resolve_left hne

theorem Acyclic.isSubtype_antisymm (h : table.Acyclic) {a b : TypeName}
    (hab : table.isSubtype a b = true) (hba : table.isSubtype b a = true) : a = b := by
  by_contra hne
  exact h a ((below_of_isSubtype hab hne).trans (below_of_isSubtype hba (Ne.symm hne)))

/-- A type that the table does not know names no other. -/
theorem not_extends_of_not_mem {sub sup : TypeName} (h : sub ∉ table.names) :
    ¬ table.Extends sub sup := by
  have hnone : table.entries.lookup sub = none := by
    rw [List.lookup_eq_none_iff]
    intro entry hentry
    have hne : sub ≠ entry.1 := fun heq => h (heq ▸ List.mem_map_of_mem hentry)
    simpa using hne
  rw [Extends, info, hnone]
  exact List.not_mem_nil

variable (table)

/-- How many types there are from a type on up, the type above all others not counted. -/
def height (type : TypeName) : Nat := if type = .object then 0 else (table.ancestry type).length

variable {table}

/-- No way up leads back if each known type is higher than those that it names. -/
theorem acyclic_of_height (h : ∀ sub ∈ table.names, ∀ sup ∈ (table.info sub).supertypes,
    sub ≠ sup → table.height sup < table.height sub) : table.Acyclic := by
  refine no_circle_of_rank table.height fun sub sup hstep => ?_
  obtain ⟨hne, hextends | rfl⟩ := hstep
  · by_cases hknown : sub ∈ table.names
    · exact h sub hknown sup hextends hne
    · exact absurd hextends (not_extends_of_not_mem hknown)
  · obtain ⟨above, habove⟩ := table.ancestry_eq_cons sub
    rw [height, height, if_pos rfl, if_neg hne, habove]
    exact Nat.succ_pos _

end ClassTable

end LockDiscipline
