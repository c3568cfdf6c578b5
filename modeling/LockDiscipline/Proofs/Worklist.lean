-- The types above a type can also be listed from a queue. A type of the queue that is listed
-- already is passed over; any other is listed, and what it names goes to the end of the queue.
-- However the links run, the queue is worked off at some time, and then the ancestry of the type is
-- listed, in its order.
import LockDiscipline.Proofs.Subtyping
import Mathlib.Algebra.GroupWithZero.Nat

namespace LockDiscipline

open Relation (ReflTransGen)

/-! ## Lists without repetitions -/

theorem eraseDups_filter {α : Type} [BEq α] [LawfulBEq α] (p : α → Bool) (items : List α) :
    (items.filter p).eraseDups = items.eraseDups.filter p := by
  match items with
  | [] => rfl
  | first :: rest =>
    have hrest : (rest.filter (!· == first)).eraseDups.filter p =
        ((rest.filter p).filter (!· == first)).eraseDups := by
      rw [← eraseDups_filter p (rest.filter (!· == first)), List.filter_filter, List.filter_filter]
      simp only [Bool.and_comm]
    rw [List.eraseDups_cons, List.filter_cons, List.filter_cons]
    split
    · rw [List.eraseDups_cons, hrest]
    · rename_i hfirst
      have hkept : (rest.filter p).filter (!· == first) = rest.filter p := by
        rw [List.filter_eq_self]
        intro item hitem
        have hp := (List.mem_filter.mp hitem).2
        simp only [Bool.not_eq_true', beq_eq_false_iff_ne]
        rintro rfl
        exact hfirst hp
      rw [hrest, hkept]
termination_by items.length
decreasing_by exact Nat.lt_succ_of_le (List.length_filter_le _ _)

namespace ClassTable

/-! ## Working off a queue -/

/-- How many links lead away from the known types that are not listed yet. -/
def linksLeft (table : ClassTable) (listed : List TypeName) : Nat :=
  ((table.unseen listed).map fun type => (table.info type).supertypes.length).sum

variable {table : ClassTable}

theorem sum_filter_ne_add (f : TypeName → Nat) (types : List TypeName) (type : TypeName) :
    ((types.filter (· != type)).map f).sum + types.count type * f type = (types.map f).sum := by
  induction types with
  | nil => simp
  | cons first rest ih =>
    by_cases hfirst : first = type
    · rw [List.filter_cons_of_neg (by simpa using hfirst), hfirst, List.count_cons_self,
        List.map_cons, List.sum_cons, Nat.add_mul]
      omega
    · rw [List.filter_cons_of_pos (by simpa using hfirst), List.count_cons_of_ne hfirst,
        List.map_cons, List.map_cons, List.sum_cons, List.sum_cons]
      omega

/-- A type that is listed takes its links with it. -/
theorem linksLeft_append_le {listed : List TypeName} {type : TypeName} (h : type ∉ listed) :
    table.linksLeft (listed ++ [type]) + (table.info type).supertypes.length ≤
      table.linksLeft listed := by
  have hless : table.unseen (listed ++ [type]) = (table.unseen listed).filter (· != type) := by
    rw [unseen_append]
    apply List.filter_congr
    intro other _
    simp [bne, Bool.beq_eq_decide_eq]
  unfold linksLeft
  rw [hless, ← sum_filter_ne_add _ (table.unseen listed) type]
  by_cases hknown : type ∈ table.names
  · have hunseen : type ∈ table.unseen listed := by
      unfold unseen
      simp [hknown, h]
    have hlinks := Nat.le_mul_of_pos_left (table.info type).supertypes.length
      (List.count_pos_iff.mpr hunseen)
    omega
  · have hnone : (table.info type).supertypes = [] :=
      List.eq_nil_iff_forall_not_mem.mpr fun sup => not_extends_of_not_mem hknown
    rw [hnone]
    simp

variable (table) in
/-- The types that are listed when a queue of types has been worked off. Every turn takes a type out
of the queue, and puts only links into it that are then left no more. -/
def workOff (listed : List TypeName) : List TypeName → List TypeName
  | [] => listed
  | type :: rest =>
    if type ∈ listed then workOff listed rest
    else workOff (listed ++ [type]) (rest ++ (table.info type).supertypes)
termination_by queue => table.linksLeft listed + queue.length
decreasing_by
  · simp
  · rename_i hnew
    have := table.linksLeft_append_le hnew
    simp only [List.length_append, List.length_cons]
    omega

/-- No type is listed twice. -/
theorem nodup_workOff {listed : List TypeName} (queue : List TypeName) (h : listed.Nodup) :
    (table.workOff listed queue).Nodup := by
  induction listed, queue using ClassTable.workOff.induct table with
  | case1 listed =>
    rw [workOff]
    exact h
  | case2 listed type rest hlisted ih =>
    rw [workOff, if_pos hlisted]
    exact ih h
  | case3 listed type rest hnew ih =>
    rw [workOff, if_neg hnew]
    apply ih
    rw [List.nodup_append]
    refine ⟨h, by simp, ?_⟩
    rintro other hother _ hlast rfl
    exact hnew (List.mem_singleton.mp hlast ▸ hother)

/-! ## Round by round -/

/-- The types of a queue that are not listed, each once. -/
def fresh (listed queue : List TypeName) : List TypeName :=
  queue.eraseDups.filter (!listed.contains ·)

theorem fresh_cons_of_mem {listed rest : List TypeName} {type : TypeName} (h : type ∈ listed) :
    fresh listed (type :: rest) = fresh listed rest := by
  unfold fresh
  rw [List.eraseDups_cons, List.filter_cons_of_neg (by simp [h]), eraseDups_filter,
    List.filter_filter]
  apply List.filter_congr
  intro other _
  rw [Bool.and_eq_left_iff_imp]
  simp only [Bool.not_eq_true', beq_eq_false_iff_ne]
  rintro hother rfl
  simp [h] at hother

theorem fresh_cons_of_not_mem {listed rest : List TypeName} {type : TypeName} (h : type ∉ listed) :
    fresh listed (type :: rest) = type :: fresh (listed ++ [type]) rest := by
  unfold fresh
  rw [List.eraseDups_cons, List.filter_cons_of_pos (by simp [h]), eraseDups_filter,
    List.filter_filter]
  congr 1
  apply List.filter_congr
  intro other _
  simp [Bool.beq_eq_decide_eq]

/-- When the types in front of a queue are worked off, those of them that were not listed are, and
what these name is at the end of the queue. -/
theorem workOff_append (listed queue later : List TypeName) :
    table.workOff listed (queue ++ later) =
      table.workOff (listed ++ fresh listed queue)
        (later ++ (fresh listed queue).flatMap fun type => (table.info type).supertypes) := by
  induction queue generalizing listed later with
  | nil => simp [fresh]
  | cons type rest ih =>
    rw [List.cons_append, workOff]
    by_cases h : type ∈ listed
    · rw [if_pos h, ih, fresh_cons_of_mem h]
    · rw [if_neg h, List.append_assoc, ih, fresh_cons_of_not_mem h, List.flatMap_cons]
      simp only [List.append_assoc, List.singleton_append]

/-! ## The ancestry -/

theorem above_eq_fresh (seen types : List TypeName) :
    table.above seen types =
      fresh seen (types.flatMap fun type => (table.info type).supertypes) := rfl

theorem climb_nil (rounds : Nat) (seen : List TypeName) : table.climb rounds seen [] = [] := by
  induction rounds generalizing seen with
  | zero => rfl
  | succ rounds ih => exact ih (seen ++ [])

/-- Where a round of the climb begins, the queue holds what the types at hand name. With more rounds
left than there are known types to be seen, the climb lists what the queue does. -/
theorem Frontier.workOff_eq {rounds : Nat} {seen types : List TypeName}
    (h : table.Frontier seen types) (hrounds : (table.unseen seen).length < rounds) :
    table.workOff (seen ++ types) (types.flatMap fun type => (table.info type).supertypes) =
      seen ++ table.climb rounds seen types := by
  induction rounds generalizing seen types with
  | zero => omega
  | succ rounds ih =>
    by_cases hknown : ∃ sub ∈ types, sub ∈ table.names
    · obtain ⟨sub, hsub, hsubKnown⟩ := hknown
      have hfewer := length_unseen_lt hsub hsubKnown (h.fresh sub hsub)
      have hround := table.workOff_append (seen ++ types)
        (types.flatMap fun type => (table.info type).supertypes) []
      rw [List.append_nil, List.nil_append, ← above_eq_fresh] at hround
      rw [hround, ih h.step (by omega), climb, List.append_assoc]
    · -- No link leads away from a type that the table does not know, so the queue is empty.
      have hnone : (types.flatMap fun type => (table.info type).supertypes) = [] := by
        rw [List.flatMap_eq_nil_iff]
        intro type htype
        refine List.eq_nil_iff_forall_not_mem.mpr fun sup => not_extends_of_not_mem fun hname => ?_
        exact hknown ⟨type, htype, hname⟩
      have hlast : table.above (seen ++ types) types = [] := by
        rw [above_eq_fresh, hnone]
        rfl
      rw [climb, hlast, climb_nil, hnone, workOff, List.append_nil]

/-- The queue that begins with a type lists the ancestry of the type. -/
theorem workOff_eq_ancestry (table : ClassTable) (type : TypeName) :
    table.workOff [] [type] = table.ancestry type := by
  have hfirst : table.workOff [] [type] =
      table.workOff [type] ([type].flatMap fun type => (table.info type).supertypes) := by
    rw [workOff, if_neg List.not_mem_nil]
    simp
  rw [hfirst]
  have hrounds : (table.unseen []).length < table.entries.length + 1 := table.length_unseen_nil_lt
  exact (frontier_start type).workOff_eq hrounds

theorem nodup_ancestry (table : ClassTable) (type : TypeName) : (table.ancestry type).Nodup := by
  rw [← workOff_eq_ancestry]
  exact nodup_workOff [type] List.nodup_nil

end ClassTable

namespace CompilationUnit

/-- Whatever the classes of a unit name, circles, types that nothing declares and the same type
twice included, the queue that begins with a type is worked off, and lists each type that links lead
to from there, once. One type is below another exactly if links lead from it to the other, or the
other is the type above all; every type is below itself, and a type is below whatever its supertypes
are below if no class takes the place of the type above all. -/
theorem being_below_is_being_reached_by_links (unit : CompilationUnit) :
    let table := ClassTable.ofUnit unit
    (∀ type, table.ancestry type = table.workOff [] [type] ∧ (table.ancestry type).Nodup ∧
        ∀ sup, sup ∈ table.ancestry type ↔ ReflTransGen table.Extends type sup) ∧
      (∀ sub sup, table.isSubtype sub sup = true ↔
        sup = .object ∨ ReflTransGen table.Extends sub sup) ∧
      (∀ type, table.isSubtype type type = true) ∧
      (unit.LeavesObject → ∀ a b c, table.isSubtype a b = true → table.isSubtype b c = true →
        table.isSubtype a c = true) := by
  intro table
  refine ⟨fun type => ?_, fun sub sup => ClassTable.isSubtype_iff, fun type => ?_,
    fun h a b c => ?_⟩
  · exact ⟨(table.workOff_eq_ancestry type).symm, table.nodup_ancestry type,
      fun sup => ClassTable.mem_ancestry_iff⟩
  · exact ClassTable.isSubtype_iff.mpr (Or.inr .refl)
  · exact h.objectOnTop.isSubtype_trans

end CompilationUnit

/-! ## Links that lead back

Two classes that name each other, one of them twice and with a type that nothing declares, and a
class below them. -/

namespace Circle

def cls (name : String) (supertypes : List String) : ClassDecl :=
  .mk name supertypes false [] [] [] [] .unknown

def unit : CompilationUnit :=
  ⟨none, none, [cls "Left" ["Right", "Unknown", "Right"], cls "Right" ["Left"], cls "Low" ["Left"]]⟩

theorem low_is_below_right_by_way_of_left :
    let table := ClassTable.ofUnit unit
    unit.LeavesObject ∧ table.isSubtype ⟨"Low"⟩ ⟨"Left"⟩ = true ∧
      table.isSubtype ⟨"Left"⟩ ⟨"Right"⟩ = true ∧ table.isSubtype ⟨"Low"⟩ ⟨"Right"⟩ = true ∧
      table.workOff [] [⟨"Low"⟩] = [⟨"Low"⟩, ⟨"Left"⟩, ⟨"Right"⟩, ⟨"Unknown"⟩] := by
  intro table
  have hleaves : unit.LeavesObject := by decide
  have hlow : table.isSubtype ⟨"Low"⟩ ⟨"Left"⟩ = true := by decide +kernel
  have hleft : table.isSubtype ⟨"Left"⟩ ⟨"Right"⟩ = true := by decide +kernel
  have hlisted : table.ancestry ⟨"Low"⟩ = [⟨"Low"⟩, ⟨"Left"⟩, ⟨"Right"⟩, ⟨"Unknown"⟩] := by
    decide +kernel
  obtain ⟨hancestry, -, -, htrans⟩ := unit.being_below_is_being_reached_by_links
  exact ⟨hleaves, hlow, hleft, htrans hleaves _ _ _ hlow hleft,
    (hancestry ⟨"Low"⟩).1.symm.trans hlisted⟩

end Circle

end LockDiscipline
