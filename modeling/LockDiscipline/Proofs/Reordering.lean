-- What the classes of a unit say of each other is found by name, so it does not hang on the order
-- in which the unit lists them if no two classes have one name. A call is the exception: where
-- several declarations may be meant and none is most derived, the first one counts. If no class
-- names more than one supertype, the types above a type stand in a row, so one declaration is most
-- derived.
import LockDiscipline.Proofs.CallContracts
import Mathlib.Data.List.Perm.Basic

namespace LockDiscipline

open Relation (ReflTransGen)

/-! ## Lists in another order -/

theorem nodup_eraseDups {α : Type} [BEq α] [LawfulBEq α] (items : List α) :
    items.eraseDups.Nodup := by
  match items with
  | [] => exact List.nodup_nil
  | first :: rest =>
    rw [List.eraseDups_cons, List.nodup_cons, List.mem_eraseDups]
    exact ⟨by simp, nodup_eraseDups _⟩
termination_by items.length
decreasing_by exact Nat.lt_succ_of_le (List.length_filter_le _ _)

theorem perm_eraseDups {α : Type} [BEq α] [LawfulBEq α] {items more : List α}
    (h : items.Perm more) : items.eraseDups.Perm more.eraseDups := by
  rw [List.perm_ext_iff_of_nodup (nodup_eraseDups items) (nodup_eraseDups more)]
  intro item
  rw [List.mem_eraseDups, List.mem_eraseDups, h.mem_iff]

/-- A search in which at most one item has an answer finds the same in any order. -/
theorem findSome?_eq_of_perm {α β : Type} {answer : α → Option β} {items more : List α}
    (h : items.Perm more)
    (hone : ∀ a ∈ items, ∀ b ∈ items, ∀ x y, answer a = some x → answer b = some y → a = b) :
    items.findSome? answer = more.findSome? answer := by
  have hfound : ∀ list : List α, list ⊆ items → ∀ x,
      list.findSome? answer = some x ↔ ∃ a ∈ list, answer a = some x := by
    intro list hsub x
    refine ⟨List.exists_of_findSome?_eq_some, ?_⟩
    rintro ⟨a, ha, hx⟩
    have hsome : (list.findSome? answer).isSome = true := by
      rw [List.findSome?_isSome_iff]
      exact ⟨a, ha, by simp [hx]⟩
    obtain ⟨y, hy⟩ := Option.isSome_iff_exists.mp hsome
    obtain ⟨b, hb, hby⟩ := List.exists_of_findSome?_eq_some hy
    cases hone a (hsub ha) b (hsub hb) x y hx hby
    rw [hy, ← hby, hx]
  apply Option.ext
  intro x
  rw [hfound items (List.Subset.refl _), hfound more h.symm.subset]
  constructor
  · rintro ⟨a, ha, hx⟩
    exact ⟨a, h.mem_iff.mp ha, hx⟩
  · rintro ⟨a, ha, hx⟩
    exact ⟨a, h.mem_iff.mpr ha, hx⟩

/-- The item of a key is found in any order, if no two items have one key. -/
theorem find?_eq_of_perm {α κ : Type} [BEq κ] [LawfulBEq κ] {key : α → κ} {items more : List α}
    (h : items.Perm more) (hone : (items.map key).Nodup) (k : κ) :
    items.find? (key · == k) = more.find? (key · == k) := by
  rw [List.find?_eq_findSome?_guard, List.find?_eq_findSome?_guard]
  refine findSome?_eq_of_perm h ?_
  intro a ha b hb x y hx hy
  have hax : key a = k := by
    rw [Option.guard_eq_some_iff] at hx
    simpa using hx.2
  have hby : key b = k := by
    rw [Option.guard_eq_some_iff] at hy
    simpa using hy.2
  exact List.inj_on_of_nodup_map hone ha hb (hax.trans hby.symm)

/-! ## The classes of a unit -/

theorem preorderAll_eq_flatMap (classes : List ClassDecl) :
    ClassDecl.preorderAll classes = classes.flatMap ClassDecl.preorder := by
  induction classes with
  | nil => rfl
  | cons cls rest ih => rw [ClassDecl.preorderAll, ih, List.flatMap_cons]

theorem sitesAll_eq_flatMap (outer : List NestedClass) (classes : List ClassDecl) :
    ClassDecl.sitesAll outer classes = classes.flatMap (ClassDecl.sites outer) := by
  induction classes with
  | nil => rfl
  | cons cls rest ih => rw [ClassDecl.sitesAll, ih, List.flatMap_cons]

namespace CompilationUnit

/-- The units have the same path and source text, and the same classes in some order. -/
structure Reordered (unit other : CompilationUnit) : Prop where
  path : unit.path = other.path
  source : unit.source = other.source
  classes : unit.classes.Perm other.classes

variable {unit other : CompilationUnit}

namespace Reordered

theorem allClasses (h : unit.Reordered other) : unit.allClasses.Perm other.allClasses := by
  unfold CompilationUnit.allClasses
  rw [preorderAll_eq_flatMap, preorderAll_eq_flatMap]
  exact h.classes.flatMap_right _

theorem sites (h : unit.Reordered other) : unit.sites.Perm other.sites := by
  unfold CompilationUnit.sites
  rw [sitesAll_eq_flatMap, sitesAll_eq_flatMap]
  exact h.classes.flatMap_right _

theorem members (h : unit.Reordered other) : unit.members.Perm other.members :=
  h.sites.flatMap_right _

theorem leavesObject (h : unit.Reordered other) (hobject : unit.LeavesObject) :
    other.LeavesObject := fun cls hcls => hobject cls (h.allClasses.mem_iff.mpr hcls)

end Reordered

end CompilationUnit

/-! ## The table of types -/

namespace ClassTable

/-- Whether a name is that of one type only does not hang on an order. -/
theorem resolveAmong_eq_of_perm {known more : List TypeName} (h : known.Perm more)
    (written : String) : resolveAmong known written = resolveAmong more written := by
  have hcontains : known.contains ⟨written⟩ = more.contains ⟨written⟩ := by
    rw [Bool.eq_iff_iff, List.contains_iff_mem, List.contains_iff_mem, h.mem_iff]
  have hfilter := h.filter (·.simple == written)
  unfold resolveAmong
  rw [hcontains]
  split
  · rfl
  · cases hknown : known.filter (·.simple == written) with
    | nil =>
      rw [hknown] at hfilter
      rw [hfilter.symm.eq_nil]
    | cons first rest =>
      cases rest with
      | nil =>
        rw [hknown] at hfilter
        rw [List.singleton_perm.mp hfilter]
      | cons second rest =>
        rw [hknown] at hfilter
        have hlength := hfilter.length_eq
        cases hmore : more.filter (·.simple == written) with
        | nil => rfl
        | cons first' rest' =>
          cases rest' with
          | nil =>
            rw [hmore] at hlength
            cases hlength
          | cons _ _ => rfl

variable {unit other : CompilationUnit}

theorem knownNames_perm (h : unit.Reordered other) :
    (knownNames unit.allClasses).Perm (knownNames other.allClasses) :=
  perm_eraseDups ((h.allClasses.map ClassDecl.type).append_left _)

theorem declaredInfo_eq_of_perm {known more : List TypeName} (h : known.Perm more) :
    declaredInfo known = declaredInfo more := by
  have hwritten : writtenAmong known = writtenAmong more := by
    funext written
    rw [writtenAmong, writtenAmong, resolveAmong_eq_of_perm h]
  funext cls
  rw [declaredInfo, declaredInfo, hwritten]

theorem info_eq_of_reordered (h : unit.Reordered other) (hnames : unit.DistinctNames)
    (type : TypeName) : (ofUnit unit).info type = (ofUnit other).info type := by
  have hknown := knownNames_perm h
  have hcontains : (knownNames unit.allClasses).contains type =
      (knownNames other.allClasses).contains type := by
    rw [Bool.eq_iff_iff, List.contains_iff_mem, List.contains_iff_mem, hknown.mem_iff]
  have hreverse : unit.allClasses.reverse.Perm other.allClasses.reverse :=
    (List.reverse_perm _).trans (h.allClasses.trans (List.reverse_perm _).symm)
  have hone : (unit.allClasses.reverse.map ClassDecl.type).Nodup := by
    rw [List.map_reverse, List.nodup_reverse]
    exact CompilationUnit.nodup_types hnames
  have htold : told unit type = told other type := by
    unfold told
    rw [find?_eq_of_perm hreverse hone type, declaredInfo_eq_of_perm hknown]
  rw [info_ofUnit, info_ofUnit, hcontains, htold]

/-- The climb asks for nothing but the supertypes of types. -/
theorem climb_eq_of_info {table more : ClassTable} (h : ∀ type, table.info type = more.info type)
    (rounds : Nat) (seen types : List TypeName) :
    table.climb rounds seen types = more.climb rounds seen types := by
  have habove : ∀ seen types, table.above seen types = more.above seen types := by
    intro seen types
    simp only [above, h]
  induction rounds generalizing seen types with
  | zero => rfl
  | succ rounds ih => rw [climb, climb, habove, ih]

theorem lookup_eq_of_reordered (h : unit.Reordered other) (hnames : unit.DistinctNames) :
    (ofUnit unit).lookup = (ofUnit other).lookup := by
  have hinfo := info_eq_of_reordered h hnames
  have hlength : (ofUnit unit).entries.length = (ofUnit other).entries.length := by
    simp [entries_ofUnit, (knownNames_perm h).length_eq]
  have hancestry : (ofUnit unit).ancestry = (ofUnit other).ancestry := by
    funext type
    rw [ancestry, ancestry, hlength, climb_eq_of_info hinfo]
  have hresolve : (ofUnit unit).resolve = (ofUnit other).resolve := by
    funext written
    rw [resolve, resolve, names_ofUnit, names_ofUnit,
      resolveAmong_eq_of_perm (knownNames_perm h)]
  have hisSubtype : (ofUnit unit).isSubtype = (ofUnit other).isSubtype := by
    funext sub sup
    rw [isSubtype, isSubtype, hancestry]
  have hfield : (ofUnit unit).field = (ofUnit other).field := by
    funext owner name
    simp only [field, hancestry, hinfo]
  have hfieldNames : (ofUnit unit).fieldNames = (ofUnit other).fieldNames := by
    funext owner
    simp only [fieldNames, hancestry, hinfo]
  rw [lookup, lookup, hisSubtype, hresolve, hfield, hfieldNames]

theorem noCircle_of_reordered (h : unit.Reordered other) (hnames : unit.DistinctNames)
    (hlinks : (ofUnit unit).NoCircle) : (ofUnit other).NoCircle := by
  have hextends : (ofUnit other).Extends = (ofUnit unit).Extends := by
    funext sub sup
    rw [Extends, Extends, info_eq_of_reordered h hnames]
  unfold NoCircle
  rw [hextends]
  exact hlinks

end ClassTable

theorem CompilationUnit.Reordered.types {unit other : CompilationUnit} (h : unit.Reordered other)
    (hnames : unit.DistinctNames) : unit.types = other.types :=
  ClassTable.lookup_eq_of_reordered h hnames

/-! ## Single supertypes -/

namespace CompilationUnit

/-- No class of the unit names more than one supertype. -/
def SingleSupertypes (unit : CompilationUnit) : Prop :=
  ∀ cls ∈ unit.allClasses, cls.supertypes.length ≤ 1

instance (unit : CompilationUnit) : Decidable unit.SingleSupertypes :=
  inferInstanceAs (Decidable (∀ cls ∈ unit.allClasses, cls.supertypes.length ≤ 1))

variable {unit : CompilationUnit}

theorem SingleSupertypes.length_supertypes_le (h : unit.SingleSupertypes) (type : TypeName) :
    ((ClassTable.ofUnit unit).info type).supertypes.length ≤ 1 := by
  have hlibrary : ∀ entry ∈ ClassTable.libraryTypes, entry.2.length ≤ 1 := by decide
  rw [ClassTable.info_ofUnit]
  split
  · unfold ClassTable.told
    split
    · rename_i cls hfind
      have hcls := h cls (List.mem_reverse.mp (List.mem_of_find?_eq_some hfind))
      unfold ClassTable.declaredInfo
      split
      · exact Nat.le_refl 1
      · simpa using hcls
    · unfold ClassTable.libraryInfo
      cases hlookup : ClassTable.libraryTypes.lookup type with
      | none => exact Nat.zero_le 1
      | some above =>
        obtain ⟨before, behind, hsplit, -⟩ := List.lookup_eq_some_iff.mp hlookup
        exact hlibrary (type, above) (by simp [hsplit])
  · exact Nat.zero_le 1

/-- A type names one supertype at most, so there is one way up only. -/
theorem SingleSupertypes.rightUnique (h : unit.SingleSupertypes) :
    Relator.RightUnique (ClassTable.ofUnit unit).Extends := by
  intro sub sup other hsup hother
  have hlength := h.length_supertypes_le sub
  unfold ClassTable.Extends at hsup hother
  cases hlist : ((ClassTable.ofUnit unit).info sub).supertypes with
  | nil =>
    rw [hlist] at hsup
    cases hsup
  | cons first rest =>
    rw [hlist] at hsup hother hlength
    have hrest : rest = [] := List.eq_nil_of_length_eq_zero (by simpa using hlength)
    rw [hrest, List.mem_singleton] at hsup hother
    rw [hsup, hother]

/-- Of two types above a type one is above the other. -/
theorem SingleSupertypes.isSubtype_total (h : unit.SingleSupertypes) {type a b : TypeName}
    (ha : unit.types.isSubtype type a = true) (hb : unit.types.isSubtype type b = true) :
    unit.types.isSubtype a b = true ∨ unit.types.isSubtype b a = true := by
  have ha : (ClassTable.ofUnit unit).isSubtype type a = true := ha
  have hb : (ClassTable.ofUnit unit).isSubtype type b = true := hb
  change (ClassTable.ofUnit unit).isSubtype a b = true ∨
    (ClassTable.ofUnit unit).isSubtype b a = true
  rw [ClassTable.isSubtype_iff] at ha hb ⊢
  rw [ClassTable.isSubtype_iff]
  rcases ha with htop | ha
  · exact Or.inr (Or.inl htop)
  · rcases hb with htop | hb
    · exact Or.inl (Or.inl htop)
    · rcases ReflTransGen.total_of_right_unique h.rightUnique ha hb with hab | hba
      · exact Or.inl (Or.inr hab)
      · exact Or.inr (Or.inr hba)

/-- Of declarations above one type, one is at or below all others. -/
theorem SingleSupertypes.exists_mostDerived (h : unit.SingleSupertypes)
    (hobject : unit.LeavesObject) {type : TypeName} {among : List Member} (hne : among ≠ [])
    (habove : ∀ member ∈ among, unit.types.isSubtype type member.owner = true) :
    ∃ member ∈ among, member.MostDerived unit.types among := by
  induction among with
  | nil => exact absurd rfl hne
  | cons first rest ih =>
    have hself : unit.types.isSubtype first.owner first.owner = true :=
      ClassTable.isSubtype_refl _ _
    by_cases hrest : rest = []
    · refine ⟨first, List.mem_cons_self, ?_⟩
      intro other hother
      rw [hrest, List.mem_singleton] at hother
      rw [hother]
      exact hself
    · obtain ⟨least, hleast, hmost⟩ :=
        ih hrest fun member hmember => habove member (List.mem_cons_of_mem _ hmember)
      rcases h.isSubtype_total (habove first List.mem_cons_self)
        (habove least (List.mem_cons_of_mem _ hleast)) with hbelow | hbelow
      · refine ⟨first, List.mem_cons_self, ?_⟩
        intro other hother
        rcases List.mem_cons.mp hother with rfl | hother
        · exact hself
        · exact hobject.objectOnTop.isSubtype_trans hbelow (hmost other hother)
      · refine ⟨least, List.mem_cons_of_mem _ hleast, ?_⟩
        intro other hother
        rcases List.mem_cons.mp hother with rfl | hother
        · exact hbelow
        · exact hmost other hother

end CompilationUnit

end LockDiscipline
