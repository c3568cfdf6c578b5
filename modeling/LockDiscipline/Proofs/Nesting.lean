-- The classes around a class are classes of the unit, and each has its own place in it. So two
-- classes of different names agree on the classes around them only as far as one holds the other.
import LockDiscipline.Proofs.CanonicalForms
import LockDiscipline.Proofs.Members
import Mathlib.Data.List.Nodup

namespace LockDiscipline

/-! ## Frames and nestings -/

namespace Scope

theorem map_name_framesFrom (reachable : Bool) (classes : List NestedClass) :
    (framesFrom reachable classes).map (·.name) = classes.map (·.name) := by
  induction classes generalizing reachable with
  | nil => rfl
  | cons cls outer ih => rw [framesFrom, List.map_cons, List.map_cons, ih]

/-- The frames are the classes of the nesting from the inside out, whether static or not. -/
theorem classAt_eq (scope : Scope) (level : Nat) :
    scope.classAt level = (scope.nesting.reverse.map (·.name))[level]? := by
  rw [classAt, ← List.getElem?_map, frames, map_name_framesFrom]

end Scope

/-! ## The classes around a class -/

mutual

theorem nesting_sublist {outer : List NestedClass} {cls : ClassDecl} {site : ClassSite}
    (h : site ∈ cls.sites outer) :
    (site.nesting.map (·.name)).Sublist (outer.map (·.name) ++ cls.preorder.map (·.type)) := by
  cases cls with
  | mk name supertypes isStatic fields methods initializers nested span =>
    rw [ClassDecl.sites, List.mem_cons] at h
    rw [ClassDecl.preorder, List.map_cons]
    rcases h with rfl | h
    · rw [List.map_append]
      exact List.Sublist.append_left (List.Sublist.cons_cons _ (List.nil_sublist _)) _
    · have hinner := nesting_sublist_of_mem_sitesAll h
      rw [List.map_append, List.append_assoc] at hinner
      exact hinner

theorem nesting_sublist_of_mem_sitesAll {outer : List NestedClass} {classes : List ClassDecl}
    {site : ClassSite} (h : site ∈ ClassDecl.sitesAll outer classes) :
    (site.nesting.map (·.name)).Sublist
      (outer.map (·.name) ++ (ClassDecl.preorderAll classes).map (·.type)) := by
  cases classes with
  | nil => cases h
  | cons cls rest =>
    rw [ClassDecl.sitesAll, List.mem_append] at h
    rw [ClassDecl.preorderAll, List.map_append]
    rcases h with h | h
    · exact (nesting_sublist h).trans (List.Sublist.append_left (List.sublist_append_left _ _) _)
    · exact (nesting_sublist_of_mem_sitesAll h).trans
        (List.Sublist.append_left (List.sublist_append_right _ _) _)

end

namespace ClassSite

theorem classAt_scope (site : ClassSite) (memberIsStatic : Bool) (level : Nat) :
    (site.scope memberIsStatic).classAt level = (site.nesting.reverse.map (·.name))[level]? :=
  Scope.classAt_eq ..

/-- A place lies inside some classes, and each class around it that is not one of these has a place
in a list. -/
def Inside (outer : List NestedClass) (places : List ClassSite) (site : ClassSite) : Prop :=
  outer <+: site.nesting ∧
    ∀ around, around <+: site.nesting → outer.length < around.length →
      ∃ place ∈ places, place.nesting = around

theorem Inside.mono {outer : List NestedClass} {places more : List ClassSite} {site : ClassSite}
    (h : site.Inside outer places) (hsub : places ⊆ more) : site.Inside outer more := by
  refine ⟨h.1, fun around haround hlength => ?_⟩
  obtain ⟨place, hplace, hnesting⟩ := h.2 around haround hlength
  exact ⟨place, hsub hplace, hnesting⟩

/-- What lies inside a class lies inside the classes around it, for the class has a place. -/
theorem Inside.out {outer : List NestedClass} {cls : NestedClass} {places : List ClassSite}
    {site own : ClassSite} (h : site.Inside (outer ++ [cls]) places)
    (hown : own.nesting = outer ++ [cls]) : site.Inside outer (own :: places) := by
  refine ⟨(List.prefix_append outer [cls]).trans h.1, fun around haround hlength => ?_⟩
  by_cases hinner : (outer ++ [cls]).length < around.length
  · obtain ⟨place, hplace, hnesting⟩ := h.2 around haround hinner
    exact ⟨place, List.mem_cons_of_mem _ hplace, hnesting⟩
  · refine ⟨own, List.mem_cons_self, hown.trans ?_⟩
    have hle : around.length ≤ (outer ++ [cls]).length := Nat.not_lt.mp hinner
    have hinitial : around <+: outer ++ [cls] := List.prefix_of_prefix_length_le haround h.1 hle
    refine (hinitial.eq_of_length ?_).symm
    rw [List.length_append, List.length_singleton] at hle ⊢
    omega

end ClassSite

mutual

theorem inside_of_mem_sites {outer : List NestedClass} {cls : ClassDecl} {site : ClassSite}
    (h : site ∈ cls.sites outer) : site.Inside outer (cls.sites outer) := by
  cases cls with
  | mk name supertypes isStatic fields methods initializers nested span =>
    rw [ClassDecl.sites, List.mem_cons] at h
    rw [ClassDecl.sites]
    rcases h with rfl | h
    · refine ⟨List.prefix_append .., fun around haround hlength => ?_⟩
      refine ⟨_, List.mem_cons_self, (haround.eq_of_length ?_).symm⟩
      have hle := haround.length_le
      rw [List.length_append, List.length_singleton] at hle ⊢
      omega
    · exact (inside_of_mem_sitesAll h).out rfl

theorem inside_of_mem_sitesAll {outer : List NestedClass} {classes : List ClassDecl}
    {site : ClassSite} (h : site ∈ ClassDecl.sitesAll outer classes) :
    site.Inside outer (ClassDecl.sitesAll outer classes) := by
  cases classes with
  | nil => cases h
  | cons cls rest =>
    rw [ClassDecl.sitesAll, List.mem_append] at h
    rw [ClassDecl.sitesAll]
    rcases h with h | h
    · exact (inside_of_mem_sites h).mono (List.subset_append_left _ _)
    · exact (inside_of_mem_sitesAll h).mono (List.subset_append_right _ _)

end

namespace CompilationUnit

variable {unit : CompilationUnit}

/-- Every class around a class of a unit is a class of the unit. -/
theorem mem_allClasses_of_around {site : ClassSite} (hsite : site ∈ unit.sites) {level : Nat}
    {type : TypeName} (h : Scope.classAt (site.scope false) level = some type) :
    ∃ cls ∈ unit.allClasses, cls.type = type := by
  have hsub : (site.nesting.map (·.name)).Sublist (unit.allClasses.map (·.type)) :=
    nesting_sublist_of_mem_sitesAll hsite
  rw [Scope.classAt_eq] at h
  have hmem := List.mem_of_getElem? h
  rw [List.map_reverse, List.mem_reverse] at hmem
  exact List.mem_map.mp (hsub.subset hmem)

theorem nodup_types (h : unit.DistinctNames) : (unit.allClasses.map (·.type)).Nodup := by
  have hmap : unit.allClasses.map (·.name) = (unit.allClasses.map (·.type)).map (·.text) := by
    rw [List.map_map]
    rfl
  rw [DistinctNames, hmap] at h
  exact h.of_map _

/-- No class is around itself. -/
theorem nodup_nesting (h : unit.DistinctNames) {site : ClassSite} (hsite : site ∈ unit.sites) :
    (site.nesting.map (·.name)).Nodup :=
  (nodup_types h).sublist (nesting_sublist_of_mem_sitesAll hsite)

/-- A class has one place. -/
theorem eq_of_type_eq (h : unit.DistinctNames) {site other : ClassSite} (hsite : site ∈ unit.sites)
    (hother : other ∈ unit.sites) (htype : site.cls.type = other.cls.type) : site = other := by
  refine List.inj_on_of_nodup_map (f := fun s : ClassSite => s.cls.type) ?_ hsite hother htype
  have hmap := congrArg (List.map ClassDecl.type) unit.map_cls_sites
  rw [List.map_map] at hmap
  exact hmap ▸ nodup_types h

/-- From the frame of a class on, the frames around a member are those of the class. -/
theorem classAt_add (h : unit.DistinctNames) {site home : ClassSite} (hsite : site ∈ unit.sites)
    (hhome : home ∈ unit.sites) {static homeStatic : Bool} {out : Nat}
    (hclass : (site.scope static).classAt out = some home.cls.type) (level : Nat) :
    (site.scope static).classAt (out + level) = (home.scope homeStatic).classAt level := by
  rw [ClassSite.classAt_scope, List.getElem?_map, Option.map_eq_some_iff] at hclass
  obtain ⟨cls, hcls, hname⟩ := hclass
  obtain ⟨inner, outer, hsplit, hlength⟩ :
      ∃ inner outer, site.nesting.reverse = inner ++ cls :: outer ∧ inner.length = out := by
    obtain ⟨hlt, rfl⟩ := List.getElem?_eq_some_iff.mp hcls
    refine ⟨site.nesting.reverse.take out, site.nesting.reverse.drop (out + 1), ?_, ?_⟩
    · rw [← List.drop_eq_getElem_cons hlt, List.take_append_drop]
    · rw [List.length_take]
      exact Nat.min_eq_left (Nat.le_of_lt hlt)
  have hnesting : site.nesting = outer.reverse ++ [cls] ++ inner.reverse := by
    rw [← List.reverse_reverse site.nesting, hsplit]
    simp
  -- The classes around that frame and its own are the nesting of a place, which is that of `home`.
  obtain ⟨place, hplace, hown⟩ := (inside_of_mem_sitesAll hsite).2 (outer.reverse ++ [cls])
    (hnesting ▸ List.prefix_append _ _) (by simp)
  obtain ⟨around, hinnermost⟩ := innermost_of_mem hplace
  have htype : place.cls.type = home.cls.type := by
    obtain ⟨-, hlast⟩ := List.append_inj' (hown.symm.trans hinnermost) rfl
    cases hlast
    exact hname
  have hhomeNesting : home.nesting.reverse = cls :: outer := by
    rw [← eq_of_type_eq h hplace hhome htype, hown]
    simp
  rw [ClassSite.classAt_scope, ClassSite.classAt_scope, hsplit, hhomeNesting, List.map_append,
    List.getElem?_append_right (by simp [hlength]), List.length_map, hlength,
    Nat.add_sub_cancel_left]

end CompilationUnit

/-! ## A unit to look at

The class `Inner` stands in `Outer` and guards its field `x` by the lock of `Outer`. The class `Deep`
stands in `Inner`. The class `Leaf` stands two classes deep in `Outer` as well, but only inherits `x`
from `Inner`. -/

namespace Nested

def mu : FieldDecl := ⟨"mu", "Object", false, none, none, .unknown⟩

def x : FieldDecl := ⟨"x", "int", false, some ⟨"Outer.this.mu", .unknown⟩, none, .unknown⟩

variable (methods : List MethodDecl)

def deep : ClassDecl := .mk "Outer.Inner.Deep" [] false [] methods [] [] .unknown

def leaf : ClassDecl := .mk "Outer.Mid.Leaf" ["Outer.Inner"] false [] methods [] [] .unknown

def outer : ClassDecl :=
  .mk "Outer" [] false [mu] [] []
    [.mk "Outer.Inner" [] false [x] [] [] [deep methods] .unknown,
      .mk "Outer.Mid" [] false [] [] [] [leaf methods] .unknown] .unknown

/-- The unit with the given methods in `Deep` and in `Leaf`. -/
def unit : CompilationUnit := ⟨none, none, [outer methods]⟩

/-- The class `Deep` at its place. -/
def deepSite : ClassSite :=
  ⟨deep methods, [⟨⟨"Outer"⟩, false⟩, ⟨⟨"Outer.Inner"⟩, false⟩, ⟨⟨"Outer.Inner.Deep"⟩, false⟩]⟩

/-- The class `Leaf` at its place. -/
def leafSite : ClassSite :=
  ⟨leaf methods, [⟨⟨"Outer"⟩, false⟩, ⟨⟨"Outer.Mid"⟩, false⟩, ⟨⟨"Outer.Mid.Leaf"⟩, false⟩]⟩

theorem deepSite_mem_sites : deepSite methods ∈ (unit methods).sites := by
  simp [unit, CompilationUnit.sites, ClassDecl.sitesAll, ClassDecl.sites, outer, deepSite, deep,
    leaf]

theorem leafSite_mem_sites : leafSite methods ∈ (unit methods).sites := by
  simp [unit, CompilationUnit.sites, ClassDecl.sitesAll, ClassDecl.sites, outer, leafSite, deep,
    leaf]

/-- The lock of `Outer`, seen from that many classes deep in it. -/
def outerMu (level : Nat) : Guard :=
  .field (.enclosing level ⟨"Outer"⟩) ⟨⟨"Outer"⟩, "mu", .object, false⟩

end Nested

end LockDiscipline
