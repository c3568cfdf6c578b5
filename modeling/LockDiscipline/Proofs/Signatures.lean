-- What a member is analysed in comes from the unit's classes, their fields and the signatures of their
-- methods. The bodies of methods have no part in it, nor has whether a method is synchronized.
import LockDiscipline.Proofs.Members
import LockDiscipline.Proofs.TypeTable

namespace LockDiscipline

/-! ## Outlines -/

/-- The method without what only its own analysis reads. -/
def MethodDecl.signature (method : MethodDecl) : MethodDecl :=
  { method with isSynchronized := false, body := [], span := .unknown }

/-- The class by itself, with the signatures of its methods. -/
def ClassDecl.outline (cls : ClassDecl) : ClassDecl :=
  .mk cls.name cls.supertypes cls.isStatic cls.fields (cls.methods.map (·.signature)) [] [] .unknown

/-- The outline of a class at its place. -/
def ClassSite.outline (site : ClassSite) : ClassSite := ⟨site.cls.outline, site.nesting⟩

/-- Two units have the same classes at the same places, up to what only the analysis of each method
reads. -/
def CompilationUnit.SameOutline (unit other : CompilationUnit) : Prop :=
  unit.sites.map (·.outline) = other.sites.map (·.outline)

/-! ## The table of types -/

namespace ClassTable

/-- The declaration of a type, in outline. -/
theorem find?_outline (classes : List ClassDecl) (type : TypeName) :
    (classes.map (·.outline)).find? (·.type == type) =
      (classes.find? (·.type == type)).map (·.outline) := List.find?_map

theorem told_eq_of_outline {unit other : CompilationUnit}
    (h : unit.allClasses.map (·.outline) = other.allClasses.map (·.outline))
    (hknown : knownNames unit.allClasses = knownNames other.allClasses) (type : TypeName) :
    told unit type = told other type := by
  have hfind : (unit.allClasses.reverse.find? (·.type == type)).map (·.outline) =
      (other.allClasses.reverse.find? (·.type == type)).map (·.outline) := by
    rw [← find?_outline, ← find?_outline, List.map_reverse, List.map_reverse, h]
  have hinfo : ∀ cls : ClassDecl, declaredInfo (knownNames unit.allClasses) cls =
      declaredInfo (knownNames unit.allClasses) cls.outline := fun _ => rfl
  unfold told
  rw [← hknown]
  cases hunit : unit.allClasses.reverse.find? (·.type == type) with
  | none =>
    rw [hunit, Option.map_none, eq_comm, Option.map_eq_none_iff] at hfind
    rw [hfind]
  | some cls =>
    rw [hunit, Option.map_some, eq_comm, Option.map_eq_some_iff] at hfind
    obtain ⟨cls', hother, houtline⟩ := hfind
    rw [hother]
    dsimp only
    rw [hinfo cls, ← houtline, ← hinfo cls']

theorem ofUnit_eq_of_outline {unit other : CompilationUnit}
    (h : unit.allClasses.map (·.outline) = other.allClasses.map (·.outline)) :
    ofUnit unit = ofUnit other := by
  have htypes : unit.allClasses.map (·.type) = other.allClasses.map (·.type) := by
    have hmap := congrArg (List.map ClassDecl.type) h
    rw [List.map_map, List.map_map] at hmap
    exact hmap
  have hknown : knownNames unit.allClasses = knownNames other.allClasses := by
    rw [knownNames, knownNames, htypes]
  have hentries : (ofUnit unit).entries = (ofUnit other).entries := by
    rw [entries_ofUnit, entries_ofUnit, hknown]
    refine List.map_congr_left fun type _ => ?_
    rw [told_eq_of_outline h hknown]
  exact congrArg ClassTable.mk hentries

end ClassTable

/-! ## The table of guards -/

namespace Validation

theorem addSite_outline (types : TypeLookup) (validation : Validation) (site : ClassSite) :
    addSite types validation site.outline = addSite types validation site := by
  exact List.foldl_map

theorem foldl_addSite_outline (types : TypeLookup) (validation : Validation)
    (sites : List ClassSite) :
    (sites.map (·.outline)).foldl (addSite types) validation =
      sites.foldl (addSite types) validation := by
  rw [List.foldl_map]
  simp only [addSite_outline]

end Validation

namespace CompilationUnit

variable {unit other : CompilationUnit}

theorem SameOutline.types_eq (h : unit.SameOutline other) : unit.types = other.types := by
  have hclasses := congrArg (List.map ClassSite.cls) h
  rw [List.map_map, List.map_map] at hclasses
  have hall : unit.allClasses.map (·.outline) = other.allClasses.map (·.outline) := by
    rw [← unit.map_cls_sites, ← other.map_cls_sites, List.map_map, List.map_map]
    exact hclasses
  rw [types, types, ClassTable.ofUnit_eq_of_outline hall]

theorem SameOutline.validate_eq (h : unit.SameOutline other) (types : TypeLookup) :
    unit.validate types = other.validate types := by
  rw [validate, validate, ← Validation.foldl_addSite_outline, h, Validation.foldl_addSite_outline]

/-- Members that stand at the same place are analysed in the same setting. -/
theorem SameOutline.setting_eq (h : unit.SameOutline other) (options : Options)
    {member another : Member} (hscope : member.scope = another.scope) :
    unit.setting options member = other.setting options another := by
  rw [setting, setting, h.types_eq, h.validate_eq, hscope]

end CompilationUnit

end LockDiscipline
