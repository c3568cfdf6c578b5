-- A table can also be built step by step: every type gets an entry under its name and a place in an
-- index under the last piece of its name, and then each declaration takes the place of what its
-- entry held. The index keeps each known type once, so however often a name is declared, a written
-- name stands for the type of that name or for the only one that it is the last piece of.
import LockDiscipline.Proofs.Members
import LockDiscipline.Proofs.Reordering
import Mathlib.Data.List.TakeWhile
import Mathlib.Logic.Function.Basic

namespace LockDiscipline

/-! ## The last piece of a name -/

theorem Text.lastSegment_eq_iff {text piece : List Char} :
    Text.lastSegment text = piece ↔
      '.' ∉ piece ∧ (text = piece ∨ ∃ front, text = front ++ '.' :: piece) := by
  unfold Text.lastSegment
  constructor
  · rintro rfl
    have hsplit := List.takeWhile_append_dropWhile (p := (· != '.')) (l := text.reverse)
    refine ⟨fun hdot => ?_, ?_⟩
    · have hkept := List.mem_takeWhile_imp (List.mem_reverse.mp hdot)
      simp at hkept
    · cases hrest : text.reverse.dropWhile (· != '.') with
      | nil =>
        rw [hrest, List.append_nil] at hsplit
        exact Or.inl (by rw [hsplit, List.reverse_reverse])
      | cons dot front =>
        have hdot : dot = '.' := by
          have hhead := List.head?_dropWhile_not (p := (· != '.')) (l := text.reverse)
          rw [hrest] at hhead
          simpa using hhead
        refine Or.inr ⟨front.reverse, ?_⟩
        rw [hrest, hdot] at hsplit
        have hreverse := congrArg List.reverse hsplit
        rw [List.reverse_append, List.reverse_reverse, List.reverse_cons, List.append_assoc,
          List.singleton_append] at hreverse
        exact hreverse.symm
  · rintro ⟨hdot, hform⟩
    have hkept : ∀ c ∈ piece.reverse, (c != '.') = true := by
      intro c hc
      simp only [bne_iff_ne]
      rintro rfl
      exact hdot (List.mem_reverse.mp hc)
    rcases hform with rfl | ⟨front, rfl⟩
    · rw [List.takeWhile_eq_self_iff.mpr hkept, List.reverse_reverse]
    · rw [List.reverse_append, List.reverse_cons, List.append_assoc,
        List.takeWhile_append_of_pos hkept, List.singleton_append,
        List.takeWhile_cons_of_neg (by simp), List.append_nil, List.reverse_reverse]

namespace TypeName

/-- The piece is all of the name or stands behind a dot of it, and has no dot itself. -/
def EndsIn (type : TypeName) (piece : String) : Prop :=
  '.' ∉ piece.toList ∧ (type.text = piece ∨ ∃ front, type.text = front ++ "." ++ piece)

theorem simple_eq_iff {type : TypeName} {piece : String} :
    type.simple = piece ↔ type.EndsIn piece := by
  have hsimple : type.simple = piece ↔ Text.lastSegment type.text.toList = piece.toList := by
    rw [simple, ← String.toList_inj, String.toList_ofList]
  have hfront : (∃ front, type.text = front ++ "." ++ piece) ↔
      ∃ front, type.text.toList = front ++ '.' :: piece.toList := by
    constructor
    · rintro ⟨front, hfront⟩
      exact ⟨front.toList, by simp [hfront]⟩
    · rintro ⟨front, hfront⟩
      exact ⟨String.ofList front, by simp [← String.toList_inj, hfront]⟩
  rw [hsimple, Text.lastSegment_eq_iff, EndsIn, hfront, String.toList_inj]

end TypeName

/-! ## What a written name stands for -/

/-- The types of the library and the classes of all declarations. A class stands in this list as
often as it is declared. -/
def CompilationUnit.knownTypes (unit : CompilationUnit) : List TypeName :=
  ClassTable.libraryTypes.map Prod.fst ++ unit.allClasses.map ClassDecl.type

namespace ClassTable

/-- The name stands for the type among known ones: it is the name of the type or, if no known type
has that name, the last piece of the name of this type alone. -/
def StandsFor (known : List TypeName) (written : String) (type : TypeName) : Prop :=
  type ∈ known ∧ (type.text = written ∨ ⟨written⟩ ∉ known ∧ type.EndsIn written ∧
    ∀ other ∈ known, other.EndsIn written → other = type)

/-- Of a list without repetitions an item is the only one if every item is that one. -/
theorem only_eq_some_iff {types : List TypeName} {type : TypeName} : types.Nodup →
    ((match types with | [only] => some only | _ => none) = some type ↔
      type ∈ types ∧ ∀ other ∈ types, other = type) := by
  intro h
  match types with
  | [] => simp
  | [only] => simp [eq_comm]
  | first :: second :: rest =>
    have hne : first ≠ second := by
      rintro rfl
      exact (List.nodup_cons.mp h).1 List.mem_cons_self
    simp only [reduceCtorEq, false_iff, not_and]
    intro _ hall
    apply hne
    rw [hall first (by simp), hall second (by simp)]

theorem standsFor_of_mem {known : List TypeName} {written : String} (h : ⟨written⟩ ∈ known)
    {type : TypeName} : StandsFor known written type ↔ type = ⟨written⟩ := by
  constructor
  · rintro ⟨-, rfl | ⟨hnew, -⟩⟩
    · rfl
    · exact absurd h hnew
  · rintro rfl
    exact ⟨h, Or.inl rfl⟩

theorem standsFor_of_not_mem {known : List TypeName} {written : String} (h : ⟨written⟩ ∉ known)
    {type : TypeName} : StandsFor known written type ↔
      (type ∈ known ∧ type.EndsIn written) ∧
        ∀ other, other ∈ known ∧ other.EndsIn written → other = type := by
  constructor
  · rintro ⟨hmem, rfl | ⟨-, hends, honly⟩⟩
    · exact absurd hmem h
    · exact ⟨⟨hmem, hends⟩, fun other hother => honly other hother.1 hother.2⟩
  · rintro ⟨⟨hmem, hends⟩, honly⟩
    exact ⟨hmem, Or.inr ⟨h, hends, fun other hother hsame => honly other ⟨hother, hsame⟩⟩⟩

theorem resolveAmong_eq_some_iff {known : List TypeName} (h : known.Nodup) {written : String}
    {type : TypeName} :
    resolveAmong known written = some type ↔ StandsFor known written type := by
  unfold resolveAmong
  split
  · rename_i hknown
    rw [standsFor_of_mem (List.contains_iff_mem.mp hknown), Option.some.injEq, eq_comm]
  · rename_i hnew
    rw [List.contains_iff_mem] at hnew
    rw [standsFor_of_not_mem hnew]
    refine (only_eq_some_iff (h.filter _)).trans ?_
    simp only [List.mem_filter, beq_iff_eq, TypeName.simple_eq_iff]

theorem resolve_eq_some_iff {unit : CompilationUnit} {written : String} {type : TypeName} :
    (ofUnit unit).resolve written = some type ↔ StandsFor unit.knownTypes written type := by
  rw [resolve, names_ofUnit, knownNames, resolveAmong_eq_some_iff (nodup_eraseDups _)]
  simp only [StandsFor, List.mem_eraseDups, CompilationUnit.knownTypes]

end ClassTable

/-! ## Building a table -/

/-- A table that is being built: what is known so far of each type that has an entry, and the types
behind each simple name. -/
structure Registry where
  info : TypeName → Option ClassInfo
  carriers : String → List TypeName

namespace Registry

def empty : Registry := ⟨fun _ => none, fun _ => []⟩

/-- Puts a type behind its simple name and gives it an entry, each unless it is there. -/
def register (registry : Registry) (type : TypeName) : Registry where
  info :=
    Function.update registry.info type (some ((registry.info type).getD ⟨[], []⟩))
  carriers :=
    let carriers := registry.carriers type.simple
    Function.update registry.carriers type.simple
      (if type ∈ carriers then carriers else carriers ++ [type])

/-- Puts what is said of a type in the place of what its entry holds. -/
def tell (registry : Registry) (type : TypeName) (info : ClassInfo) : Registry :=
  { registry with info := Function.update registry.info type (some info) }

/-- The type that a written name stands for: the one with an entry under that name, else the only
one behind it in the index. -/
def resolve (registry : Registry) (written : String) : Option TypeName :=
  if (registry.info ⟨written⟩).isSome then some ⟨written⟩
  else
    match registry.carriers written with
    | [only] => some only
    | _ => none

def written (registry : Registry) (text : String) : TypeName :=
  (registry.resolve text).getD ⟨text⟩

def addLibraryType (registry : Registry) (entry : TypeName × List TypeName) : Registry :=
  (registry.register entry.1).tell entry.1 ⟨entry.2, []⟩

def addName (registry : Registry) (cls : ClassDecl) : Registry := registry.register cls.type

/-- Says of a class what it declares, with its names read in the table as built so far. -/
def addClass (registry : Registry) (cls : ClassDecl) : Registry :=
  registry.tell cls.type
    { supertypes :=
        if cls.supertypes.isEmpty then [.object] else cls.supertypes.map registry.written
      fields := cls.fields.map fun field =>
        ⟨cls.type, field.name, registry.written field.type, field.isStatic⟩ }

def library : Registry := ClassTable.libraryTypes.foldl addLibraryType empty

/-- The table of a unit: the library, then the names of all classes, then what each declares. -/
def ofUnit (unit : CompilationUnit) : Registry :=
  unit.allClasses.foldl addClass (unit.allClasses.foldl addName library)

/-! ## The index -/

/-- The known types are those with an entry, and the index holds each of them once, behind its own
simple name. -/
structure Indexed (registry : Registry) (known : List TypeName) : Prop where
  isSome_iff : ∀ type, (registry.info type).isSome = true ↔ type ∈ known
  mem_carriers_iff : ∀ piece type,
    type ∈ registry.carriers piece ↔ type ∈ known ∧ type.simple = piece
  nodup_carriers : ∀ piece, (registry.carriers piece).Nodup

theorem indexed_empty : empty.Indexed [] := ⟨by simp [empty], by simp [empty], by simp [empty]⟩

variable {registry : Registry} {known : List TypeName}

theorem mem_carriers_register {type other : TypeName} {piece : String} :
    other ∈ (registry.register type).carriers piece ↔
      other ∈ registry.carriers piece ∨ other = type ∧ type.simple = piece := by
  unfold register
  dsimp only
  by_cases hpiece : piece = type.simple
  · subst hpiece
    rw [Function.update_self]
    split
    · rename_i hcarried
      constructor
      · exact Or.inl
      · rintro (hother | ⟨rfl, -⟩)
        · exact hother
        · exact hcarried
    · simp
  · rw [Function.update_of_ne hpiece]
    simp [Ne.symm hpiece]

theorem nodup_carriers_register {piece : String} (h : (registry.carriers piece).Nodup)
    (type : TypeName) : ((registry.register type).carriers piece).Nodup := by
  unfold register
  dsimp only
  by_cases hpiece : piece = type.simple
  · subst hpiece
    rw [Function.update_self]
    split
    · exact h
    · rename_i hnew
      rw [List.nodup_append]
      refine ⟨h, List.nodup_singleton type, ?_⟩
      rintro other hother _ hlast rfl
      exact hnew (List.mem_singleton.mp hlast ▸ hother)
  · rw [Function.update_of_ne hpiece]
    exact h

namespace Indexed

theorem register (h : registry.Indexed known) (type : TypeName) :
    (registry.register type).Indexed (known ++ [type]) := by
  refine ⟨fun other => ?_, fun piece other => ?_,
    fun piece => nodup_carriers_register (h.nodup_carriers piece) type⟩
  · by_cases hother : other = type
    · simp [Registry.register, hother]
    · simp [Registry.register, hother, h.isSome_iff]
  · rw [mem_carriers_register, h.mem_carriers_iff, List.mem_append, List.mem_singleton]
    constructor
    · rintro (⟨hmem, hsimple⟩ | ⟨rfl, hsimple⟩)
      · exact ⟨Or.inl hmem, hsimple⟩
      · exact ⟨Or.inr rfl, hsimple⟩
    · rintro ⟨hmem | rfl, hsimple⟩
      · exact Or.inl ⟨hmem, hsimple⟩
      · exact Or.inr ⟨rfl, hsimple⟩

/-- What is said of a known type changes no name. -/
theorem tell (h : registry.Indexed known) {type : TypeName} (htype : type ∈ known)
    (info : ClassInfo) : (registry.tell type info).Indexed known := by
  refine ⟨fun other => ?_, h.mem_carriers_iff, h.nodup_carriers⟩
  by_cases hother : other = type
  · simp [Registry.tell, hother, htype]
  · simp [Registry.tell, Function.update_of_ne hother, h.isSome_iff]

/-- Types that are added one after the other are all known in the end. -/
theorem foldl {α : Type} {add : Registry → α → Registry} {name : α → TypeName}
    (hadd : ∀ registry known item, registry.Indexed known →
      (add registry item).Indexed (known ++ [name item]))
    (h : registry.Indexed known) (items : List α) :
    (items.foldl add registry).Indexed (known ++ items.map name) := by
  induction items generalizing registry known with
  | nil => simpa using h
  | cons item items ih => simpa using ih (hadd registry known item h)

theorem resolve_eq_some_iff (h : registry.Indexed known) {written : String} {type : TypeName} :
    registry.resolve written = some type ↔ ClassTable.StandsFor known written type := by
  unfold Registry.resolve
  split
  · rename_i hknown
    rw [h.isSome_iff] at hknown
    rw [ClassTable.standsFor_of_mem hknown, Option.some.injEq, eq_comm]
  · rename_i hnew
    rw [h.isSome_iff] at hnew
    rw [ClassTable.standsFor_of_not_mem hnew,
      ClassTable.only_eq_some_iff (h.nodup_carriers written)]
    simp only [h.mem_carriers_iff, TypeName.simple_eq_iff]

/-- Names mean in a table that is being built what they mean among the known types. -/
theorem written_eq (h : registry.Indexed known) :
    registry.written = ClassTable.writtenAmong known.eraseDups := by
  funext text
  have hresolve : registry.resolve text = ClassTable.resolveAmong known.eraseDups text := by
    apply Option.ext
    intro type
    rw [h.resolve_eq_some_iff, ClassTable.resolveAmong_eq_some_iff (nodup_eraseDups known)]
    simp only [ClassTable.StandsFor, List.mem_eraseDups]
  rw [Registry.written, hresolve, ClassTable.writtenAmong]

theorem addLibraryType (h : registry.Indexed known) (entry : TypeName × List TypeName) :
    (registry.addLibraryType entry).Indexed (known ++ [entry.1]) :=
  (h.register entry.1).tell (by simp) _

/-- What a class declares is read as the finished table reads it. -/
theorem addClass_eq (h : registry.Indexed known) (cls : ClassDecl) :
    registry.addClass cls =
      registry.tell cls.type (ClassTable.declaredInfo known.eraseDups cls) := by
  rw [addClass, h.written_eq, ClassTable.declaredInfo]

theorem addClasses (h : registry.Indexed known) (classes : List ClassDecl)
    (hclasses : ∀ cls ∈ classes, cls.type ∈ known) :
    (classes.foldl addClass registry).Indexed known ∧
      ∀ type, (classes.foldl addClass registry).info type =
        ((classes.reverse.find? (·.type == type)).map
          (ClassTable.declaredInfo known.eraseDups)).or (registry.info type) := by
  induction classes using List.reverseRecOn with
  | nil => exact ⟨h, fun type => rfl⟩
  | append_singleton classes cls ih =>
    obtain ⟨hindexed, hinfo⟩ := ih fun other hother => hclasses other (by simp [hother])
    rw [List.foldl_append, List.foldl_cons, List.foldl_nil, hindexed.addClass_eq]
    refine ⟨hindexed.tell (hclasses cls (by simp)) _, fun type => ?_⟩
    rw [List.reverse_append, List.reverse_singleton, List.singleton_append, List.find?_cons]
    by_cases htype : type = cls.type
    · subst htype
      simp [Registry.tell]
    · have hne : (cls.type == type) = false := by simpa using Ne.symm htype
      simp [Registry.tell, htype, hne, hinfo]

end Indexed

/-! ## The table that is built -/

theorem indexed_library : library.Indexed (ClassTable.libraryTypes.map Prod.fst) :=
  indexed_empty.foldl (fun _ _ entry h => h.addLibraryType entry) ClassTable.libraryTypes

theorem indexed_names (unit : CompilationUnit) :
    (unit.allClasses.foldl addName library).Indexed unit.knownTypes :=
  indexed_library.foldl (fun _ _ cls h => h.register cls.type) unit.allClasses

theorem type_mem_knownTypes {unit : CompilationUnit} {cls : ClassDecl}
    (h : cls ∈ unit.allClasses) : cls.type ∈ unit.knownTypes :=
  List.mem_append_right _ (List.mem_map_of_mem h)

theorem indexed_ofUnit (unit : CompilationUnit) : (ofUnit unit).Indexed unit.knownTypes :=
  ((indexed_names unit).addClasses _ fun _ => type_mem_knownTypes).1

theorem info_addLibraryType (registry : Registry) (entry : TypeName × List TypeName)
    (type : TypeName) : (registry.addLibraryType entry).info type =
      if type = entry.1 then some ⟨entry.2, []⟩ else registry.info type := by
  unfold addLibraryType tell register
  by_cases htype : type = entry.1
  · simp [htype]
  · simp [htype]

theorem lookup_eq_none_iff_not_mem {α : Type} {entries : List (TypeName × α)} {type : TypeName} :
    entries.lookup type = none ↔ type ∉ entries.map Prod.fst := by
  simp only [List.lookup_eq_none_iff, List.mem_map, bne_iff_ne, not_exists, not_and]
  exact forall₂_congr fun _ _ => ne_comm

/-- Each type of the library is told of once, so its entry holds what the library says. -/
theorem info_addLibraryTypes (entries : List (TypeName × List TypeName))
    (h : (entries.map Prod.fst).Nodup) (registry : Registry) (type : TypeName) :
    (entries.foldl addLibraryType registry).info type =
      ((entries.lookup type).map fun supertypes => ⟨supertypes, []⟩).or (registry.info type) := by
  induction entries generalizing registry with
  | nil => rfl
  | cons entry rest ih =>
    obtain ⟨hnew, hrest⟩ := List.nodup_cons.mp h
    rw [List.foldl_cons, ih hrest, info_addLibraryType, List.lookup_cons]
    by_cases htype : type = entry.1
    · subst htype
      simp [lookup_eq_none_iff_not_mem.mpr hnew]
    · have hne : (type == entry.1) = false := by simpa using htype
      simp [htype, hne]

theorem info_addNames {classes : List ClassDecl} {type : TypeName}
    (h : ∀ cls ∈ classes, cls.type ≠ type) (registry : Registry) :
    (classes.foldl addName registry).info type = registry.info type := by
  induction classes generalizing registry with
  | nil => rfl
  | cons cls rest ih =>
    rw [List.foldl_cons, ih fun other hother => h other (List.mem_cons_of_mem cls hother)]
    exact Function.update_of_ne (Ne.symm (h cls List.mem_cons_self)) _ _

theorem mem_knownNames_iff {unit : CompilationUnit} {type : TypeName} :
    type ∈ ClassTable.knownNames unit.allClasses ↔
      ClassTable.libraryTypes.lookup type ≠ none ∨ ∃ cls ∈ unit.allClasses, cls.type = type := by
  rw [ClassTable.knownNames, List.mem_eraseDups, List.mem_append, Ne, lookup_eq_none_iff_not_mem,
    not_not, ← List.mem_map]

/-- Built step by step or at once, the table knows the same of every type. -/
theorem info_ofUnit (unit : CompilationUnit) (type : TypeName) :
    (ofUnit unit).info type = (ClassTable.ofUnit unit).entries.lookup type := by
  have hbuilt := ((indexed_names unit).addClasses _ fun _ => type_mem_knownTypes).2 type
  rw [ofUnit, hbuilt, ClassTable.entries_ofUnit, ClassTable.lookup_map_mk, ClassTable.told]
  cases hdeclared : unit.allClasses.reverse.find? (·.type == type) with
  | some cls =>
    have hcls : cls.type = type := by simpa using List.find?_some hdeclared
    have hmem := List.mem_reverse.mp (List.mem_of_find?_eq_some hdeclared)
    have hknown := mem_knownNames_iff.mpr (Or.inr ⟨cls, hmem, hcls⟩)
    rw [if_pos (List.contains_iff_mem.mpr hknown)]
    rfl
  | none =>
    have hne : ∀ cls ∈ unit.allClasses, cls.type ≠ type := by
      intro cls hcls
      simpa using List.find?_eq_none.mp hdeclared cls (List.mem_reverse.mpr hcls)
    have hnodup : (ClassTable.libraryTypes.map Prod.fst).Nodup := by decide
    rw [Option.map_none, Option.none_or, info_addNames hne, library,
      info_addLibraryTypes _ hnodup]
    cases hlibrary : ClassTable.libraryTypes.lookup type with
    | some supertypes =>
      have hknown : type ∈ ClassTable.knownNames unit.allClasses :=
        mem_knownNames_iff.mpr (Or.inl (by simp [hlibrary]))
      rw [if_pos (List.contains_iff_mem.mpr hknown), ClassTable.libraryInfo, hlibrary]
      rfl
    | none =>
      have hnew : type ∉ ClassTable.knownNames unit.allClasses := by
        rw [mem_knownNames_iff]
        rintro (hsome | ⟨cls, hcls, hsame⟩)
        · exact hsome hlibrary
        · exact hne cls hcls hsame
      rw [if_neg (by simpa using hnew)]
      rfl

theorem resolve_ofUnit (unit : CompilationUnit) :
    (ofUnit unit).resolve = (ClassTable.ofUnit unit).resolve := by
  funext written
  apply Option.ext
  intro type
  rw [(indexed_ofUnit unit).resolve_eq_some_iff, ClassTable.resolve_eq_some_iff]

end Registry

namespace CompilationUnit

/-- A name stands for the known type of that name, or else for the known type that it is the last
piece of, if that is only one, or else for none; so it hangs on the names of the library and of
the classes alone, in whatever order and however often these are declared. What a name stands
for has an entry in the table and is what its own full name stands for. Building the table step
by step, with its index of simple names, gives the same entries and the same answers. -/
theorem a_written_name_stands_for_one_known_type (unit : CompilationUnit) :
    let table := ClassTable.ofUnit unit
    let registry := Registry.ofUnit unit
    (∀ written, ⟨written⟩ ∈ unit.knownTypes → table.resolve written = some ⟨written⟩) ∧
    (∀ written, ⟨written⟩ ∉ unit.knownTypes → ∀ type, table.resolve written = some type ↔
      (type ∈ unit.knownTypes ∧ type.EndsIn written) ∧
        ∀ other, other ∈ unit.knownTypes ∧ other.EndsIn written → other = type) ∧
    (∀ other : CompilationUnit, (∀ type, type ∈ other.knownTypes ↔ type ∈ unit.knownTypes) →
      (ClassTable.ofUnit other).resolve = table.resolve) ∧
    (∀ written, ∀ type ∈ table.resolve written, (table.entries.lookup type).isSome = true) ∧
    (∀ written, table.lookup.written (table.lookup.written written).text =
      table.lookup.written written) ∧
    registry.Indexed unit.knownTypes ∧ registry.resolve = table.resolve ∧
    ∀ type, registry.info type = table.entries.lookup type := by
  intro table registry
  refine ⟨fun written hknown => ?_, fun written hnew type => ?_, fun other hother => ?_,
    fun written type htype => ?_, ClassTable.written_written table, Registry.indexed_ofUnit unit,
    Registry.resolve_ofUnit unit, Registry.info_ofUnit unit⟩
  · rw [ClassTable.resolve_eq_some_iff, ClassTable.standsFor_of_mem hknown]
  · rw [ClassTable.resolve_eq_some_iff, ClassTable.standsFor_of_not_mem hnew]
  · funext written
    apply Option.ext
    intro type
    rw [ClassTable.resolve_eq_some_iff, ClassTable.resolve_eq_some_iff]
    simp only [ClassTable.StandsFor, hother]
  · rw [← Registry.info_ofUnit, (Registry.indexed_ofUnit unit).isSome_iff]
    exact (ClassTable.resolve_eq_some_iff.mp htype).1

end CompilationUnit

/-! ## Names that two types carry

A class with the simple name of a type of the library, and a class inside another, declared
twice. -/

namespace TwoCarriers

def cls (name : String) (nested : List ClassDecl) : ClassDecl :=
  .mk name [] false [] [] [] nested .unknown

def unit : CompilationUnit :=
  ⟨none, none, [cls "app.Lock" [], cls "app.Node" [cls "app.Node.Key" []], cls "app.Node" []]⟩

/-- The same names in another order, each declared once. -/
def other : CompilationUnit :=
  ⟨none, none, [cls "app.Node.Key" [], cls "app.Node" [], cls "app.Lock" []]⟩

theorem lock_is_the_last_piece_of_two_names :
    let table := ClassTable.ofUnit unit
    ⟨"app.Node"⟩ ∈ unit.knownTypes ∧ table.resolve "app.Node" = some ⟨"app.Node"⟩ ∧
      ⟨"Lock"⟩ ∉ unit.knownTypes ∧ table.resolve "Lock" = none ∧
      (∀ type, type ∈ other.knownTypes ↔ type ∈ unit.knownTypes) ∧
      table.resolve "Key" = some ⟨"app.Node.Key"⟩ ∧
      (ClassTable.ofUnit other).resolve "Key" = some ⟨"app.Node.Key"⟩ := by
  intro table
  obtain ⟨hexact, hsimple, horder, -⟩ := unit.a_written_name_stands_for_one_known_type
  have hnode : ⟨"app.Node"⟩ ∈ unit.knownTypes := by decide
  have hlock : ⟨"Lock"⟩ ∉ unit.knownTypes := by decide
  have hkey : table.resolve "Key" = some ⟨"app.Node.Key"⟩ := by decide +kernel
  have hsame : ∀ type, type ∈ other.knownTypes ↔ type ∈ unit.knownTypes := by
    intro type
    have hthere : unit.knownTypes ⊆ other.knownTypes := by decide
    have hback : other.knownTypes ⊆ unit.knownTypes := by decide
    exact ⟨fun h => hback h, fun h => hthere h⟩
  refine ⟨hnode, hexact _ hnode, hlock, ?_, hsame, hkey, ?_⟩
  · cases hresolved : table.resolve "Lock" with
    | none => rfl
    | some type =>
      -- Both the type of the library and the class would be the only one.
      obtain ⟨-, honly⟩ := (hsimple "Lock" hlock type).mp hresolved
      have hlibrary := honly .lock ⟨by decide, TypeName.simple_eq_iff.mp (by decide)⟩
      have hclass := honly ⟨"app.Lock"⟩ ⟨by decide, TypeName.simple_eq_iff.mp (by decide)⟩
      exact absurd (hlibrary.trans hclass.symm) (by decide)
  · rw [horder other hsame]
    exact hkey

end TwoCarriers

end LockDiscipline
