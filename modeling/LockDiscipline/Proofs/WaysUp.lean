-- A way up from a type says at each step which of the supertypes named there is taken. The
-- ancestry of the type lists the types at the ends of all ways, the shorter ways first and ways of
-- one length in the order of their turns. So the field that a lookup finds is declared at the end
-- of the first way that leads to any declaration of it.
import LockDiscipline.Proofs.Members
import LockDiscipline.Proofs.Worklist
import Mathlib.Data.List.Shortlex

namespace LockDiscipline

open List (Shortlex)
open Relation (ReflTransGen)

/-! ## What a type declares itself -/

namespace CompilationUnit

/-- The declaration of a type that counts: the last one, where a class is declared twice. -/
def declaration? (unit : CompilationUnit) (type : TypeName) : Option ClassDecl :=
  unit.allClasses.reverse.find? (·.type == type)

/-- The first field of a name that a type declares itself. -/
def declaredField? (unit : CompilationUnit) (type : TypeName) (name : String) :
    Option FieldSymbol :=
  (unit.declaration? type).bind fun cls =>
    (cls.fields.find? (·.name == name)).map fun field =>
      ⟨type, name, unit.types.written field.type, field.isStatic⟩

theorem owner_of_declaredField? {unit : CompilationUnit} {type : TypeName} {name : String}
    {f : FieldSymbol} (h : unit.declaredField? type name = some f) : f.owner = type := by
  obtain ⟨cls, -, hfield⟩ := Option.bind_eq_some_iff.mp h
  obtain ⟨field, -, rfl⟩ := Option.map_eq_some_iff.mp hfield
  rfl

end CompilationUnit

namespace ClassTable

theorem writtenAmong_knownNames (unit : CompilationUnit) (written : String) :
    writtenAmong (knownNames unit.allClasses) written = unit.types.written written := by
  rw [← names_ofUnit]
  rfl

/-- The fields that the table knows of a type are those that the type declares. -/
theorem find?_fields_info (unit : CompilationUnit) (type : TypeName) (name : String) :
    ((ofUnit unit).info type).fields.find? (·.name == name) = unit.declaredField? type name := by
  have htold : unit.declaration? type = none → (told unit type).fields = [] := by
    intro hnone
    unfold CompilationUnit.declaration? at hnone
    rw [told, hnone, libraryInfo]
  rw [info_ofUnit, CompilationUnit.declaredField?]
  cases hdecl : unit.declaration? type with
  | none =>
    split
    · rw [htold hdecl]
      rfl
    · rfl
  | some cls =>
    have hcls : cls.type = type := by simpa using List.find?_some hdecl
    have hmem : cls ∈ unit.allClasses := List.mem_reverse.mp (List.mem_of_find?_eq_some hdecl)
    have hknown : type ∈ knownNames unit.allClasses := by
      rw [← names_ofUnit, ← hcls]
      exact type_mem_names hmem
    unfold CompilationUnit.declaration? at hdecl
    rw [if_pos (List.contains_iff_mem.mpr hknown), told, hdecl]
    unfold declaredInfo
    dsimp only
    rw [List.find?_map, hcls, Option.bind_some]
    change Option.map _ (cls.fields.find? (·.name == name)) = _
    cases hfield : cls.fields.find? (·.name == name) with
    | none => rfl
    | some field =>
      have hname : field.name = name := by simpa using List.find?_some hfield
      simp [hname, writtenAmong_knownNames]

/-! ## Ways up -/

/-- The type at the end of a way up. Each number says which of the supertypes that a type names
comes next, and the first one of them has number zero. -/
def follow (table : ClassTable) : TypeName → List Nat → Option TypeName
  | type, [] => some type
  | type, turn :: way => (table.info type).supertypes[turn]?.bind (table.follow · way)

/-- The ways up of a length with the types at their ends, in the order of the turns. -/
def ways (table : ClassTable) (type : TypeName) : Nat → List (List Nat × TypeName)
  | 0 => [([], type)]
  | length + 1 =>
    (table.ways type length).flatMap fun (way, sub) =>
      (table.info sub).supertypes.zipIdx.map fun (sup, turn) => (way ++ [turn], sup)

variable {table : ClassTable}

theorem follow_concat (type : TypeName) (way : List Nat) (turn : Nat) :
    table.follow type (way ++ [turn]) =
      (table.follow type way).bind fun sub => (table.info sub).supertypes[turn]? := by
  induction way generalizing type with
  | nil => cases h : (table.info type).supertypes[turn]? <;> simp [follow, h]
  | cons first way ih =>
    rw [List.cons_append, follow, follow]
    cases (table.info type).supertypes[first]? with
    | none => rfl
    | some sup => exact ih sup

/-- Links lead to the types at the ends of ways and to no others. -/
theorem reached_iff_follow {type sup : TypeName} :
    ReflTransGen table.Extends type sup ↔ ∃ way, table.follow type way = some sup := by
  constructor
  · intro h
    induction h with
    | refl => exact ⟨[], rfl⟩
    | tail _ hextends ih =>
      obtain ⟨way, hway⟩ := ih
      obtain ⟨turn, hturn⟩ := List.mem_iff_getElem?.mp hextends
      exact ⟨way ++ [turn], by rw [follow_concat, hway, Option.bind_some, hturn]⟩
  · rintro ⟨way, hway⟩
    induction way generalizing type with
    | nil =>
      cases hway
      exact .refl
    | cons turn way ih =>
      obtain ⟨next, hnext, hrest⟩ := Option.bind_eq_some_iff.mp hway
      exact .head (List.mem_of_getElem? hnext) (ih hrest)

theorem mem_ways_iff {type sup : TypeName} {length : Nat} {way : List Nat} :
    (way, sup) ∈ table.ways type length ↔
      way.length = length ∧ table.follow type way = some sup := by
  induction length generalizing way sup with
  | zero =>
    rw [ways, List.mem_singleton, List.length_eq_zero_iff, Prod.mk.injEq]
    constructor
    · rintro ⟨rfl, rfl⟩
      exact ⟨rfl, rfl⟩
    · rintro ⟨rfl, hway⟩
      cases hway
      exact ⟨rfl, rfl⟩
  | succ length ih =>
    simp only [ways, List.mem_flatMap, List.mem_map, List.mem_zipIdx_iff_getElem?, Prod.exists,
      Prod.mk.injEq]
    constructor
    · rintro ⟨before, sub, hbefore, _, turn, hturn, rfl, rfl⟩
      obtain ⟨hlength, hsub⟩ := ih.mp hbefore
      refine ⟨by simp [hlength], ?_⟩
      rw [follow_concat, hsub, Option.bind_some, hturn]
    · rintro ⟨hlength, hway⟩
      rcases List.eq_nil_or_concat way with rfl | ⟨before, turn, rfl⟩
      · cases hlength
      · rw [List.concat_eq_append] at hlength hway ⊢
        rw [follow_concat] at hway
        obtain ⟨sub, hsub, hturn⟩ := Option.bind_eq_some_iff.mp hway
        have hbefore : before.length = length := by simpa using hlength
        exact ⟨before, sub, ih.mpr ⟨hbefore, hsub⟩, sup, turn, hturn, rfl, rfl⟩

theorem map_snd_ways_succ (type : TypeName) (length : Nat) :
    (table.ways type (length + 1)).map (·.2) =
      ((table.ways type length).map (·.2)).flatMap fun sub => (table.info sub).supertypes := by
  rw [ways, List.map_flatMap, List.flatMap_map]
  simp [Function.comp_def]

/-! ## Ways in their order -/

theorem lex_append {s t : List Nat} (h : List.Lex (· < ·) s t) (hlength : s.length = t.length)
    (x y : List Nat) : List.Lex (· < ·) (s ++ x) (t ++ y) := by
  induction h with
  | nil => cases hlength
  | cons _ ih => exact .cons (ih (Nat.succ.inj hlength))
  | rel hlt => exact .rel hlt

theorem pairwise_ways (type : TypeName) (length : Nat) :
    (table.ways type length).Pairwise fun a b => Shortlex (· < ·) a.1 b.1 := by
  induction length with
  | zero => exact List.pairwise_singleton _ _
  | succ length ih =>
    rw [ways, List.pairwise_flatMap]
    constructor
    · rintro ⟨way, sub⟩ -
      have hturns : (table.info sub).supertypes.zipIdx.Pairwise fun a b => a.2 < b.2 := by
        rw [← List.pairwise_map (f := Prod.snd), List.zipIdx_map_snd]
        exact List.pairwise_lt_range'
      refine hturns.map _ fun a b hlt => List.shortlex_def.mpr (.inr ⟨by simp, ?_⟩)
      exact List.Lex.append_left _ (.rel hlt) way
    · refine ih.imp_of_mem ?_
      rintro ⟨first, sub⟩ ⟨second, other⟩ hfirst hsecond hbefore
      have hlength : first.length = second.length :=
        (mem_ways_iff.mp hfirst).1.trans (mem_ways_iff.mp hsecond).1.symm
      have hlex := (List.shortlex_def.mp hbefore).resolve_left hlength.not_lt
      intro a ha b hb
      obtain ⟨⟨sup, turn⟩, -, rfl⟩ := List.mem_map.mp ha
      obtain ⟨⟨sup', turn'⟩, -, rfl⟩ := List.mem_map.mp hb
      exact List.shortlex_def.mpr (.inr ⟨by simp [hlength], lex_append hlex.2 hlength _ _⟩)

/-- The ways up that are shorter than a length. -/
def waysBelow (table : ClassTable) (type : TypeName) (length : Nat) : List (List Nat × TypeName) :=
  (List.range length).flatMap (table.ways type)

theorem mem_waysBelow_iff {type sup : TypeName} {length : Nat} {way : List Nat} :
    (way, sup) ∈ table.waysBelow type length ↔
      way.length < length ∧ table.follow type way = some sup := by
  simp [waysBelow, List.mem_flatMap, mem_ways_iff]

theorem pairwise_waysBelow (type : TypeName) (length : Nat) :
    (table.waysBelow type length).Pairwise fun a b => Shortlex (· < ·) a.1 b.1 := by
  rw [waysBelow, List.pairwise_flatMap]
  refine ⟨fun length _ => pairwise_ways type length, ?_⟩
  refine List.pairwise_lt_range.imp fun {first second} hlt => ?_
  rintro ⟨way, sup⟩ hway ⟨way', sup'⟩ hway'
  rw [mem_ways_iff] at hway hway'
  exact .of_length_lt (show way.length < way'.length by omega)

/-! ## The ancestry lists the ends of ways -/

theorem mem_fresh_iff {listed queue : List TypeName} {type : TypeName} :
    type ∈ fresh listed queue ↔ type ∈ queue ∧ type ∉ listed := by
  simp [fresh, List.mem_eraseDups]

theorem fresh_append (listed queue later : List TypeName) :
    fresh listed (queue ++ later) =
      fresh listed queue ++ fresh (listed ++ fresh listed queue) later := by
  induction queue generalizing listed with
  | nil => simp [fresh]
  | cons type rest ih =>
    rw [List.cons_append]
    by_cases h : type ∈ listed
    · rw [fresh_cons_of_mem h, fresh_cons_of_mem h, ih]
    · rw [fresh_cons_of_not_mem h, fresh_cons_of_not_mem h, ih]
      simp

/-- What types name that have been passed over is no news, as long as the links from all types
before lead to known types. -/
theorem fresh_flatMap_fresh {listed known : List TypeName}
    (h : ∀ sub ∈ listed, ∀ sup, table.Extends sub sup → sup ∈ known) (queue : List TypeName) :
    fresh known ((fresh listed queue).flatMap fun sub => (table.info sub).supertypes) =
      fresh known (queue.flatMap fun sub => (table.info sub).supertypes) := by
  induction queue generalizing listed known with
  | nil => rfl
  | cons type rest ih =>
    rw [List.flatMap_cons, fresh_append]
    by_cases hlisted : type ∈ listed
    · have hnone : fresh known (table.info type).supertypes = [] := by
        refine List.eq_nil_iff_forall_not_mem.mpr fun sup hsup => ?_
        obtain ⟨hextends, hnew⟩ := mem_fresh_iff.mp hsup
        exact hnew (h type hlisted sup hextends)
      rw [fresh_cons_of_mem hlisted, hnone, List.append_nil, List.nil_append, ih h]
    · have hclosed : ∀ sub ∈ listed ++ [type], ∀ sup, table.Extends sub sup →
          sup ∈ known ++ fresh known (table.info type).supertypes := by
        intro sub hsub sup hextends
        by_cases hknown : sup ∈ known
        · exact List.mem_append_left _ hknown
        · rcases List.mem_append.mp hsub with hsub | hsub
          · exact absurd (h sub hsub sup hextends) hknown
          · cases List.mem_singleton.mp hsub
            exact List.mem_append_right _ (mem_fresh_iff.mpr ⟨hextends, hknown⟩)
      rw [fresh_cons_of_not_mem hlisted, List.flatMap_cons, fresh_append, ih hclosed]

/-- A climb that begins with the ends of the ways of one length goes on with those of the ways that
are one step longer. -/
theorem climb_eq_of_frontier {seen : List TypeName} {type : TypeName} {length : Nat}
    (h : table.Frontier seen (fresh seen ((table.ways type length).map (·.2)))) (rounds : Nat) :
    table.climb rounds seen (fresh seen ((table.ways type length).map (·.2))) =
      fresh seen ((List.range' length rounds).flatMap fun length =>
        (table.ways type length).map (·.2)) := by
  induction rounds generalizing seen length with
  | zero => rfl
  | succ rounds ih =>
    have hnext := h.step
    rw [above_eq_fresh, fresh_flatMap_fresh h.closed, ← map_snd_ways_succ] at hnext
    rw [climb, above_eq_fresh, fresh_flatMap_fresh h.closed, ← map_snd_ways_succ, ih hnext,
      List.range'_succ, List.flatMap_cons, fresh_append]

theorem ancestry_eq_eraseDups (table : ClassTable) (type : TypeName) :
    table.ancestry type =
      ((table.waysBelow type (table.entries.length + 1)).map (·.2)).eraseDups := by
  have hfirst : fresh [] ((table.ways type 0).map (·.2)) = [type] := rfl
  have hclimb := climb_eq_of_frontier (hfirst ▸ frontier_start type) (table.entries.length + 1)
  rw [hfirst] at hclimb
  rw [ancestry, hclimb, waysBelow, List.range_eq_range', List.map_flatMap]
  simp [fresh]

/-! ## Fields -/

/-- Looking for the first answer, an item without one may be left out. -/
theorem findSome?_filter_ne {α β : Type} [BEq α] [LawfulBEq α] {f : α → Option β} {silent : α}
    (h : f silent = none) (items : List α) :
    (items.filter (!· == silent)).findSome? f = items.findSome? f := by
  induction items with
  | nil => rfl
  | cons item items ih =>
    by_cases hitem : item = silent
    · rw [List.filter_cons_of_neg (by simp [hitem]), ih, List.findSome?_cons, hitem, h]
    · rw [List.filter_cons_of_pos (by simp [hitem]), List.findSome?_cons, ih,
        List.findSome?_cons]

/-- So may repetitions. -/
theorem findSome?_eraseDups {α β : Type} [BEq α] [LawfulBEq α] (f : α → Option β)
    (items : List α) : items.eraseDups.findSome? f = items.findSome? f := by
  match items with
  | [] => rfl
  | first :: rest =>
    rw [List.eraseDups_cons, List.findSome?_cons, List.findSome?_cons]
    cases hfirst : f first with
    | some answer => rfl
    | none =>
      dsimp only
      rw [findSome?_eraseDups f (rest.filter (!· == first)), findSome?_filter_ne hfirst]
termination_by items.length
decreasing_by exact Nat.lt_succ_of_le (List.length_filter_le _ _)

variable {unit : CompilationUnit} {type : TypeName} {name : String}

theorem field_eq_findSome? (unit : CompilationUnit) (type : TypeName) (name : String) :
    (ofUnit unit).field type name =
      ((ofUnit unit).ancestry type).findSome? (unit.declaredField? · name) := by
  unfold field
  congr 1
  funext sup
  exact find?_fields_info unit sup name

theorem field_eq_none_iff : (ofUnit unit).field type name = none ↔
    ∀ sup, ReflTransGen (ofUnit unit).Extends type sup → unit.declaredField? sup name = none := by
  rw [field_eq_findSome?, List.findSome?_eq_none_iff]
  simp only [mem_ancestry_iff]

/-- Of the ways to declarations of a field the first one decides. -/
theorem exists_first_way {f : FieldSymbol} (h : (ofUnit unit).field type name = some f) :
    ∃ way, (ofUnit unit).follow type way = some f.owner ∧
      unit.declaredField? f.owner name = some f ∧
      ∀ other sup, (ofUnit unit).follow type other = some sup → Shortlex (· < ·) other way →
        unit.declaredField? sup name = none := by
  rw [field_eq_findSome?, ancestry_eq_eraseDups, findSome?_eraseDups, List.findSome?_map,
    List.findSome?_eq_some_iff] at h
  obtain ⟨before, ⟨way, owner⟩, after, hways, hfound, hbefore⟩ := h
  have howner := CompilationUnit.owner_of_declaredField? hfound
  have hmem : (way, owner) ∈ before ++ (way, owner) :: after :=
    List.mem_append_right _ List.mem_cons_self
  rw [← hways, mem_waysBelow_iff] at hmem
  rw [howner]
  refine ⟨way, hmem.2, hfound, fun other sup hother hless => ?_⟩
  have hlength : other.length ≤ way.length := by
    rcases List.shortlex_def.mp hless with hlt | ⟨heq, -⟩ <;> omega
  have hlisted : (other, sup) ∈ before ++ (way, owner) :: after := by
    rw [← hways, mem_waysBelow_iff]
    exact ⟨by omega, hother⟩
  have hordered := hways ▸ pairwise_waysBelow type _
  rcases List.mem_append.mp hlisted with hfirst | hlast
  · exact hbefore _ hfirst
  · -- No way behind the one that was found comes before it.
    exfalso
    rcases List.mem_cons.mp hlast with hsame | hlast
    · cases hsame
      exact irrefl _ hless
    · have hmore := List.rel_of_pairwise_cons (List.pairwise_append.mp hordered).2.1 hlast
      exact asymm hless hmore

theorem field_eq_some_iff {f : FieldSymbol} : (ofUnit unit).field type name = some f ↔
    ∃ way, (ofUnit unit).follow type way = some f.owner ∧
      unit.declaredField? f.owner name = some f ∧
      ∀ other sup, (ofUnit unit).follow type other = some sup → Shortlex (· < ·) other way →
        unit.declaredField? sup name = none := by
  refine ⟨exists_first_way, ?_⟩
  rintro ⟨way, hway, hdeclared, hfirst⟩
  cases hfield : (ofUnit unit).field type name with
  | none =>
    have hnone := field_eq_none_iff.mp hfield f.owner (reached_iff_follow.mpr ⟨way, hway⟩)
    rw [hdeclared] at hnone
    cases hnone
  | some g =>
    obtain ⟨other, hother, hdeclared', hfirst'⟩ := exists_first_way hfield
    rcases trichotomous_of (Shortlex (· < ·)) way other with hless | rfl | hless
    · rw [hfirst' way f.owner hway hless] at hdeclared
      cases hdeclared
    · have hsame : f.owner = g.owner := Option.some.inj (hway.symm.trans hother)
      rw [hsame, hdeclared'] at hdeclared
      exact hdeclared
    · rw [hfirst other g.owner hother hless] at hdeclared'
      cases hdeclared'

theorem field_eq_some_iff_workOff {f : FieldSymbol} : (ofUnit unit).field type name = some f ↔
    ∃ before after, (ofUnit unit).workOff [] [type] = before ++ f.owner :: after ∧
      unit.declaredField? f.owner name = some f ∧
      ∀ sup ∈ before, unit.declaredField? sup name = none := by
  rw [field_eq_findSome?, ← workOff_eq_ancestry, List.findSome?_eq_some_iff]
  constructor
  · rintro ⟨before, owner, after, hlisted, hdeclared, hbefore⟩
    cases CompilationUnit.owner_of_declaredField? hdeclared
    exact ⟨before, after, hlisted, hdeclared, hbefore⟩
  · rintro ⟨before, after, hlisted, hdeclared, hbefore⟩
    exact ⟨before, f.owner, after, hlisted, hdeclared, hbefore⟩

end ClassTable

namespace CompilationUnit

/-- A field is found exactly if some type that links lead to declares one of that name. Then it is
the first one that its owner declares, and a way up leads to the owner such that no shorter way,
and none of that length that takes the earlier supertype where the two part, leads to any type
that declares such a field. This owner is the first such type that the queue of supertypes
lists, and it has the field itself. -/
theorem the_first_way_to_a_declaration_decides (unit : CompilationUnit) (type : TypeName)
    (name : String) :
    let table := ClassTable.ofUnit unit
    (table.field type name = none ↔
      ∀ sup, ReflTransGen table.Extends type sup → unit.declaredField? sup name = none) ∧
    (∀ f, table.field type name = some f ↔
      ∃ way, table.follow type way = some f.owner ∧ unit.declaredField? f.owner name = some f ∧
        (∀ other sup, table.follow type other = some sup → other.length < way.length →
          unit.declaredField? sup name = none) ∧
        ∀ other sup, table.follow type other = some sup → other.length = way.length →
          other < way → unit.declaredField? sup name = none) ∧
    (∀ f, table.field type name = some f ↔
      ∃ before after, table.workOff [] [type] = before ++ f.owner :: after ∧
        unit.declaredField? f.owner name = some f ∧
        ∀ sup ∈ before, unit.declaredField? sup name = none) ∧
    (table.field type name).bind (fun f => table.field f.owner name) = table.field type name := by
  intro table
  refine ⟨ClassTable.field_eq_none_iff, fun f => ?_, fun f => ClassTable.field_eq_some_iff_workOff,
    ?_⟩
  · rw [ClassTable.field_eq_some_iff]
    constructor
    · rintro ⟨way, hway, hdeclared, hfirst⟩
      refine ⟨way, hway, hdeclared, fun other sup hother hless => ?_,
        fun other sup hother hlength hless => ?_⟩
      · exact hfirst other sup hother (.of_length_lt hless)
      · exact hfirst other sup hother (List.shortlex_def.mpr (.inr ⟨hlength, hless⟩))
    · rintro ⟨way, hway, hdeclared, hshorter, hearlier⟩
      refine ⟨way, hway, hdeclared, fun other sup hother hless => ?_⟩
      rcases List.shortlex_def.mp hless with hless | ⟨hlength, hless⟩
      · exact hshorter other sup hother hless
      · exact hearlier other sup hother hlength hless
  · cases h : table.field type name with
    | none => rfl
    | some f =>
      obtain ⟨hname, -, hagain⟩ := ClassTable.field_eq_some h
      rw [Option.bind_some, ← hname, hagain]

end CompilationUnit

/-! ## A nearer declaration on a later way

Two ways lead up from the class below. The first one comes to a class whose own supertype declares
the field, the second one to a class that declares it twice. -/

namespace TwoDeclarations

def cls (name : String) (supertypes fieldTypes : List String) : ClassDecl :=
  .mk name supertypes false (fieldTypes.map fun type => ⟨"x", type, false, none, none, .unknown⟩) []
    [] [] .unknown

def unit : CompilationUnit :=
  ⟨none, none, [cls "Top" [] ["int"], cls "Left" ["Top"] [], cls "Right" [] ["Top", "int"],
    cls "Low" ["Left", "Right"] []]⟩

/-- The `x` of `Right`, whose type is that of its first declaration. -/
def x : FieldSymbol := ⟨⟨"Right"⟩, "x", ⟨"Top"⟩, false⟩

theorem the_x_of_low_is_that_of_right :
    let table := ClassTable.ofUnit unit
    table.follow ⟨"Low"⟩ [0, 0] = some ⟨"Top"⟩ ∧
      (unit.declaredField? ⟨"Top"⟩ "x").isSome = true ∧
      table.follow ⟨"Low"⟩ [1] = some ⟨"Right"⟩ ∧ table.field ⟨"Low"⟩ "x" = some x := by
  intro table
  have hlisted : table.ancestry ⟨"Low"⟩ =
      [⟨"Low"⟩, ⟨"Left"⟩] ++ x.owner :: [⟨"Top"⟩, .object] := by decide +kernel
  have hdeclared : unit.declaredField? x.owner "x" = some x := by decide +kernel
  have hbefore : ∀ sup ∈ [⟨"Low"⟩, ⟨"Left"⟩], unit.declaredField? sup "x" = none := by
    decide +kernel
  obtain ⟨-, -, hqueue, -⟩ := unit.the_first_way_to_a_declaration_decides ⟨"Low"⟩ "x"
  refine ⟨by decide +kernel, by decide +kernel, by decide +kernel, (hqueue x).mpr ?_⟩
  exact ⟨_, _, (table.workOff_eq_ancestry ⟨"Low"⟩).trans hlisted, hdeclared, hbefore⟩

end TwoDeclarations

end LockDiscipline
