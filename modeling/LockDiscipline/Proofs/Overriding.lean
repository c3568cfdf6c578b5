-- A call means one declaration of a method: that of the type itself, else the one that stands at or
-- below all others. Where a type has several supertypes there may be neither. Then the declaration
-- that the unit lists first decides, even if a class below it declares the method again.
import LockDiscipline.Proofs.Members
import LockDiscipline.Proofs.Supertypes

namespace LockDiscipline

/-! ## The declarations that a call may mean -/

namespace Member

/-- The class that declares the method. -/
def owner (member : Member) : TypeName := member.site.cls.type

/-- The entry of the method in the table of guards. -/
def entry (types : TypeLookup) (member : Member) : MethodEntry :=
  member.site.entry types member.method

/-- Whether objects of a type have the method, by that name and with so many parameters. A
constructor is not called on an object. -/
def isCandidate (types : TypeLookup) (type : TypeName) (name : String) (arity : Nat)
    (member : Member) : Bool :=
  !member.method.isConstructor &&
    (member.method.name == name && member.method.arity == arity
      && types.isSubtype type member.owner)

/-- Another declaration of a list stands in a class properly below that of the method. -/
def Overridden (types : TypeLookup) (among : List Member) (member : Member) : Prop :=
  ∃ other ∈ among, other.owner ≠ member.owner ∧ types.isSubtype other.owner member.owner = true

/-- The method stands in a class at or below the class of every declaration of a list. -/
def MostDerived (types : TypeLookup) (among : List Member) (member : Member) : Prop :=
  ∀ other ∈ among, types.isSubtype member.owner other.owner = true

instance (types : TypeLookup) (among : List Member) (member : Member) :
    Decidable (member.Overridden types among) := by
  unfold Overridden
  infer_instance

instance (types : TypeLookup) (among : List Member) (member : Member) :
    Decidable (member.MostDerived types among) := by
  unfold MostDerived
  infer_instance

/-- The declaration of a list that decides: one of the type itself, else a most derived one, else the
first. -/
def deciding (types : TypeLookup) (type : TypeName) (among : List Member) : Option Member :=
  (among.find? (·.owner == type)).or
    ((among.find? (·.MostDerived types among)).or among.head?)

end Member

namespace CompilationUnit

/-- The declarations of a unit that a call on an object of a type may mean, in order. -/
def candidates (unit : CompilationUnit) (types : TypeLookup) (type : TypeName) (name : String)
    (arity : Nat) : List Member :=
  unit.members.filter (·.isCandidate types type name arity)

theorem methods_eq_map_entry (unit : CompilationUnit) (types : TypeLookup) :
    (unit.validate types).guards.methods =
      (unit.members.filter (!·.method.isConstructor)).map (·.entry types) := by
  rw [methods_validate, members, List.filter_flatMap, List.map_flatMap]
  refine List.flatMap_congr fun site _ => ?_
  rw [ClassSite.entries, List.filter_map, List.map_map]
  rfl

/-- The table holds the entries of the candidates. -/
theorem callable_eq_map_entry (unit : CompilationUnit) (types : TypeLookup) (type : TypeName)
    (name : String) (arity : Nat) :
    (unit.validate types).guards.callable types type name arity =
      (unit.candidates types type name arity).map (·.entry types) := by
  rw [GuardTable.callable, methods_eq_map_entry, List.filter_map, List.filter_filter, candidates]
  congr 1
  refine List.filter_congr fun member _ => ?_
  exact Bool.and_comm _ _

/-- A call means the entry of the candidate that decides. -/
theorem method?_eq_map_deciding (unit : CompilationUnit) (types : TypeLookup) (type : TypeName)
    (name : String) (arity : Nat) :
    (unit.validate types).guards.method? types type name arity =
      (Member.deciding types type (unit.candidates types type name arity)).map
        (·.entry types) := by
  have hmost : GuardTable.isMostDerived types
        ((unit.candidates types type name arity).map (·.entry types)) ∘ Member.entry types =
      fun member : Member =>
        decide (member.MostDerived types (unit.candidates types type name arity)) := by
    funext member
    rw [Bool.eq_iff_iff, Function.comp_apply, GuardTable.isMostDerived, List.all_map,
      List.all_eq_true, decide_eq_true_iff]
    rfl
  rw [GuardTable.method?, callable_eq_map_entry]
  rw [List.find?_map, List.find?_map, List.head?_map, hmost, Member.deciding, Option.map_or,
    Option.map_or]
  rfl

end CompilationUnit

/-! ## The declaration that decides -/

namespace Member

variable {types : TypeLookup} {type : TypeName} {among : List Member} {member : Member}

theorem deciding_eq_none_iff : deciding types type among = none ↔ among = [] := by
  constructor
  · intro h
    rw [deciding, Option.or_eq_none_iff, Option.or_eq_none_iff] at h
    exact List.head?_eq_none_iff.mp h.2.2
  · rintro rfl
    rfl

/-- The declaration that decides is that of the type itself, or it is most derived, or there is none
of either kind and it is the first. -/
theorem deciding_eq_some (h : deciding types type among = some member) :
    member ∈ among ∧
      (member.owner = type ∨ member.MostDerived types among ∨
        ((∀ other ∈ among, other.owner ≠ type) ∧
          (∀ other ∈ among, ¬ other.MostDerived types among) ∧ among.head? = some member)) := by
  rcases Option.or_eq_some_iff.mp h with hown | ⟨hown, h⟩
  · exact ⟨List.mem_of_find?_eq_some hown, Or.inl (by simpa using List.find?_some hown)⟩
  · rcases Option.or_eq_some_iff.mp h with hmost | ⟨hmost, hfirst⟩
    · refine ⟨List.mem_of_find?_eq_some hmost, Or.inr (Or.inl ?_)⟩
      simpa using List.find?_some hmost
    · refine ⟨List.mem_of_head? hfirst, Or.inr (Or.inr ⟨?_, ?_, hfirst⟩)⟩
      · simpa using List.find?_eq_none.mp hown
      · simpa using List.find?_eq_none.mp hmost

end Member

namespace CompilationUnit

variable {unit : CompilationUnit}

/-- Where no way up leads back, nothing overrides the method of the type that the call is on. -/
theorem not_overridden_of_owner_eq (h : (ClassTable.ofUnit unit).Acyclic) {type : TypeName}
    {name : String} {arity : Nat} {member : Member} (howner : member.owner = type) :
    ¬ member.Overridden unit.types (unit.candidates unit.types type name arity) := by
  rintro ⟨other, hother, hne, hbelow⟩
  have habove : unit.types.isSubtype type other.owner = true := by
    have hcandidate := (List.mem_filter.mp hother).2
    rw [Member.isCandidate, Bool.and_eq_true, Bool.and_eq_true] at hcandidate
    exact hcandidate.2.2
  exact hne (h.isSubtype_antisymm hbelow (howner ▸ habove))

/-- Where no way up leads back, nothing overrides a most derived method. -/
theorem not_overridden_of_mostDerived (h : (ClassTable.ofUnit unit).Acyclic) {among : List Member}
    {member : Member} (hmost : member.MostDerived unit.types among) :
    ¬ member.Overridden unit.types among := by
  rintro ⟨other, hother, hne, hbelow⟩
  exact hne (h.isSubtype_antisymm hbelow (hmost other hother))

/-- A call on an object means a declaration that no other one overrides. -/
def MostDerivedDecides (unit : CompilationUnit) : Prop :=
  ∀ (type : TypeName) (name : String) (arity : Nat) (found : MethodEntry),
    (unit.validate unit.types).guards.method? unit.types type name arity = some found →
      ∃ member ∈ unit.candidates unit.types type name arity, member.entry unit.types = found ∧
        ¬ member.Overridden unit.types (unit.candidates unit.types type name arity)

/-- A call means no method exactly if neither the type nor any type above it declares one of that
name with so many parameters. Else it means one of these declarations: the first one of the unit, if
the type itself declares none and none of them is most derived. No other declaration overrides the
one that is meant exactly if the type itself declares one, or one of them is most derived, or the
first one happens not to be overridden. -/
theorem the_first_declaration_decides_where_none_is_most_derived (unit : CompilationUnit)
    (h : (ClassTable.ofUnit unit).Acyclic) (type : TypeName) (name : String) (arity : Nat) :
    let candidates := unit.candidates unit.types type name arity
    let found := (unit.validate unit.types).guards.method? unit.types type name arity
    (found = none ↔ candidates = []) ∧
      ∀ entry, found = some entry →
        ∃ member ∈ candidates, member.entry unit.types = entry ∧
          ((∀ own ∈ candidates, own.owner ≠ type) →
            (∀ least ∈ candidates, ¬ least.MostDerived unit.types candidates) →
              candidates.head? = some member) ∧
          (¬ member.Overridden unit.types candidates ↔
            (∃ own ∈ candidates, own.owner = type) ∨
              (∃ least ∈ candidates, least.MostDerived unit.types candidates) ∨
              ∃ first ∈ candidates.head?, ¬ first.Overridden unit.types candidates) := by
  intro candidates found
  have hfound : found =
      (Member.deciding unit.types type candidates).map (·.entry unit.types) :=
    unit.method?_eq_map_deciding unit.types type name arity
  refine ⟨?_, fun entry hentry => ?_⟩
  · rw [hfound, Option.map_eq_none_iff]
    exact Member.deciding_eq_none_iff
  · rw [hfound] at hentry
    obtain ⟨member, hdeciding, rfl⟩ := Option.map_eq_some_iff.mp hentry
    obtain ⟨hmem, hkind⟩ := Member.deciding_eq_some hdeciding
    refine ⟨member, hmem, rfl, ?_⟩
    rcases hkind with hown | hmost | ⟨hnoOwn, hnoMost, hfirst⟩
    · refine ⟨fun hnoOwn => absurd hown (hnoOwn member hmem), ?_⟩
      exact iff_of_true (not_overridden_of_owner_eq h hown) (Or.inl ⟨member, hmem, hown⟩)
    · refine ⟨fun _ hnoMost => absurd hmost (hnoMost member hmem), ?_⟩
      exact iff_of_true (not_overridden_of_mostDerived h hmost)
        (Or.inr (Or.inl ⟨member, hmem, hmost⟩))
    · refine ⟨fun _ _ => hfirst, ?_⟩
      constructor
      · intro hnot
        exact Or.inr (Or.inr ⟨member, hfirst, hnot⟩)
      · rintro (⟨own, hmem', hown⟩ | ⟨least, hmem', hleast⟩ | ⟨first, hfirst', hnot⟩)
        · exact absurd hown (hnoOwn own hmem')
        · exact absurd hleast (hnoMost least hmem')
        · cases hfirst.symm.trans hfirst'
          exact hnot

end CompilationUnit

/-! ## Two ways up

The class `Base` guards its method `m` by `mu`. `Left` and `Right` are directly below it, and `Both`
is below the two. `Left` declares `m` again, without a guard. -/

namespace TwoWaysUp

def m (guardedBy : Option GuardNote) : MethodDecl :=
  ⟨"m", .method, false, false, [], guardedBy, [], .unknown⟩

def base : ClassDecl :=
  .mk "Base" [] false [⟨"mu", "Object", false, none, none, .unknown⟩] [m (some ⟨"mu", .unknown⟩)] []
    [] .unknown

def left : ClassDecl := .mk "Left" ["Base"] false [] [m none] [] [] .unknown

/-- The unit with the given methods in `Right`. -/
def unit (methods : List MethodDecl) : CompilationUnit :=
  ⟨none, none,
    [base, left, .mk "Right" ["Base"] false [] methods [] [] .unknown,
      .mk "Both" ["Left", "Right"] false [] [] [] [] .unknown]⟩

/-- The lock that guards `m` in `Base`. -/
def mu : Guard := .field (.this ⟨"Base"⟩) ⟨⟨"Base"⟩, "mu", .object, false⟩

theorem acyclic_without_right : (ClassTable.ofUnit (unit [])).Acyclic :=
  ClassTable.acyclic_of_height (by decide +kernel)

theorem acyclic_with_right : (ClassTable.ofUnit (unit [m none])).Acyclic :=
  ClassTable.acyclic_of_height (by decide +kernel)

theorem the_m_of_left_decides_if_right_has_none :
    let unit := unit []
    let found := (unit.validate unit.types).guards.method? unit.types ⟨"Both"⟩ "m" 0
    (ClassTable.ofUnit unit).Acyclic ∧ found.map (·.owner) = some ⟨"Left"⟩ ∧
      ∃ entry, found = some entry ∧
        ∃ member ∈ unit.candidates unit.types ⟨"Both"⟩ "m" 0, member.entry unit.types = entry ∧
          ¬ member.Overridden unit.types (unit.candidates unit.types ⟨"Both"⟩ "m" 0) := by
  intro unit found
  have howner : found.map (·.owner) = some ⟨"Left"⟩ := by decide +kernel
  have hleast : ∃ least ∈ unit.candidates unit.types ⟨"Both"⟩ "m" 0,
      least.MostDerived unit.types (unit.candidates unit.types ⟨"Both"⟩ "m" 0) := by
    decide +kernel
  obtain ⟨entry, hentry, -⟩ := Option.map_eq_some_iff.mp howner
  obtain ⟨member, hmember, hsame, -, hnot⟩ :=
    (unit.the_first_declaration_decides_where_none_is_most_derived acyclic_without_right ⟨"Both"⟩
      "m" 0).2 entry hentry
  exact ⟨acyclic_without_right, howner, entry, hentry, member, hmember, hsame,
    hnot.mpr (Or.inr (Or.inl hleast))⟩

theorem the_m_of_base_decides_though_left_and_right_override_it :
    let unit := unit [m none]
    let found := (unit.validate unit.types).guards.method? unit.types ⟨"Both"⟩ "m" 0
    (ClassTable.ofUnit unit).Acyclic ∧
      found.map (fun entry => (entry.owner, entry.guard)) = some (⟨"Base"⟩, some mu) ∧
      ¬ unit.MostDerivedDecides := by
  intro unit found
  have hfound : found.map (fun entry => (entry.owner, entry.guard)) =
      some (⟨"Base"⟩, some mu) := by
    decide +kernel
  refine ⟨acyclic_with_right, hfound, fun h => ?_⟩
  obtain ⟨entry, hentry, howner⟩ := Option.map_eq_some_iff.mp hfound
  obtain ⟨member, hmember, rfl, hnot⟩ := h ⟨"Both"⟩ "m" 0 entry hentry
  have hbase : ∀ member ∈ unit.candidates unit.types ⟨"Both"⟩ "m" 0, member.owner = ⟨"Base"⟩ →
      member.Overridden unit.types (unit.candidates unit.types ⟨"Both"⟩ "m" 0) := by
    decide +kernel
  exact hnot (hbase member hmember (Prod.mk.inj howner).1)

end TwoWaysUp

end LockDiscipline
