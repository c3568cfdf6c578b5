-- The body of a method begins with the monitor that the method takes and with a guard that its
-- callers hold. The guard is looked up by class, name and number of parameters. Overloads can have
-- all of these in common, and then each begins with the guard of the one that is declared first.
import LockDiscipline.Proofs.HeldSet
import LockDiscipline.Proofs.Members

namespace LockDiscipline

/-! ## The lookup of a method of one class -/

namespace ClassTable

theorem isSubtype_refl (table : ClassTable) (type : TypeName) :
    table.isSubtype type type = true := by
  simp [isSubtype]

end ClassTable

namespace ClassSite

variable (types : TypeLookup) (site : ClassSite)

/-- The first method of a class that has the name of a method and as many parameters. -/
def firstNamesake (method : MethodDecl) : Option MethodDecl :=
  site.cls.methods.find? fun other =>
    !other.isConstructor && (other.name == method.name && other.arity == method.arity)

theorem exists_firstNamesake {site : ClassSite} {method : MethodDecl}
    (h : method ∈ site.cls.methods) (hc : method.isConstructor = false) :
    ∃ first, site.firstNamesake method = some first := by
  rw [← Option.isSome_iff_exists, firstNamesake, List.find?_isSome]
  exact ⟨method, h, by simp [hc]⟩

/-- An entry that a call on an object of exactly one class takes before all others. -/
def isOwn (method : MethodDecl) (entry : MethodEntry) : Bool :=
  (entry.name == method.name && entry.arity == method.arity
    && types.isSubtype site.cls.type entry.owner) && entry.owner == site.cls.type

theorem find?_entries (hrefl : types.isSubtype site.cls.type site.cls.type = true)
    (method : MethodDecl) :
    (site.entries types).find? (site.isOwn types method) =
      (site.firstNamesake method).map (site.entry types) := by
  rw [entries, List.find?_map, List.find?_filter, firstNamesake]
  congr 2
  funext other
  rw [Bool.eq_iff_iff]
  simp [isOwn, entry, hrefl]

theorem find?_entries_of_ne {site other : ClassSite} (h : other.cls.type ≠ site.cls.type)
    (method : MethodDecl) : (other.entries types).find? (site.isOwn types method) = none := by
  rw [List.find?_eq_none]
  intro entry hentry
  obtain ⟨m, -, rfl⟩ := List.mem_map.mp hentry
  simp [isOwn, ClassSite.entry, h]

end ClassSite

namespace CompilationUnit

theorem type_ne_of_distinct {unit : CompilationUnit} (h : unit.DistinctNames)
    {before later : List ClassSite} {site other : ClassSite}
    (hsplit : unit.sites = before ++ site :: later) (hother : other ∈ before) :
    other.cls.type ≠ site.cls.type := by
  intro heq
  have hnodup : (unit.sites.map (·.cls.name)).Nodup := by
    have hmap := congrArg (List.map ClassDecl.name) unit.map_cls_sites
    rw [List.map_map] at hmap
    exact hmap ▸ h
  rw [hsplit, List.map_append, List.nodup_append] at hnodup
  exact hnodup.2.2 _ (List.mem_map_of_mem hother) _ (List.mem_map_of_mem List.mem_cons_self)
    (congrArg TypeName.text heq)

/-- A call on an object of exactly one class means the first of its methods of that name and number
of parameters. -/
theorem method?_eq_first {unit : CompilationUnit} (h : unit.DistinctNames) {types : TypeLookup}
    {site : ClassSite} (hsite : site ∈ unit.sites)
    (hrefl : types.isSubtype site.cls.type site.cls.type = true) {method first : MethodDecl}
    (hfirst : site.firstNamesake method = some first) :
    (unit.validate types).guards.method? types site.cls.type method.name method.arity =
      some (site.entry types first) := by
  obtain ⟨before, later, hsplit⟩ := List.append_of_mem hsite
  have hbefore : before.findSome?
      (fun other => (other.entries types).find? (site.isOwn types method)) = none := by
    rw [List.findSome?_eq_none_iff]
    intro other hother
    exact ClassSite.find?_entries_of_ne types (type_ne_of_distinct h hsplit hother) method
  have hown : ((unit.validate types).guards.callable types site.cls.type method.name
      method.arity).find? (·.owner == site.cls.type) = some (site.entry types first) := by
    have hpred : (fun e : MethodEntry => decide ((e.name == method.name && e.arity == method.arity
        && types.isSubtype site.cls.type e.owner) = true ∧ (e.owner == site.cls.type) = true)) =
        site.isOwn types method := by
      funext e
      rw [ClassSite.isOwn, Bool.decide_and, Bool.decide_eq_true, Bool.decide_eq_true]
    rw [GuardTable.callable, List.find?_filter, hpred, methods_validate, List.find?_flatMap, hsplit,
      List.findSome?_append, hbefore, List.findSome?_cons, site.find?_entries types hrefl, hfirst]
    rfl
  rw [GuardTable.method?, hown]
  rfl

end CompilationUnit

/-! ## What a method begins with -/

namespace Member

variable (member : Member)

/-- The monitor that a method takes, if it takes one. -/
def monitor : List Guard :=
  if !member.method.isSynchronized then []
  else if member.method.isStatic then [.classLit member.site.cls.type]
  else [.this member.site.cls.type]

/-- The locks that a member begins with if its guard is the one of a method. -/
def locksWith (types : TypeLookup) (method : MethodDecl) : List Guard :=
  (member.monitor ++ (member.site.acceptedGuard types method).toList).eraseDups

/-- The guard of a method, unless it is the monitor that the member takes. -/
def guardBeyondMonitor (types : TypeLookup) (method : MethodDecl) : List Guard :=
  (member.site.acceptedGuard types method).toList.filter (!member.monitor.contains ·)

theorem locksWith_eq (types : TypeLookup) (method : MethodDecl) :
    member.locksWith types method = member.monitor ++ member.guardBeyondMonitor types method := by
  have hmonitor : member.monitor.eraseDups = member.monitor := by
    unfold monitor
    split
    · rfl
    · split <;> rfl
  rw [locksWith, eraseDups_append, hmonitor, guardBeyondMonitor]
  cases member.site.acceptedGuard types method with
  | none => exact (List.append_nil _).symm
  | some guard =>
    rw [Option.toList_some, List.foldl_cons, List.foldl_nil, withLock]
    by_cases h : member.monitor.contains guard <;> simp [h]

theorem locksWith_beq_iff (types : TypeLookup) (method other : MethodDecl) :
    (member.locksWith types method == member.locksWith types other) = true ↔
      (member.guardBeyondMonitor types method == member.guardBeyondMonitor types other) = true := by
  rw [locksWith_eq, locksWith_eq]
  unfold monitor
  split
  · rfl
  · split <;> simp

end Member

namespace CompilationUnit

/-- Each method begins with its monitor and with the guard that its own annotation names. -/
def OwnGuardsOnly (unit : CompilationUnit) (options : Options) : Prop :=
  ∀ member ∈ unit.members, member.method.isConstructor = false →
    ((unit.setting options member).entryLocks member.method).locks =
      member.locksWith unit.types member.method

/-- A method begins with its monitor and with the guard of the entry that is found for it. -/
theorem locks_entryLocks_of_method? {unit : CompilationUnit} (options : Options) {member : Member}
    (hmember : member ∈ unit.members) {found : MethodEntry}
    (hfound : (unit.validate unit.types).guards.method? unit.types member.site.cls.type
      member.method.name member.method.arity = some found) :
    ((unit.setting options member).entryLocks member.method).locks =
      (member.monitor ++ found.guard.toList).eraseDups := by
  have hclass : (unit.setting options member).scope.currentClass = some member.site.cls.type :=
    ClassSite.currentClass_scope (innermost_of_mem (mem_members.mp hmember).1) _
  have hmethod : (unit.setting options member).methodOf member.site.cls.type member.method.name
      member.method.arity = some found := hfound
  unfold Setting.entryLocks
  rw [hclass]
  dsimp only
  rw [hmethod]
  exact HeldSet.holds_nothing.plusAll _

theorem locks_entryLocks {unit : CompilationUnit} (h : unit.DistinctNames) (options : Options)
    {member : Member} (hmember : member ∈ unit.members) {first : MethodDecl}
    (hfirst : member.site.firstNamesake member.method = some first) :
    ((unit.setting options member).entryLocks member.method).locks =
      member.locksWith unit.types first := by
  have hrefl : unit.types.isSubtype member.site.cls.type member.site.cls.type = true :=
    ClassTable.isSubtype_refl ..
  exact locks_entryLocks_of_method? options hmember
    (method?_eq_first h (mem_members.mp hmember).1 hrefl hfirst)

/-- A method begins with its monitor and with the guard of the first method of its class that has
its name and as many parameters. So it begins with its own guard exactly if its own guard and that
of the first such method are the same, or differ only by the monitor. -/
theorem a_method_begins_with_the_guard_of_its_first_namesake (unit : CompilationUnit)
    (options : Options) (h : unit.DistinctNames) (member : Member) (hmember : member ∈ unit.members)
    (hc : member.method.isConstructor = false) :
    ∃ first, member.site.firstNamesake member.method = some first ∧
      ((unit.setting options member).entryLocks member.method).locks =
        member.locksWith unit.types first ∧
      (((unit.setting options member).entryLocks member.method).locks ==
          member.locksWith unit.types member.method ↔
        member.guardBeyondMonitor unit.types first ==
          member.guardBeyondMonitor unit.types member.method) := by
  obtain ⟨first, hfirst⟩ := ClassSite.exists_firstNamesake (mem_members.mp hmember).2 hc
  have hlocks := locks_entryLocks h options hmember hfirst
  refine ⟨first, hfirst, hlocks, ?_⟩
  rw [hlocks]
  exact member.locksWith_beq_iff unit.types first member.method

end CompilationUnit

namespace Counter

/-- The first `m`: its callers hold `mu`. -/
def guarded : MethodDecl := method [⟨"a", "int"⟩] (some ⟨"mu", .unknown⟩) []

/-- The second `m`: it has no annotation. -/
def unguarded : MethodDecl := method [⟨"a", "String"⟩] none [readX]

/-- A unit in which both are declared. -/
def overloads : CompilationUnit := unit [guarded, unguarded]

def second : Member := member [guarded, unguarded] unguarded

theorem second_mem_overloads : second ∈ overloads.members :=
  CompilationUnit.mem_members.mpr
    ⟨List.mem_cons_self, List.mem_cons_of_mem _ List.mem_cons_self⟩

theorem an_overload_begins_with_the_guard_of_the_first :
    overloads.DistinctNames ∧ second ∈ overloads.members ∧ second.method.isConstructor = false ∧
      ((overloads.setting .default second).entryLocks second.method).locks = [mu] := by
  have hdistinct : overloads.DistinctNames := by decide
  obtain ⟨first, hfirst, hlocks, -⟩ :=
    CompilationUnit.a_method_begins_with_the_guard_of_its_first_namesake overloads .default
      hdistinct second second_mem_overloads rfl
  refine ⟨hdistinct, second_mem_overloads, rfl, ?_⟩
  cases hfirst
  rw [hlocks]
  decide +kernel

theorem an_overload_does_not_begin_with_its_own_guard :
    overloads.DistinctNames ∧ ¬ overloads.OwnGuardsOnly .default := by
  refine ⟨by decide, fun h => ?_⟩
  have hlocks := h second second_mem_overloads rfl
  have hfirst : ((overloads.setting .default second).entryLocks second.method).locks = [mu] := by
    decide +kernel
  cases hfirst.symm.trans hlocks

end Counter

end LockDiscipline
