-- A call needs the guard that the method was declared with, and the body of the method begins with
-- that guard. The two look the declaration up from different classes. They find the same one if the
-- class of the method is at or below every class that the call could mean.
import LockDiscipline.Proofs.EntryLocks
import LockDiscipline.Proofs.Overriding
import LockDiscipline.Proofs.RequiredGuards
import LockDiscipline.Proofs.Subtyping
import Mathlib.Data.List.Find

namespace LockDiscipline

/-! ## One declaration from two types -/

namespace Member

theorem isCandidate_iff {types : TypeLookup} {type : TypeName} {name : String} {arity : Nat}
    {member : Member} :
    member.isCandidate types type name arity = true ↔
      member.method.isConstructor = false ∧ member.method.name = name ∧
        member.method.arity = arity ∧ types.isSubtype type member.owner = true := by
  unfold isCandidate
  simp [and_assoc]

end Member

namespace CompilationUnit

variable {unit : CompilationUnit} {type : TypeName} {name : String} {arity : Nat} {callee : Member}

theorem isSubtype_of_mem_candidates {types : TypeLookup} {member : Member}
    (h : member ∈ unit.candidates types type name arity) :
    types.isSubtype type member.owner = true :=
  (Member.isCandidate_iff.mp (List.mem_filter.mp h).2).2.2.2

/-- A declaration is one of those that a call on an object of its own class may mean. -/
theorem mem_candidates_owner (h : callee ∈ unit.candidates unit.types type name arity) :
    callee ∈ unit.candidates unit.types callee.owner name arity := by
  obtain ⟨hmember, hcandidate⟩ := List.mem_filter.mp h
  obtain ⟨hc, hname, harity, -⟩ := Member.isCandidate_iff.mp hcandidate
  apply List.mem_filter.mpr
  refine ⟨hmember, Member.isCandidate_iff.mpr ⟨hc, hname, harity, ?_⟩⟩
  exact ClassTable.isSubtype_refl _ _

theorem exists_method?_of_candidate (h : callee ∈ unit.candidates unit.types type name arity) :
    ∃ entry, (unit.validate unit.types).guards.method? unit.types callee.owner name arity =
      some entry := by
  rw [← Option.ne_none_iff_exists']
  intro hnone
  rw [method?_eq_map_deciding, Option.map_eq_none_iff, Member.deciding_eq_none_iff] at hnone
  have hown := mem_candidates_owner h
  rw [hnone] at hown
  cases hown

/-- Where one class is at or below those of all candidates, its first candidate decides. -/
theorem deciding_eq_find? (h : (ClassTable.ofUnit unit).Acyclic)
    (hcallee : callee ∈ unit.candidates unit.types type name arity)
    (hleast : callee.MostDerived unit.types (unit.candidates unit.types type name arity)) :
    Member.deciding unit.types type (unit.candidates unit.types type name arity) =
      (unit.candidates unit.types type name arity).find? (·.owner == callee.owner) := by
  have hfound : ∃ first, (unit.candidates unit.types type name arity).find?
      (·.owner == callee.owner) = some first := by
    rw [← Option.isSome_iff_exists, List.find?_isSome]
    exact ⟨callee, hcallee, by simp⟩
  obtain ⟨first, hfirst⟩ := hfound
  unfold Member.deciding
  by_cases hown : type = callee.owner
  · rw [hown] at hfirst ⊢
    rw [hfirst]
    rfl
  · have hnoOwn : (unit.candidates unit.types type name arity).find? (·.owner == type) = none := by
      rw [List.find?_eq_none]
      intro other hother howner
      have hbelow := hleast other hother
      rw [beq_iff_eq] at howner
      rw [howner] at hbelow
      exact hown (h.isSubtype_antisymm (isSubtype_of_mem_candidates hcallee) hbelow)
    have hmost : (unit.candidates unit.types type name arity).find?
          (fun member => decide (member.MostDerived unit.types
            (unit.candidates unit.types type name arity))) = some first := by
      rw [← hfirst]
      apply List.find?_congr
      intro other hother
      rw [Bool.eq_iff_iff, decide_eq_true_iff, beq_iff_eq]
      constructor
      · intro hotherLeast
        exact h.isSubtype_antisymm (hotherLeast callee hcallee) (hleast other hother)
      · intro howner another hanother
        rw [howner]
        exact hleast another hanother
    rw [hnoOwn, hmost, hfirst]
    rfl

/-- Seen from a type for which a declaration is most derived and seen from the class that holds it,
a call means the same method. -/
theorem method?_eq_of_mostDerived (h : (ClassTable.ofUnit unit).Acyclic)
    (hcallee : callee ∈ unit.candidates unit.types type name arity)
    (hleast : callee.MostDerived unit.types (unit.candidates unit.types type name arity)) :
    (unit.validate unit.types).guards.method? unit.types type name arity =
      (unit.validate unit.types).guards.method? unit.types callee.owner name arity := by
  have hown : callee.MostDerived unit.types
      (unit.candidates unit.types callee.owner name arity) := by
    intro other hother
    exact isSubtype_of_mem_candidates hother
  rw [method?_eq_map_deciding, method?_eq_map_deciding, deciding_eq_find? h hcallee hleast,
    deciding_eq_find? h (mem_candidates_owner hcallee) hown]
  congr 1
  unfold candidates
  rw [List.find?_filter, List.find?_filter]
  apply List.find?_congr
  intro other _
  -- Both lists hold every method of that name and arity in the class of the callee.
  rw [decide_eq_decide, Member.isCandidate_iff, Member.isCandidate_iff, beq_iff_eq]
  have hbelow : ∀ sub, other.owner = callee.owner →
      (unit.types.isSubtype sub other.owner = true ↔
        unit.types.isSubtype sub callee.owner = true) := by
    intro sub howner
    rw [howner]
  have hcaller : unit.types.isSubtype type callee.owner = true :=
    isSubtype_of_mem_candidates hcallee
  have hself : unit.types.isSubtype callee.owner callee.owner = true :=
    ClassTable.isSubtype_refl _ _
  constructor
  · rintro ⟨⟨hc, hname, harity, -⟩, howner⟩
    exact ⟨⟨hc, hname, harity, (hbelow _ howner).mpr hself⟩, howner⟩
  · rintro ⟨⟨hc, hname, harity, -⟩, howner⟩
    exact ⟨⟨hc, hname, harity, (hbelow _ howner).mpr hcaller⟩, howner⟩

end CompilationUnit

/-! ## What a call needs -/

namespace Setting

variable {setting : Setting} {start : Place} {path : Path} {name : String} {args : List Expr}
  {span : Span} {found : MethodEntry}

/-- A call on an object needs the guard of the method that the type of the object has. -/
theorem accessAt_receiverCall {receiver : Expr} {type : TypeName}
    (htype : (setting.canonical (setting.placeAt start path).locals receiver).type = some type)
    (hfound : setting.methodOf type name args.length = some found) :
    setting.accessAt start ⟨path, .call (some receiver) name args span⟩ =
      found.guard.map fun declared =>
        ⟨.call (some receiver) name args span,
          declared.rebind (setting.canonical (setting.placeAt start path).locals receiver),
          (setting.placeAt start path).held⟩ := by
  have htarget : setting.target? (setting.placeAt start path).locals
        (.call (some receiver) name args span) =
      some (.method found, setting.canonical (setting.placeAt start path).locals receiver) := by
    change setting.callTarget _ receiver name args.length = _
    unfold Setting.callTarget
    simp only [htype, hfound]
    rfl
  rw [accessAt_eq_of_target, htarget]
  rfl

/-- A call without a receiver needs the guard of the method that the first class around has. -/
theorem accessAt_bareCall {inner outer : List Frame} {frame : Frame}
    (hframes : setting.scope.frames = inner ++ frame :: outer)
    (hinner : ∀ other ∈ inner, setting.methodOf other.name name args.length = none)
    (hfound : setting.methodOf frame.name name args.length = some found) :
    setting.accessAt start ⟨path, .call none name args span⟩ =
      found.guard.map fun declared =>
        ⟨.call none name args span,
          if !frame.reachable || inner.length == 0 then declared
          else declared.rebind (.enclosing inner.length frame.name),
          (setting.placeAt start path).held⟩ := by
  have hskipped : ∀ p ∈ inner.zipIdx,
      ((setting.methodOf p.1.name name args.length).map (p.1, p.2, ·)) = none := by
    rintro ⟨other, level⟩ hmem
    rw [Option.map_eq_none_iff]
    exact hinner other (List.mem_of_getElem? (List.mem_zipIdx_iff_getElem?.mp hmem))
  have htarget : setting.target? (setting.placeAt start path).locals (.call none name args span) =
      some (.method found, bareReceiver frame inner.length) := by
    change setting.bareTarget name args.length = _
    unfold bareTarget
    rw [hframes, List.zipIdx_append, List.findSome?_append,
      List.findSome?_eq_none_iff.mpr hskipped, Option.none_or, List.zipIdx_cons,
      List.findSome?_cons]
    simp [hfound]
  rw [accessAt_eq_of_target, htarget]
  simp only [Option.bind_some, Target.guard?, rebind_bareReceiver]

end Setting

namespace CompilationUnit

/-- Let a type have a method that is declared at or below every other one of its name and number of
parameters that the type has. The type and the class of that declaration then find the same entry.
So the method begins with its monitor and the guard of that entry, and a call on an object of the
type needs the same guard, rebound to the object. A call without a receiver that comes to the class
of the type as the first one around with such a method needs the guard as it is, or rebound to the
object so many classes out. -/
theorem a_call_needs_what_the_method_begins_with (unit : CompilationUnit) (options : Options)
    (hobject : unit.LeavesObject) (hlinks : (ClassTable.ofUnit unit).NoCircle) (type : TypeName)
    (name : String) (arity : Nat) (callee : Member)
    (hcallee : callee ∈ unit.candidates unit.types type name arity)
    (hleast : callee.MostDerived unit.types (unit.candidates unit.types type name arity)) :
    let lookup := (unit.validate unit.types).guards.method? unit.types
    ∃ entry, lookup callee.owner name arity = some entry ∧ lookup type name arity = some entry ∧
      ((unit.setting options callee).entryLocks callee.method).locks =
        (callee.monitor ++ entry.guard.toList).eraseDups ∧
      ∀ caller : Member, caller.method.isConstructor = false →
        let setting := unit.setting options caller
        let start := setting.start caller.method
        setting.accesses caller.method =
            ((Piece.block caller.method.body).occurrences []).filterMap (setting.accessAt start) ∧
          ∀ (path : Path) (args : List Expr) (span : Span), args.length = arity →
            let place := setting.placeAt start path
            (∀ receiver, (setting.canonical place.locals receiver).type = some type →
              let call := Expr.call (some receiver) name args span
              setting.accessAt start ⟨path, call⟩ = entry.guard.map fun declared =>
                ⟨call, declared.rebind (setting.canonical place.locals receiver), place.held⟩) ∧
            ∀ inner outer, caller.scope.frames = inner ++ ⟨type, true⟩ :: outer →
              (∀ frame ∈ inner, lookup frame.name name arity = none) →
              let call := Expr.call none name args span
              setting.accessAt start ⟨path, call⟩ = entry.guard.map fun declared =>
                ⟨call, if inner.length = 0 then declared
                  else declared.rebind (.enclosing inner.length type), place.held⟩ := by
  intro lookup
  obtain ⟨entry, hentry⟩ := exists_method?_of_candidate hcallee
  have hfound : lookup type name arity = some entry :=
    (method?_eq_of_mostDerived (hobject.objectOnTop.acyclic hlinks) hcallee hleast).trans hentry
  obtain ⟨hmember, hcandidate⟩ := List.mem_filter.mp hcallee
  obtain ⟨-, rfl, rfl, -⟩ := Member.isCandidate_iff.mp hcandidate
  refine ⟨entry, hentry, hfound, locks_entryLocks_of_method? options hmember hentry, ?_⟩
  intro caller hc setting start
  refine ⟨setting.accesses_eq_occurrences hc, ?_⟩
  intro path args span hargs place
  rw [← hargs] at hfound
  constructor
  · intro receiver hreceiver call
    exact Setting.accessAt_receiverCall hreceiver hfound
  · intro inner outer hframes hinner call
    rw [← hargs] at hinner
    have haccess : setting.accessAt start ⟨path, call⟩ = _ :=
      Setting.accessAt_bareCall hframes hinner hfound
    simpa using haccess

end CompilationUnit

/-! ## An inherited method

The class `Base` guards its method `m` by `mu`. The class `Outer` inherits it, and a method of the
class `Inner` inside `Outer` calls it on another object and on the object around. -/

namespace Inherited

def base : ClassDecl :=
  .mk "Base" [] false [⟨"mu", "Object", false, none, none, .unknown⟩]
    [⟨"m", .method, false, false, [], some ⟨"mu", .unknown⟩, [], .unknown⟩] [] [] .unknown

def callOnOther : Expr := .call (some (.name "other" .unknown)) "m" [] .unknown

def callOnOuter : Expr := .call none "m" [] .unknown

def run : MethodDecl :=
  ⟨"run", .method, false, false, [⟨"other", "Outer"⟩], none,
    [.evaluate callOnOther, .evaluate callOnOuter], .unknown⟩

def inner : ClassDecl := .mk "Outer.Inner" [] false [] [run] [] [] .unknown

def unit : CompilationUnit :=
  ⟨none, none, [base, .mk "Outer" ["Base"] false [] [] [] [inner] .unknown]⟩

/-- The method `m` of `Base`. -/
def callee : Member :=
  ⟨⟨base, [⟨⟨"Base"⟩, false⟩]⟩,
    ⟨"m", .method, false, false, [], some ⟨"mu", .unknown⟩, [], .unknown⟩⟩

def caller : Member := ⟨⟨inner, [⟨⟨"Outer"⟩, false⟩, ⟨⟨"Outer.Inner"⟩, false⟩]⟩, run⟩

/-- The lock `mu` of an object. -/
def mu (object : Guard) : Guard := .field object ⟨⟨"Base"⟩, "mu", .object, false⟩

/-- The way to the second call. -/
def second : Path := [.within, .behind [.evaluate callOnOther]]

theorem callee_mem_candidates :
    callee ∈ unit.candidates unit.types ⟨"Outer"⟩ "m" 0 := by
  apply List.mem_filter.mpr
  exact ⟨CompilationUnit.mem_members.mpr ⟨List.mem_cons_self, List.mem_cons_self⟩,
    by decide +kernel⟩

theorem the_inherited_m_needs_the_mu_of_its_object :
    let setting := unit.setting .default caller
    let start := setting.start run
    unit.LeavesObject ∧ (ClassTable.ofUnit unit).NoCircle ∧
      callee ∈ unit.candidates unit.types ⟨"Outer"⟩ "m" 0 ∧
      callee.MostDerived unit.types (unit.candidates unit.types ⟨"Outer"⟩ "m" 0) ∧
      ((unit.setting .default callee).entryLocks callee.method).locks = [mu (.this ⟨"Base"⟩)] ∧
      setting.accessAt start ⟨[.within, .behind []], callOnOther⟩ =
        some ⟨callOnOther, mu (.verbatim "other" (some ⟨"Outer"⟩)), .empty⟩ ∧
      setting.accessAt start ⟨second, callOnOuter⟩ =
        some ⟨callOnOuter, mu (.enclosing 1 ⟨"Outer"⟩), .empty⟩ := by
  intro setting start
  have hobject : unit.LeavesObject := by decide +kernel
  have hlinks : (ClassTable.ofUnit unit).NoCircle :=
    ClassTable.noCircle_of_height (by decide +kernel)
  have hleast : callee.MostDerived unit.types
      (unit.candidates unit.types ⟨"Outer"⟩ "m" 0) := by
    decide +kernel
  obtain ⟨entry, hentry, -, hlocks, hcalls⟩ :=
    unit.a_call_needs_what_the_method_begins_with .default hobject hlinks ⟨"Outer"⟩ "m" 0 callee
      callee_mem_candidates hleast
  have hguard : entry.guard = some (mu (.this ⟨"Base"⟩)) := by
    have hlookup : ((unit.validate unit.types).guards.method? unit.types ⟨"Base"⟩ "m" 0).map
        (·.guard) = some (some (mu (.this ⟨"Base"⟩))) := by
      decide +kernel
    rw [show (unit.validate unit.types).guards.method? unit.types ⟨"Base"⟩ "m" 0 = some entry
      from hentry] at hlookup
    exact Option.some.inj hlookup
  have hcall := (hcalls caller rfl).2
  rw [hguard] at hlocks hcall
  refine ⟨hobject, hlinks, callee_mem_candidates, hleast, hlocks, ?_, ?_⟩
  · exact (hcall [.within, .behind []] [] .unknown rfl).1 (.name "other" .unknown) rfl
  · refine (hcall second [] .unknown rfl).2 [⟨⟨"Outer.Inner"⟩, true⟩] [] rfl ?_
    intro frame hframe
    cases List.mem_singleton.mp hframe
    have hnone : ((unit.validate unit.types).guards.method? unit.types ⟨"Outer.Inner"⟩ "m"
        0).isNone = true := by
      decide +kernel
    exact Option.isNone_iff_eq_none.mp hnone

end Inherited

end LockDiscipline
