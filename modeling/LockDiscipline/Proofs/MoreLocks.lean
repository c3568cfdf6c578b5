-- What is held decides nothing but the verdicts. Two walks of the same statements, the second with
-- more held at the beginning, report the same accesses with the same guards, and at each of them the
-- second holds more. So no access that is in order in the first walk is a violation in the second.
import LockDiscipline.Check.Verdict
import LockDiscipline.Proofs.LexicalLocks
import LockDiscipline.Proofs.Signatures

namespace LockDiscipline

open Piece (Occurrence)

/-! ## Sets with more in them -/

namespace HeldSet

/-- Every lock of one set is in the other. -/
def Within (held more : HeldSet) : Prop :=
  ∀ lock, held.holds lock = true → more.holds lock = true

theorem within_refl (held : HeldSet) : held.Within held := fun _ h => h

theorem Within.enter {held more : HeldSet} (h : held.Within more) :
    held.enter.Within more.enter := by
  intro lock
  rw [holds_enter, holds_enter]
  exact h lock

theorem Within.plusAll {held more : HeldSet} (h : held.Within more) (locks : List Guard) :
    (held.plusAll locks).Within (more.plusAll locks) := by
  intro lock
  rw [holds_plusAll, holds_plusAll, Bool.or_eq_true, Bool.or_eq_true]
  exact Or.imp_left (h lock)

/-- Taking more locks holds more, whatever else is taken. -/
theorem within_plusAll_append (held : HeldSet) (locks more : List Guard) :
    (held.plusAll more).Within (held.plusAll (locks ++ more)) := by
  intro lock
  rw [holds_plusAll, holds_plusAll, List.contains_append, Bool.or_eq_true, Bool.or_eq_true,
    Bool.or_eq_true]
  exact Or.imp_right Or.inr

theorem within_enter_plus (held : HeldSet) (lock : Guard) :
    held.Within (held.enter.plus lock) := by
  intro other hother
  change (held.enter.plusAll [lock]).holds other = true
  rw [holds_plusAll, holds_enter, hother, Bool.true_or]

end HeldSet

/-! ## Places with more held -/

/-- Two places that differ at most in that more is held at the second. -/
structure Place.HoldsMore (place more : Place) : Prop where
  locals : place.locals = more.locals
  pending : place.pending = more.pending
  held : place.held.Within more.held

theorem Place.holdsMore_opening {fewer more : HeldSet} (h : fewer.Within more) (locals : Locals) :
    (Place.opening locals fewer).HoldsMore (.opening locals more) :=
  ⟨rfl, rfl, h⟩

namespace Setting

variable (setting : Setting) {place more start : Place}

theorem within_insideTry {held more : HeldSet} (h : held.Within more) (credited : List Guard) :
    (insideTry held credited).Within (insideTry more credited) := by
  intro lock
  rw [holds_insideTry, holds_insideTry, Bool.or_eq_true, Bool.or_eq_true]
  exact Or.imp_left (h lock)

/-- A step into a part keeps the difference: what it takes, it takes at both places. -/
theorem holdsMore_into (h : place.HoldsMore more) (step : Step) :
    (setting.into step place).HoldsMore (setting.into step more) := by
  obtain ⟨hlocals, hpending, hheld⟩ := h
  refine ⟨?_, ?_, ?_⟩
  · rw [into, into, hlocals]
  · rw [into, into, hlocals]
  · rw [into, into]
    cases step with
    | within | behind _ | setUp _ | binding _ _ => exact hheld
    | monitor lock =>
      simp only [heldInto, hlocals]
      exact hheld.enter.plusAll [setting.canonical more.locals lock]
    | attempt body atEnd =>
      simp only [heldInto, hlocals, hpending]
      exact within_insideTry hheld _
    | handler body atEnd name type =>
      simp only [heldInto, hlocals, hpending]
      exact within_insideTry hheld _
    | lambda params => exact HeldSet.within_refl _

theorem holdsMore_placeAt (h : start.HoldsMore more) (path : Path) :
    (setting.placeAt start path).HoldsMore (setting.placeAt more path) := by
  induction path with
  | nil => exact h
  | cons step path ih => exact setting.holdsMore_into ih step

/-- A path leads through a lambda. -/
def InLambda (path : Path) : Prop := ∃ step ∈ path, step.isLambda = true

/-- Inside a lambda the difference is gone, for the body of a lambda begins with nothing. -/
theorem placeAt_eq_of_inLambda (h : start.HoldsMore more) {path : Path} (hpath : InLambda path) :
    setting.placeAt start path = setting.placeAt more path := by
  induction path with
  | nil =>
    obtain ⟨step, hstep, -⟩ := hpath
    cases hstep
  | cons step path ih =>
    rw [placeAt_cons, placeAt_cons]
    cases hlambda : step.isLambda with
    | true =>
      have hlocals := (setting.holdsMore_placeAt h path).locals
      cases step with
      | lambda params => rw [into, into, hlocals, heldInto, heldInto]
      | _ => cases hlambda
    | false =>
      rw [ih]
      obtain ⟨inner, hinner, hlambda'⟩ := hpath
      rcases List.mem_cons.mp hinner with rfl | hinner
      · cases hlambda.symm.trans hlambda'
      · exact ⟨inner, hinner, hlambda'⟩

/-! ## The same accesses -/

/-- The accesses of a block that is read at a place, each with the way to it. -/
def located (start : Place) (body : List Stmt) : List (Path × Access) :=
  ((Piece.block body).occurrences []).filterMap fun occurrence =>
    (setting.accessAt start occurrence).map (occurrence.path, ·)

theorem map_snd_located (start : Place) (body : List Stmt) :
    (setting.located start body).map Prod.snd = setting.walk start (.block body) := by
  have hwalk := setting.walk_eq_occurrences start [] (.block body)
  rw [placeAt_nil] at hwalk
  rw [hwalk, located, List.map_filterMap]
  congr 1
  funext occurrence
  rw [Option.map_map]
  exact congrFun Option.map_id _

/-- Two accesses at one place of a program that differ at most in that more is held at the second,
and outside lambdas only. -/
structure SameAccess (access more : Path × Access) : Prop where
  path : access.1 = more.1
  expr : access.2.expr = more.2.expr
  guard : access.2.guard = more.2.guard
  held : access.2.held.Within more.2.held
  inLambda : InLambda access.1 → access.2.held = more.2.held

/-- Two readings of a list that agree on what they find, item by item, find lists that agree. -/
theorem forall₂_filterMap {α β : Type} {R : β → β → Prop} {f g : α → Option β} {items : List α}
    (h : ∀ item ∈ items, Option.Rel R (f item) (g item)) :
    List.Forall₂ R (items.filterMap f) (items.filterMap g) := by
  induction items with
  | nil => exact .nil
  | cons item rest ih =>
    have hrest := ih fun other hother => h other (List.mem_cons_of_mem _ hother)
    have hitem := h item List.mem_cons_self
    rw [List.filterMap_cons, List.filterMap_cons]
    cases hf : f item with
    | none =>
      cases hg : g item with
      | none => exact hrest
      | some y =>
        rw [hf, hg] at hitem
        cases hitem
    | some x =>
      cases hg : g item with
      | none =>
        rw [hf, hg] at hitem
        cases hitem
      | some y =>
        rw [hf, hg] at hitem
        cases hitem with
        | some hxy => exact .cons hxy hrest

/-- Both walks find the same accesses, one by one. -/
theorem sameAccess_located (h : start.HoldsMore more) (body : List Stmt) :
    List.Forall₂ SameAccess (setting.located start body) (setting.located more body) := by
  refine forall₂_filterMap fun occurrence _ => ?_
  have hplaces := setting.holdsMore_placeAt h occurrence.path
  rw [accessAt, accessAt, accessOf, accessOf, hplaces.locals]
  cases setting.needs (setting.placeAt more occurrence.path).locals occurrence.expr with
  | none => exact .none
  | some guard =>
    refine .some ⟨rfl, rfl, rfl, hplaces.held, fun hlambda => ?_⟩
    exact congrArg Place.held (setting.placeAt_eq_of_inLambda h hlambda)

end Setting

/-! ## No more violations -/

/-- Which access a violation is, without what was held there. -/
def Violation.about (violation : Violation) : Span × String × Guard :=
  (violation.span, violation.access, violation.guard)

namespace Checker

variable (checker : Checker)

/-- The accesses that are violations. -/
def reports (accesses : List Access) : List (Span × String × Guard) :=
  (accesses.filterMap checker.violation?).map (·.about)

theorem reports_cons (access : Access) (rest : List Access) :
    checker.reports (access :: rest) =
      ((checker.violation? access).map (·.about)).toList ++ checker.reports rest := by
  rw [reports, List.filterMap_cons]
  cases checker.violation? access <;> rfl

theorem reports_append (accesses more : List Access) :
    checker.reports (accesses ++ more) = checker.reports accesses ++ checker.reports more := by
  rw [reports, List.filterMap_append, List.map_append]
  rfl

/-- An access that is a violation where more is held is one where less is held. -/
theorem about_violation?_of_within {access more : Access} (hexpr : access.expr = more.expr)
    (hguard : access.guard = more.guard) (hheld : access.held.Within more.held)
    {about : Span × String × Guard} (h : (checker.violation? more).map (·.about) = some about) :
    (checker.violation? access).map (·.about) = some about := by
  unfold violation? judge at h ⊢
  rw [hguard]
  by_cases hexcluded : checker.isReadWriteLock more.guard = true
  · rw [if_pos hexcluded] at h
    cases h
  · rw [if_neg hexcluded] at h ⊢
    by_cases hholds : more.held.holds more.guard = true
    · rw [if_pos hholds] at h
      cases h
    · have hless : ¬ access.held.holds more.guard = true := fun hless => hholds (hheld _ hless)
      rw [if_neg hholds] at h
      rw [if_neg hless]
      cases h
      rw [← hguard]
      simp only [Option.map_some, Violation.about, Access.span, hexpr]

theorem reports_sublist {accesses more : List (Path × Access)}
    (h : List.Forall₂ Setting.SameAccess accesses more) :
    (checker.reports (more.map Prod.snd)).Sublist (checker.reports (accesses.map Prod.snd)) := by
  induction h with
  | nil => exact List.Sublist.refl _
  | @cons access other accesses more hsame _ ih =>
    rw [List.map_cons, List.map_cons, reports_cons, reports_cons]
    refine List.Sublist.append ?_ ih
    cases habout : (checker.violation? other.2).map (·.about) with
    | none => exact List.nil_sublist _
    | some about =>
      rw [checker.about_violation?_of_within hsame.expr hsame.guard hsame.held habout]

end Checker

/-! ## Blocks and methods -/

namespace Setting

variable (setting : Setting)

/-- Fewer violations are reported of a block if more is held where it begins. -/
theorem reports_inBlock_sublist {fewer more : HeldSet} (h : fewer.Within more) (checker : Checker)
    (locals : Locals) (body : List Stmt) :
    (checker.reports (setting.inBlock locals more [] body)).Sublist
      (checker.reports (setting.inBlock locals fewer [] body)) := by
  have hsame := setting.sameAccess_located (Place.holdsMore_opening h locals) body
  have hreports := checker.reports_sublist hsame
  rw [map_snd_located, map_snd_located] at hreports
  exact hreports

/-- A synchronized method begins with whatever it would begin with if it were not. -/
theorem within_entryLocks_synchronized (method : MethodDecl) :
    (setting.entryLocks method).Within
      (setting.entryLocks { method with isSynchronized := true }) := by
  unfold entryLocks
  cases setting.scope.currentClass with
  | none => exact HeldSet.within_refl _
  | some cls =>
    cases h : method.isSynchronized with
    | true => exact HeldSet.within_refl _
    | false => exact HeldSet.within_plusAll_append _ _ _

/-- The violations that are reported of a method. -/
def reported (checker : Checker) (method : MethodDecl) : List (Span × String × Guard) :=
  (checker.checkMember setting method).violations.map (·.about)

theorem reported_eq (checker : Checker) (method : MethodDecl) :
    setting.reported checker method = checker.reports (setting.accesses method) := by
  unfold reported Checker.checkMember
  split
  · rename_i h
    rw [accesses_of_constructor _ h]
    rfl
  · rfl

theorem reported_synchronized_sublist (checker : Checker) (method : MethodDecl) :
    (setting.reported checker { method with isSynchronized := true }).Sublist
      (setting.reported checker method) := by
  rw [reported_eq, reported_eq]
  cases h : method.isConstructor with
  | true =>
    have h' : ({ method with isSynchronized := true } : MethodDecl).isConstructor = true := h
    rw [setting.accesses_of_constructor h']
    exact List.nil_sublist _
  | false =>
    have h' : ({ method with isSynchronized := true } : MethodDecl).isConstructor = false := h
    rw [setting.accesses_of_method h', setting.accesses_of_method h]
    exact setting.reports_inBlock_sublist (setting.within_entryLocks_synchronized method) checker
      (setting.parameters method) method.body

/-- With the monitor taken, less is reported of the body, but there is the monitor expression to
evaluate. -/
theorem reported_wrapped_sublist (checker : Checker) (method : MethodDecl) (lock : Expr)
    (span : Span) :
    (setting.reported checker { method with body := [.synchronized lock method.body span] }).Sublist
      (checker.reports
          (setting.inExpr (setting.parameters method) (setting.entryLocks method) lock) ++
        setting.reported checker method) := by
  rw [reported_eq, reported_eq]
  cases h : method.isConstructor with
  | true =>
    have h' : ({ method with body := [.synchronized lock method.body span] } :
        MethodDecl).isConstructor = true := h
    rw [setting.accesses_of_constructor h']
    exact List.nil_sublist _
  | false =>
    have h' : ({ method with body := [.synchronized lock method.body span] } :
        MethodDecl).isConstructor = false := h
    let inside := (setting.entryLocks method).enter.plus
      (setting.canonical (setting.parameters method) lock)
    have hwrapped : setting.accesses { method with body := [.synchronized lock method.body span] } =
        setting.inExpr (setting.parameters method) (setting.entryLocks method) lock ++
          setting.inBlock (setting.parameters method) inside [] method.body :=
      (setting.accesses_of_method h').trans (List.append_nil _)
    rw [hwrapped, setting.accesses_of_method h, Checker.reports_append]
    exact List.Sublist.append (List.Sublist.refl _)
      (setting.reports_inBlock_sublist (HeldSet.within_enter_plus _ _) checker
        (setting.parameters method) method.body)

/-- Where more is held when a block begins, the block has the same accesses with the same guards, one
by one, and at each of them more is held, or the same in a lambda. So fewer of them are violations.
In particular a method has no violation more if it is made synchronized, and none more but those of
the monitor expression if its body is put under a monitor; and the other methods of the unit are
analysed as before. -/
theorem more_locks_hurt_no_access {fewer more : HeldSet} (h : fewer.Within more) (locals : Locals)
    (body : List Stmt) :
    let accesses := setting.located (.opening locals fewer) body
    let accesses' := setting.located (.opening locals more) body
    (accesses.map Prod.snd = setting.inBlock locals fewer [] body ∧
        accesses'.map Prod.snd = setting.inBlock locals more [] body ∧
        List.Forall₂ SameAccess accesses accesses') ∧
      (∀ checker : Checker,
        (checker.reports (setting.inBlock locals more [] body)).Sublist
          (checker.reports (setting.inBlock locals fewer [] body))) ∧
      (∀ (checker : Checker) (method : MethodDecl),
        (setting.reported checker { method with isSynchronized := true }).Sublist
          (setting.reported checker method)) ∧
      (∀ (checker : Checker) (method : MethodDecl) (lock : Expr) (span : Span),
        (setting.reported checker
            { method with body := [.synchronized lock method.body span] }).Sublist
          (checker.reports
              (setting.inExpr (setting.parameters method) (setting.entryLocks method) lock) ++
            setting.reported checker method)) ∧
      ∀ (unit other : CompilationUnit) (options : Options) (member another : Member),
        unit.SameOutline other → member.scope = another.scope →
          unit.setting options member = other.setting options another := by
  intro accesses accesses'
  have hsame : List.Forall₂ SameAccess accesses accesses' :=
    setting.sameAccess_located (Place.holdsMore_opening h locals) body
  refine ⟨⟨setting.map_snd_located _ body, setting.map_snd_located _ body, hsame⟩, ?_, ?_, ?_, ?_⟩
  · exact fun checker => setting.reports_inBlock_sublist h checker locals body
  · exact fun checker method => setting.reported_synchronized_sublist checker method
  · exact fun checker method lock span =>
      setting.reported_wrapped_sublist checker method lock span
  · exact fun unit other options member another houtline hscope =>
      houtline.setting_eq options hscope

end Setting

namespace Counter

/-- Reads `x`, and makes a lambda that reads it too. -/
def readsInLambda : MethodDecl :=
  method [] none
    [.evaluate (.name "x" .unknown),
      .returns (some (.lambda [] [.evaluate (.name "x" .unknown)] .unknown)) .unknown]

theorem holding_mu_helps_outside_the_lambda_only :
    let setting := setting [readsInLambda] readsInLambda
    let checker := Options.default.checker (unit [readsInLambda]).types
    let holdsMu := HeldSet.empty.plus mu
    HeldSet.empty.Within holdsMu ∧
      (checker.reports (setting.inBlock [] .empty [] readsInLambda.body)).length = 2 ∧
      (checker.reports (setting.inBlock [] holdsMu [] readsInLambda.body)).length = 1 ∧
      List.Forall₂ Setting.SameAccess (setting.located (.opening [] .empty) readsInLambda.body)
        (setting.located (.opening [] holdsMu) readsInLambda.body) ∧
      (checker.reports (setting.inBlock [] holdsMu [] readsInLambda.body)).Sublist
        (checker.reports (setting.inBlock [] .empty [] readsInLambda.body)) := by
  intro setting checker holdsMu
  have hwithin : HeldSet.empty.Within holdsMu := nofun
  have hmore := setting.more_locks_hurt_no_access hwithin [] readsInLambda.body
  exact ⟨hwithin, by decide +kernel, by decide +kernel, hmore.1.2.2, hmore.2.1 checker⟩

end Counter

end LockDiscipline
