-- The locks of a set are held by name. An assignment to a local can make such a name stand for
-- another object, but it takes no lock out of the set: a lock whose name starts at a local is held
-- in all of the construct that takes it, whatever is assigned there, and nowhere outside.
import LockDiscipline.Check.Verdict
import LockDiscipline.Proofs.AcceptedGuards
import LockDiscipline.Proofs.LexicalLocks

namespace LockDiscipline

open Piece (Occurrence StandsAt)

/-! ## The locals that names start at -/

namespace Context

variable {ctx : Context}

/-- A canonical form that starts at a text of a known type starts at a local. -/
theorem lookup_of_origin {e : Expr} {name : String} {type : TypeName}
    (h : (ctx.canonical e).origin = .verbatim name (some type)) :
    ctx.locals.lookup name = some type := by
  rcases ctx.form_or_verbatim e with hform | ⟨-, hverbatim⟩
  · obtain ⟨known, htype, hlocal⟩ := lookup_of_form hform h
    cases htype
    exact hlocal
  · rw [hverbatim] at h
    cases h

end Context

/-- A declared guard does not start at a text, for no local is in scope where it is declared. -/
theorem ClassSite.Declares.origin_ne_verbatim {site : ClassSite} {types : TypeLookup}
    {guard : Guard} (h : site.Declares types guard) (name : String) (type : Option TypeName) :
    guard.origin ≠ .verbatim name type := by
  obtain ⟨_, hfits⟩ := h.exists_fits
  intro horigin
  cases hfits.named _ ((Guard.mem_nodes_iff (.verbatim name type) guard nofun).mpr horigin)

/-- No method begins with a lock that starts at a text. -/
theorem CompilationUnit.origin_ne_verbatim_of_mem_entryLocks {unit : CompilationUnit}
    {options : Options} {member : Member} {lock : Guard}
    (h : lock ∈ ((unit.setting options member).entryLocks member.method).locks) (name : String)
    (type : Option TypeName) : lock.origin ≠ .verbatim name type := by
  unfold Setting.entryLocks at h
  split at h
  · cases h
  · rename_i cls _
    rw [HeldSet.locks_plusAll] at h
    rcases mem_foldl_withLock h with h | ⟨h, -⟩
    · cases h
    -- The monitor of a method is an object or a class; the guard comes from some declaration.
    rcases List.mem_append.mp h with h | h
    · split at h
      · cases h
      · split at h <;> (cases List.mem_singleton.mp h; exact nofun)
    · obtain ⟨entry, hentry, hguard⟩ := Option.bind_eq_some_iff.mp (Option.mem_toList.mp h)
      obtain ⟨home, -, -, hdeclares⟩ := CompilationUnit.declares_of_method? hentry hguard
      exact hdeclares.origin_ne_verbatim name type

/-! ## What stands in front of an access -/

/-- An expression gives a local another value. -/
def Expr.assigns (name : String) : Expr → Bool
  | .assign (.name target _) _ _ _ => target == name
  | .unary op (.name target _) _ =>
    ["++", "--", "post++", "post--"].contains op && target == name
  | _ => false

/-- A statement gives a local another value. -/
def Stmt.assigns (name : String) : Stmt → Bool
  | .evaluate e => e.assigns name
  | _ => false

/-- A step without the statements in front that give a local another value. -/
def Step.without (name : String) : Step → Step
  | .behind before => .behind (before.filter (!·.assigns name))
  | .setUp before => .setUp (before.filter (!·.assigns name))
  | step => step

/-- An expression without those statements in front, at whatever depth it stands. -/
def Piece.Occurrence.without (name : String) (occurrence : Occurrence) : Occurrence :=
  ⟨occurrence.path.map (·.without name), occurrence.expr⟩

namespace Setting

variable (setting : Setting)

theorem afterStmt_of_assigns {name : String} {stmt : Stmt} (h : stmt.assigns name = true)
    (locals : Locals) : setting.afterStmt locals stmt = locals := by
  cases stmt with
  | evaluate e => rfl
  | _ => cases h

theorem lockCall_of_assigns {name : String} {e : Expr} (h : e.assigns name = true)
    (methods : List String) (locals : Locals) : setting.lockCall methods locals e = none := by
  cases e with
  | call receiver method args span => cases h
  | _ => rfl

theorem track_of_assigns {name : String} {stmt : Stmt} (h : stmt.assigns name = true)
    (locals : Locals) (pending : List Guard) : setting.track locals pending stmt = pending := by
  cases stmt with
  | evaluate e =>
    have hnone := fun methods => setting.lockCall_of_assigns h methods locals
    simp [track, acquired, released, Stmt.evaluatedAll, Stmt.evaluated, hnone]
  | _ => cases h

theorem afterAll_without (name : String) (locals : Locals) (stmts : List Stmt) :
    setting.afterAll locals (stmts.filter (!·.assigns name)) =
      setting.afterAll locals stmts := by
  induction stmts generalizing locals with
  | nil => rfl
  | cons stmt rest ih =>
    cases h : stmt.assigns name with
    | true =>
      rw [List.filter_cons_of_neg (by simp [h]), ih, afterAll_cons, setting.afterStmt_of_assigns h]
    | false => rw [List.filter_cons_of_pos (by simp [h]), afterAll_cons, afterAll_cons, ih]

theorem pendingAfter_without (name : String) (locals : Locals) (pending : List Guard)
    (stmts : List Stmt) :
    setting.pendingAfter locals pending (stmts.filter (!·.assigns name)) =
      setting.pendingAfter locals pending stmts := by
  induction stmts generalizing locals pending with
  | nil => rfl
  | cons stmt rest ih =>
    cases h : stmt.assigns name with
    | true =>
      rw [List.filter_cons_of_neg (by simp [h]), ih, pendingAfter_cons,
        setting.afterStmt_of_assigns h, setting.track_of_assigns h]
    | false => rw [List.filter_cons_of_pos (by simp [h]), pendingAfter_cons, pendingAfter_cons, ih]

/-- An assignment in front of a place changes nothing there. -/
theorem placeAt_without (name : String) (start : Place) (path : Path) :
    setting.placeAt start (path.map (·.without name)) = setting.placeAt start path := by
  induction path with
  | nil => rfl
  | cons step path ih =>
    rw [List.map_cons, placeAt_cons, placeAt_cons, ih]
    cases step with
    | behind before =>
      simp only [into, Step.without, localsInto, heldInto, pendingInto, afterAll_without,
        pendingAfter_without]
    | setUp before =>
      simp only [into, Step.without, localsInto, heldInto, pendingInto, afterAll_without]
    | _ => rfl

theorem accessAt_without (name : String) (start : Place) (occurrence : Occurrence) :
    setting.accessAt start (occurrence.without name) = setting.accessAt start occurrence := by
  rw [accessAt, accessAt, Occurrence.without, placeAt_without]

/-! ## Where a lock is taken -/

/-- A path leads into a part of the construct at the end of another path, where the construct holds a
lock, and on from there into no lambda. -/
def HeldInside (locals : Locals) (lock : Guard) (outer path : Path) : Prop :=
  ∃ inner step, path = inner ++ step :: outer ∧ (∀ s ∈ inner, s.isLambda = false) ∧
    lock ∈ setting.takenBy locals outer step

theorem holds_of_heldInside {locals : Locals} {held : HeldSet} {lock : Guard} {outer path : Path}
    (h : setting.HeldInside locals lock outer path) :
    (setting.placeAt (.opening locals held) path).held.holds lock = true := by
  obtain ⟨inner, step, rfl, hinner, htaken⟩ := h
  have hstep : step.isLambda = false := by
    cases step with
    | lambda params => cases htaken
    | _ => rfl
  refine setting.holds_placeAt_append hinner ?_
  rw [HeldSet.holds_eq_contains, setting.locks_placeAt_cons locals held hstep,
    contains_foldl_withLock, Bool.or_eq_true]
  exact Or.inr (List.contains_iff_exists_mem_beq.mpr ⟨lock, htaken, beq_self_eq_true lock⟩)

/-- A lock that is held at the end of a path is held since the start and no lambda is on the way, or
it was taken by the construct at one point of the path, which did not find it held. -/
theorem held_at_start_or_taken {locals : Locals} {held : HeldSet} {path : Path} {lock : Guard}
    (h : lock ∈ (setting.placeAt (.opening locals held) path).held.locks) :
    (lock ∈ held.locks ∧ ∀ step ∈ path, step.isLambda = false) ∨
      ∃ outer, (setting.placeAt (.opening locals held) outer).held.holds lock = false ∧
        setting.HeldInside locals lock outer path := by
  induction path with
  | nil => exact Or.inl ⟨h, nofun⟩
  | cons step path ih =>
    cases hlambda : step.isLambda with
    | true =>
      cases step with
      | lambda params => cases h
      | _ => cases hlambda
    | false =>
      rw [setting.locks_placeAt_cons locals held hlambda] at h
      -- Either the lock was held before the last step, or this step is the one that takes it.
      rcases mem_foldl_withLock h with h | ⟨htaken, hnew⟩
      · rcases ih h with ⟨hstart, hpath⟩ | ⟨outer, hnew, inner, taker, rfl, hinner, htaken⟩
        · exact Or.inl ⟨hstart, List.forall_mem_cons.mpr ⟨hlambda, hpath⟩⟩
        · exact Or.inr ⟨outer, hnew, step :: inner, taker, rfl,
            List.forall_mem_cons.mpr ⟨hlambda, hinner⟩, htaken⟩
      · refine Or.inr ⟨path, ?_, [], step, rfl, nofun, htaken⟩
        rw [HeldSet.holds_eq_contains, hnew]

end Setting

/-! ## Verdicts -/

namespace Checker

variable (checker : Checker)

theorem exists_lock_of_satisfied {guard : Guard} {held : HeldSet}
    (h : checker.judge guard held = .satisfied) :
    ∃ lock ∈ held.locks, (guard == lock) = true := by
  unfold judge at h
  split at h
  · cases h
  · split at h
    · rename_i hholds
      rw [HeldSet.holds_eq_contains] at hholds
      exact List.contains_iff_exists_mem_beq.mp hholds
    · cases h

theorem violation?_of_holds {access : Access} {lock : Guard}
    (hholds : access.held.holds lock = true) (hguard : (access.guard == lock) = true) :
    checker.violation? access = none := by
  have hsame : access.held.holds access.guard = true := by
    rw [HeldSet.holds_eq_contains] at hholds ⊢
    exact (List.contains_congr hguard).trans hholds
  unfold violation? judge
  by_cases hexcluded : checker.isReadWriteLock access.guard = true
  · rw [if_pos hexcluded]
  · rw [if_neg hexcluded, if_pos hsame]

end Checker

/-! ## What an access that is in order relies on -/

namespace Setting

variable (setting : Setting)

/-- A lock is not held where a construct of a method stands, so the construct can take it. If the lock
starts at a local, the local is in scope there. -/
structure NewAt (method : MethodDecl) (lock : Guard) (outer : Path) (construct : Piece) : Prop where
  stands : StandsAt (.block method.body) outer construct
  notHeld : (setting.placeAt (setting.start method) outer).held.holds lock = false
  inScope : ∀ name type, lock.origin = .verbatim name (some type) →
    (setting.localsAt (setting.parameters method) outer).lookup name = some type

/-- Where an access is in order because a construct around it took a lock that starts at a local, that
local is given no other value between that point and the access. A local of its name that is declared
in between hides it, and may be given one. -/
def NoLockIsOutdated (checker : Checker) (method : MethodDecl) : Prop :=
  let locals := setting.parameters method
  ∀ (outer : Path) (construct : Piece) (earlier occurrence : Occurrence) (access : Access)
    (lock : Guard) (name : String) (type : TypeName) (hidden : Locals),
    setting.NewAt method lock outer construct →
    [earlier, occurrence].Sublist (construct.occurrences outer) →
    setting.HeldInside locals lock outer earlier.path →
    setting.HeldInside locals lock outer occurrence.path →
    setting.accessAt (setting.start method) occurrence = some access →
    checker.judge access.guard access.held = .satisfied → (access.guard == lock) = true →
    lock.origin = .verbatim name (some type) →
    setting.localsAt locals earlier.path = hidden ++ setting.localsAt locals outer →
    hidden.lookup name = none →
      earlier.expr.assigns name = false

/-- A construct that took the lock stands around the expression. -/
theorem exists_newAt {method : MethodDecl} {occurrence : Occurrence}
    (h : occurrence ∈ (Piece.block method.body).occurrences []) {lock : Guard} {outer : Path}
    (hnew : (setting.placeAt (setting.start method) outer).held.holds lock = false)
    (hinside : setting.HeldInside (setting.parameters method) lock outer occurrence.path) :
    ∃ construct, setting.NewAt method lock outer construct ∧
      occurrence ∈ construct.occurrences outer := by
  obtain ⟨inner, step, hpath, -, htaken⟩ := hinside
  have hcut : occurrence.path = inner ++ step :: (outer ++ []) := by rw [hpath, List.append_nil]
  obtain ⟨construct, part, hstands, hpart, hocc⟩ :=
    Piece.exists_part_of_mem_occurrences .whole h hcut
  rw [List.append_nil] at hstands hocc
  refine ⟨construct, ⟨hstands, hnew, ?_⟩, Piece.mem_occurrences_of_mem_parts hpart hocc⟩
  intro name type horigin
  obtain ⟨e, rfl⟩ := setting.exists_canonical_of_mem_takenBy htaken
  exact Context.lookup_of_origin horigin

end Setting

namespace CompilationUnit

variable (unit : CompilationUnit)

/-- An access that is in order relies on a held lock of the name that it needs. Either the lock is
held since the beginning of the method, and then it does not start at a local; or a construct around
the access took it. Whatever is assigned in that construct, the lock is held in all of it but the
lambdas, and no access there is a violation that needs a lock of that name. Without the assignments in
front of it the access needs the same guard while the same locks are held. -/
theorem a_lock_is_held_by_name_whatever_is_assigned (options : Options) (member : Member)
    (checker : Checker) (access : Access)
    (haccess : access ∈ (unit.setting options member).accesses member.method)
    (hverdict : checker.judge access.guard access.held = .satisfied) :
    let setting := unit.setting options member
    let locals := setting.parameters member.method
    let start := setting.start member.method
    ∃ occurrence ∈ (Piece.block member.method.body).occurrences [],
      setting.accessAt start occurrence = some access ∧
      (∀ name, setting.accessAt start (occurrence.without name) = some access) ∧
      ∃ lock ∈ access.held.locks, (access.guard == lock) = true ∧
        ((lock ∈ (setting.entryLocks member.method).locks ∧
            (∀ step ∈ occurrence.path, step.isLambda = false) ∧
            ∀ name type, lock.origin ≠ .verbatim name type) ∨
          ∃ outer construct, setting.NewAt member.method lock outer construct ∧
            occurrence ∈ construct.occurrences outer ∧
            setting.HeldInside locals lock outer occurrence.path ∧
            ∀ (other : Occurrence) (access' : Access),
              setting.HeldInside locals lock outer other.path →
              setting.accessAt start other = some access' →
                access'.held.holds lock = true ∧
                ((access'.guard == lock) = true → checker.violation? access' = none)) := by
  intro setting locals start
  obtain ⟨occurrence, hmem, hat⟩ := setting.exists_accessAt_of_mem_accesses haccess
  obtain ⟨lock, hlock, hguard⟩ := checker.exists_lock_of_satisfied hverdict
  refine ⟨occurrence, hmem, hat, ?_, lock, hlock, hguard, ?_⟩
  · intro name
    rw [Setting.accessAt_without]
    exact hat
  rw [setting.held_of_accessAt hat] at hlock
  rcases setting.held_at_start_or_taken hlock with ⟨hentry, hpath⟩ | ⟨outer, hnew, hinside⟩
  · exact Or.inl ⟨hentry, hpath, origin_ne_verbatim_of_mem_entryLocks hentry⟩
  · obtain ⟨construct, hconstruct, hocc⟩ := setting.exists_newAt hmem hnew hinside
    refine Or.inr ⟨outer, construct, hconstruct, hocc, hinside, ?_⟩
    intro other access' hinside' hat'
    have hholds : access'.held.holds lock = true := by
      rw [setting.held_of_accessAt hat']
      exact setting.holds_of_heldInside hinside'
    exact ⟨hholds, checker.violation?_of_holds hholds⟩

end CompilationUnit

namespace Counter

def other : Expr := .name "other" .unknown

/-- The monitor that the method takes. -/
def lockOfOther : Expr := .select other "mu" .unknown

/-- Makes `other` another counter. -/
def moveOn : Expr := .assign other (.name "next" .unknown) none .unknown

/-- The statements under the monitor. They read the `x` of the next counter. -/
def underLock : List Stmt :=
  [.evaluate moveOn, .returns (some (.select other "x" .unknown)) .unknown]

def readsNext : MethodDecl :=
  method [⟨"other", "Counter"⟩, ⟨"next", "Counter"⟩] none
    [.synchronized lockOfOther underLock .unknown]

/-- The way to the monitor. -/
def toMonitor : Path := [.behind []]

/-- The assignment at its place in the method. -/
def move : Occurrence := ⟨[.within, .behind [], .monitor lockOfOther] ++ toMonitor, moveOn⟩

/-- `x` at its place in the method. -/
def nextX : Occurrence :=
  ⟨[.within, .behind [.evaluate moveOn], .monitor lockOfOther] ++ toMonitor,
    .select other "x" .unknown⟩

/-- The lock `mu` of whatever `other` stands for. -/
def otherMu : Guard :=
  .field (.verbatim "other" (some ⟨"Counter"⟩)) ⟨⟨"Counter"⟩, "mu", .reentrantLock, false⟩

theorem nextX_behind_move :
    [move, nextX].Sublist
      ((Piece.stmt (.synchronized lockOfOther underLock .unknown)).occurrences toMonitor) := by
  have hbody : (.monitor lockOfOther, .block underLock) ∈
      (Piece.stmt (.synchronized lockOfOther underLock .unknown)).parts :=
    List.mem_cons_of_mem _ List.mem_cons_self
  refine List.Sublist.trans ?_ (Piece.occurrences_part_sublist hbody toMonitor)
  refine Piece.pair_sublist_occurrences (List.Sublist.refl _) ?_ ?_
  · exact Piece.mem_occurrences_of_mem_parts List.mem_cons_self (Piece.self_mem_occurrences _ _)
  · exact Piece.mem_occurrences_of_mem_parts List.mem_cons_self (Piece.self_mem_occurrences _ _)

theorem exists_access_of_nextX :
    let setting := setting [readsNext] readsNext
    let checker := Options.default.checker (unit [readsNext]).types
    ∃ access, setting.accessAt (setting.start readsNext) nextX = some access ∧
      checker.judge access.guard access.held = .satisfied ∧ (access.guard == otherMu) = true := by
  intro setting checker
  have hjudged : (setting.accessAt (setting.start readsNext) nextX).map (fun access =>
      (checker.judge access.guard access.held, access.guard == otherMu)) =
        some (.satisfied, true) := by
    decide +kernel
  obtain ⟨access, haccess, heq⟩ := Option.map_eq_some_iff.mp hjudged
  exact ⟨access, haccess, congrArg Prod.fst heq, congrArg Prod.snd heq⟩

theorem the_lock_of_the_old_object_is_held_for_the_new_one :
    let setting := setting [readsNext] readsNext
    let checker := Options.default.checker (unit [readsNext]).types
    ∃ access ∈ setting.accesses readsNext,
      checker.judge access.guard access.held = .satisfied ∧
      ∃ occurrence, setting.accessAt (setting.start readsNext) occurrence = some access ∧
        setting.accessAt (setting.start readsNext) (occurrence.without "other") = some access ∧
        ∃ lock ∈ access.held.locks, (access.guard == lock) = true := by
  intro setting checker
  obtain ⟨access, hat, hverdict, -⟩ := exists_access_of_nextX
  have hmem : nextX ∈ (Piece.block readsNext.body).occurrences [] :=
    Piece.mem_occurrences_of_mem_parts List.mem_cons_self
      (nextX_behind_move.subset (List.mem_cons_of_mem _ List.mem_cons_self))
  have haccess : access ∈ setting.accesses readsNext := by
    rw [setting.accesses_eq_occurrences rfl]
    exact List.mem_filterMap.mpr ⟨nextX, hmem, hat⟩
  obtain ⟨occurrence, -, hat', hwithout, lock, hlock, hguard, -⟩ :=
    CompilationUnit.a_lock_is_held_by_name_whatever_is_assigned (unit [readsNext]) .default
      (member [readsNext] readsNext) checker access haccess hverdict
  exact ⟨access, haccess, hverdict, occurrence, hat', hwithout "other", lock, hlock, hguard⟩

theorem a_lock_is_held_though_its_local_was_assigned_to :
    let setting := setting [readsNext] readsNext
    let checker := Options.default.checker (unit [readsNext]).types
    (setting.accesses readsNext).map (fun access => (access.guard, access.held.locks)) =
        [(otherMu, [otherMu])] ∧
      ¬ setting.NoLockIsOutdated checker readsNext := by
  intro setting checker
  refine ⟨by decide +kernel, fun h => ?_⟩
  obtain ⟨access, hat, hverdict, hguard⟩ := exists_access_of_nextX
  have hnew : setting.NewAt readsNext otherMu toMonitor
      (.stmt (.synchronized lockOfOther underLock .unknown)) := by
    refine ⟨.part .whole List.mem_cons_self, by decide +kernel, ?_⟩
    intro name type horigin
    cases horigin
    decide +kernel
  have htaken : otherMu ∈ setting.takenBy (setting.parameters readsNext) toMonitor
      (.monitor lockOfOther) := by
    rw [Setting.takenBy, List.mem_singleton]
    decide +kernel
  have hmove : setting.HeldInside (setting.parameters readsNext) otherMu toMonitor move.path :=
    ⟨[.within, .behind []], _, rfl, by decide, htaken⟩
  have hread : setting.HeldInside (setting.parameters readsNext) otherMu toMonitor nextX.path :=
    ⟨[.within, .behind [.evaluate moveOn]], _, rfl, by decide, htaken⟩
  have hkept := h _ _ move nextX access otherMu "other" ⟨"Counter"⟩ [] hnew nextX_behind_move hmove
    hread hat hverdict hguard rfl rfl rfl
  cases hkept

end Counter

end LockDiscipline
