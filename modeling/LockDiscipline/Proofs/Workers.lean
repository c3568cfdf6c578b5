-- However the workers interleave, each index is claimed by one of them, and what it claims it sends
-- before it claims another. So when all have stopped every member has been checked once, and sorting
-- the outcomes by index gives those of one worker that goes through the members in order.
import LockDiscipline.Check.Workers
import LockDiscipline.Proofs.Members
import Mathlib.Algebra.GroupWithZero.Nat
import Mathlib.Data.List.Nodup

namespace LockDiscipline

namespace Worker

/-- The index that a worker has claimed and not sent. -/
def index? : Worker → Option Nat
  | ready => none
  | holding index => some index
  | stopped index => some index

/-- How many steps a worker still has, apart from those for items that nobody has claimed. -/
def left (items : Nat) : Worker → Nat
  | ready => 2
  | holding index => if index < items then 3 else 1
  | stopped _ => 0

end Worker

namespace Pool

namespace Action

def claimed? : Action → Option Nat
  | claim index => some index
  | _ => none

def sent? : Action → Option Nat
  | send index => some index
  | _ => none

theorem claimed?_eq_some_iff {action : Action} {index : Nat} :
    action.claimed? = some index ↔ action = .claim index := by
  cases action <;> simp [claimed?]

theorem sent?_eq_some_iff {action : Action} {index : Nat} :
    action.sent? = some index ↔ action = .send index := by
  cases action <;> simp [sent?]

/-- An action takes place as often as what only it shows is shown. -/
theorem count_eq_count_filterMap {action : Action} {index : Nat} {shown : Action → Option Nat}
    (h : ∀ other, shown other = some index ↔ other = action) (actions : List Action) :
    actions.count action = (actions.filterMap shown).count index := by
  rw [List.count_filterMap, List.count]
  refine congrArg (List.countP · actions) (funext fun other => ?_)
  rw [Bool.eq_iff_iff, beq_iff_eq, beq_iff_eq, h other]

end Action

variable {Item Outcome : Type} {check : Item → Outcome} {items : List Item}

/-! ## What every step keeps -/

/-- The books of a pool: the counter has given out each index below it once, and each of these was
sent or is still with a worker. -/
structure Balanced (check : Item → Outcome) (items : List Item) (actions : List Action)
    (pool : Pool Outcome) : Prop where
  claimed : actions.filterMap Action.claimed? = List.range pool.next
  sent : actions.filterMap Action.sent? = pool.sent.map (·.1)
  shared : (pool.sent.map (·.1) ++ pool.workers.filterMap Worker.index?).Perm (List.range pool.next)
  checked : ∀ message ∈ pool.sent, items[message.1]?.map check = some message.2
  beyond : ∀ index, Worker.stopped index ∈ pool.workers → items.length ≤ index

theorem balanced_start (jobs : Nat) : Balanced check items [] (.start jobs) where
  claimed := rfl
  sent := rfl
  shared := by
    rw [start, List.filterMap_replicate]
    exact List.Perm.refl _
  checked := nofun
  beyond index h := nomatch List.eq_of_mem_replicate h

theorem Balanced.step {actions : List Action} {action : Action} {pool last : Pool Outcome}
    (h : Balanced check items actions pool) (hstep : Step check items pool action last) :
    Balanced check items (actions ++ [action]) last := by
  obtain ⟨hclaimed, hsent, hshared, hchecked, hbeyond⟩ := h
  cases hstep with
  | @claim next before after sent =>
    simp only [List.filterMap_append, List.filterMap_cons, Worker.index?] at hshared
    refine ⟨?_, ?_, ?_, hchecked, fun index hmem => hbeyond index (by simpa using hmem)⟩
    · simp [hclaimed, Action.claimed?, List.range_succ]
    · simp [hsent, Action.sent?]
    · -- The next index goes from the counter to the worker.
      simp only [List.filterMap_append, List.filterMap_cons, Worker.index?, List.range_succ]
      rw [← List.append_assoc] at hshared ⊢
      exact List.perm_middle.trans ((hshared.cons next).trans (List.perm_append_singleton _ _).symm)
  | @send next index before after sent item hitem =>
    simp only [List.filterMap_append, List.filterMap_cons, Worker.index?] at hshared
    refine ⟨?_, ?_, ?_, ?_, fun index hmem => hbeyond index (by simpa using hmem)⟩
    · simp [hclaimed, Action.claimed?]
    · simp [hsent, Action.sent?]
    · -- The index goes from the worker to what was sent.
      simp only [List.map_append, List.map_singleton, List.append_assoc, List.singleton_append,
        List.filterMap_append, List.filterMap_cons, Worker.index?]
      exact (List.Perm.append_left _ List.perm_middle.symm).trans hshared
    · intro message hmem
      rcases List.mem_append.mp hmem with hmem | hmem
      · exact hchecked message hmem
      · cases List.mem_singleton.mp hmem
        rw [hitem]
        rfl
  | @stop next index before after sent hnone =>
    simp only [List.filterMap_append, List.filterMap_cons, Worker.index?] at hshared
    refine ⟨?_, ?_, ?_, hchecked, fun other hmem => ?_⟩
    · simp [hclaimed, Action.claimed?]
    · simp [hsent, Action.sent?]
    · simp only [List.filterMap_append, List.filterMap_cons, Worker.index?]
      exact hshared
    · by_cases heq : other = index
      · exact heq ▸ List.getElem?_eq_none_iff.mp hnone
      · exact hbeyond other (by simpa [heq] using hmem)

theorem Balanced.run {jobs : Nat} {actions : List Action} {pool : Pool Outcome}
    (h : Run check items (.start jobs) actions pool) : Balanced check items actions pool := by
  induction h with
  | nothing => exact balanced_start jobs
  | andThen _ hstep ih => exact ih.step hstep

theorem length_workers {first pool : Pool Outcome} {actions : List Action}
    (h : Run check items first actions pool) : pool.workers.length = first.workers.length := by
  induction h with
  | nothing => rfl
  | andThen _ hstep ih =>
    rw [← ih]
    cases hstep <;> simp

/-! ## When all have stopped -/

/-- The index of every item was given out, for some worker was given one beyond them. -/
theorem Balanced.length_le_next {actions : List Action} {pool : Pool Outcome}
    (h : Balanced check items actions pool) (hfinished : pool.Finished)
    (hworkers : pool.workers ≠ []) : items.length ≤ pool.next := by
  obtain ⟨worker, hmem⟩ := List.exists_mem_of_ne_nil _ hworkers
  obtain ⟨index, rfl⟩ := hfinished worker hmem
  have hgiven : index ∈ List.range pool.next :=
    h.shared.mem_iff.mp
      (List.mem_append_right _ (List.mem_filterMap.mpr ⟨_, hmem, rfl⟩))
  exact Nat.le_of_lt (Nat.lt_of_le_of_lt (h.beyond index hmem) (List.mem_range.mp hgiven))

/-- What was sent are the indices of the items, each once. -/
theorem Balanced.sent_perm {actions : List Action} {pool : Pool Outcome}
    (h : Balanced check items actions pool) (hfinished : pool.Finished)
    (hworkers : pool.workers ≠ []) :
    (pool.sent.map (·.1)).Perm (List.range items.length) := by
  have hnodup : (pool.sent.map (·.1) ++ pool.workers.filterMap Worker.index?).Nodup :=
    h.shared.nodup_iff.mpr List.nodup_range
  refine (List.perm_ext_iff_of_nodup (List.nodup_append.mp hnodup).1 List.nodup_range).mpr
    fun index => ?_
  rw [List.mem_range]
  constructor
  · intro hmem
    obtain ⟨message, hmessage, rfl⟩ := List.mem_map.mp hmem
    obtain ⟨item, hitem, -⟩ := Option.map_eq_some_iff.mp (h.checked message hmessage)
    exact (List.getElem?_eq_some_iff.mp hitem).1
  · intro hlt
    have hgiven : index ∈ List.range pool.next :=
      List.mem_range.mpr (Nat.lt_of_lt_of_le hlt (h.length_le_next hfinished hworkers))
    rcases List.mem_append.mp (h.shared.mem_iff.mpr hgiven) with hsent | hheld
    · exact hsent
    · -- Only an index beyond the items is still with a worker.
      obtain ⟨worker, hmem, hindex⟩ := List.mem_filterMap.mp hheld
      obtain ⟨other, rfl⟩ := hfinished worker hmem
      cases hindex
      exact absurd hlt (Nat.not_lt.mpr (h.beyond index hmem))

/-- Messages with the indices of the items in order carry the outcomes of the items in order. -/
theorem map_snd_eq {messages : List (Nat × Outcome)}
    (hindices : messages.map (·.1) = List.range items.length)
    (hchecked : ∀ message ∈ messages, items[message.1]?.map check = some message.2) :
    messages.map (·.2) = items.map check := by
  refine List.ext_getElem? fun index => ?_
  have hindex := congrArg (·[index]?) hindices
  rw [List.getElem?_map] at hindex ⊢
  rw [List.getElem?_map]
  cases hmessage : messages[index]? with
  | none =>
    rw [hmessage] at hindex
    have hlength : items.length ≤ index := by
      simpa using List.getElem?_eq_none_iff.mp hindex.symm
    rw [List.getElem?_eq_none hlength]
    rfl
  | some message =>
    rw [hmessage] at hindex
    obtain ⟨hlt, heq⟩ := List.getElem?_eq_some_iff.mp hindex.symm
    rw [List.getElem_range] at heq
    rw [heq, hchecked message (List.mem_of_getElem? hmessage)]
    rfl

theorem pairwise_index_mergeSort (messages : List (Nat × Outcome)) :
    ((messages.mergeSort fun a b => a.1 ≤ b.1).map (·.1)).Pairwise (· ≤ ·) := by
  have hsorted := @List.pairwise_mergeSort (Nat × Outcome) (fun a b => a.1 ≤ b.1)
    (fun _ _ _ hab hbc =>
      decide_eq_true (Nat.le_trans (of_decide_eq_true hab) (of_decide_eq_true hbc)))
    (fun a b => by simpa using Nat.le_total a.1 b.1) messages
  exact List.pairwise_map.mpr (hsorted.imp of_decide_eq_true)

/-- Sorted by index, the outcomes are those of the items in order. -/
theorem Balanced.inOrder_eq {actions : List Action} {pool : Pool Outcome}
    (h : Balanced check items actions pool) (hfinished : pool.Finished)
    (hworkers : pool.workers ≠ []) : pool.inOrder = items.map check := by
  have hperm : (pool.sent.mergeSort fun a b => a.1 ≤ b.1).Perm pool.sent :=
    List.mergeSort_perm _ _
  refine map_snd_eq ?_ fun message hmem => h.checked message (hperm.mem_iff.mp hmem)
  exact ((hperm.map _).trans (h.sent_perm hfinished hworkers)).eq_of_pairwise
    (fun _ _ _ _ => Nat.le_antisymm) (pairwise_index_mergeSort pool.sent) List.pairwise_le_range

/-! ## Every run ends -/

def left (items : Nat) (pool : Pool Outcome) : Nat :=
  2 * (items - pool.next) + (pool.workers.map (Worker.left items)).sum

theorem left_step {action : Action} {pool last : Pool Outcome}
    (h : Step check items pool action last) :
    last.left items.length + 1 = pool.left items.length := by
  cases h with
  | claim =>
    simp only [left, List.map_append, List.map_cons, List.sum_append, List.sum_cons, Worker.left]
    split <;> omega
  | send hitem =>
    have hlt := (List.getElem?_eq_some_iff.mp hitem).1
    simp only [left, List.map_append, List.map_cons, List.sum_append, List.sum_cons, Worker.left,
      if_pos hlt]
    omega
  | stop hnone =>
    have hle := Nat.not_lt.mpr (List.getElem?_eq_none_iff.mp hnone)
    simp only [left, List.map_append, List.map_cons, List.sum_append, List.sum_cons, Worker.left,
      if_neg hle]
    omega

/-- A worker that has not stopped can take a step. -/
theorem exists_step {pool : Pool Outcome} (h : ¬ pool.Finished) :
    ∃ action last, Step check items pool action last := by
  obtain ⟨next, workers, sent⟩ := pool
  obtain ⟨worker, hrunning⟩ := Classical.not_forall.mp h
  obtain ⟨hmem, hrunning⟩ := Classical.not_imp.mp hrunning
  obtain ⟨before, after, rfl⟩ := List.append_of_mem hmem
  cases worker with
  | ready => exact ⟨_, _, .claim⟩
  | holding index =>
    cases hitem : items[index]? with
    | none => exact ⟨_, _, .stop hitem⟩
    | some item => exact ⟨_, _, .send hitem⟩
  | stopped index => exact absurd (fun _ => ⟨index, rfl⟩) hrunning

theorem length_add_left {first pool : Pool Outcome} {actions : List Action}
    (h : Run check items first actions pool) :
    actions.length + pool.left items.length = first.left items.length := by
  induction h with
  | nothing => exact Nat.zero_add _
  | andThen _ hstep ih =>
    rw [← ih, ← left_step hstep, List.length_append, List.length_singleton]
    omega

/-- Every run goes on until all workers have stopped. -/
theorem exists_finished {first pool : Pool Outcome} {actions : List Action}
    (h : Run check items first actions pool) :
    ∃ more last, Run check items first (actions ++ more) last ∧ last.Finished := by
  by_cases hfinished : pool.Finished
  · exact ⟨[], pool, (List.append_nil actions).symm ▸ h, hfinished⟩
  · obtain ⟨action, last, hstep⟩ : ∃ action last, Step check items pool action last :=
      exists_step hfinished
    obtain ⟨more, final, hrun, hfinal⟩ := exists_finished (h.andThen hstep)
    refine ⟨action :: more, final, ?_, hfinal⟩
    rwa [List.append_assoc] at hrun
termination_by pool.left items.length
decreasing_by
  have := left_step hstep
  omega

theorem left_start (items jobs : Nat) :
    (start jobs : Pool Outcome).left items = 2 * (items + jobs) := by
  simp only [left, start, List.map_replicate, List.sum_replicate_nat, Worker.left]
  omega

/-- Two steps for each item and each worker are enough, and whatever the workers did so far, they
can go on until all have stopped. -/
theorem every_run_ends {jobs : Nat} {actions : List Action} {pool : Pool Outcome}
    (h : Run check items (.start jobs) actions pool) :
    actions.length ≤ 2 * (items.length + jobs) ∧
      ∃ more last, Run check items (.start jobs) (actions ++ more) last ∧ last.Finished := by
  refine ⟨?_, exists_finished h⟩
  have hlength := length_add_left h
  rw [left_start] at hlength
  omega

/-- The counter and the channel lose nothing, whoever is faster. -/
theorem each_item_is_claimed_and_sent_once {jobs : Nat} (hjobs : 0 < jobs) {actions : List Action}
    {pool : Pool Outcome} (h : Run check items (.start jobs) actions pool)
    (hfinished : pool.Finished) :
    (∀ index < items.length,
        actions.count (.claim index) = 1 ∧ actions.count (.send index) = 1) ∧
      pool.inOrder = items.map check := by
  have hbalanced := Balanced.run h
  have hworkers : pool.workers ≠ [] := by
    refine List.ne_nil_of_length_pos ?_
    rw [length_workers h, start, List.length_replicate]
    exact hjobs
  refine ⟨fun index hlt => ⟨?_, ?_⟩, hbalanced.inOrder_eq hfinished hworkers⟩
  · have hnext := hbalanced.length_le_next hfinished hworkers
    rw [Action.count_eq_count_filterMap fun _ => Action.claimed?_eq_some_iff, hbalanced.claimed]
    exact List.count_eq_one_of_mem List.nodup_range
      (List.mem_range.mpr (Nat.lt_of_lt_of_le hlt hnext))
  · rw [Action.count_eq_count_filterMap fun _ => Action.sent?_eq_some_iff, hbalanced.sent,
      (hbalanced.sent_perm hfinished hworkers).count_eq index]
    exact List.count_eq_one_of_mem List.nodup_range (List.mem_range.mpr hlt)

end Pool

namespace CompilationUnit

/-- However many workers there are and however they interleave, when all have stopped each item was
claimed once and sent once, and sorting what was sent gives the outcomes of a single loop. So a unit
has the same report for every number of workers and of processors. -/
theorem any_number_of_workers_reports_the_same {Item Outcome : Type} (check : Item → Outcome)
    (items : List Item) (unit : CompilationUnit) (types : TypeLookup) (options : Options) :
    (∀ (jobs : Nat) (actions : List Pool.Action) (pool : Pool Outcome), 0 < jobs →
        Pool.Run check items (.start jobs) actions pool → pool.Finished →
        (∀ index < items.length,
            actions.count (.claim index) = 1 ∧ actions.count (.send index) = 1) ∧
          pool.inOrder = items.map check) ∧
      ∀ (jobs processors : Nat) (report : Report),
        unit.Reports types { options with jobs := jobs } processors report ↔
          report = unit.checkWith types options := by
  refine ⟨fun jobs actions pool hjobs hrun hfinished =>
    Pool.each_item_is_claimed_and_sent_once hjobs hrun hfinished, fun jobs processors report => ?_⟩
  let workers := Options.workersFor { options with jobs := jobs } processors unit.members.length
  let outcome := options.outcome types (unit.validate types).guards
  have hpositive : 0 < workers := Nat.le_max_right _ _
  constructor
  · intro h
    cases h with
    | alone _ => rfl
    | together _ hrun hfinished =>
      rw [(Pool.each_item_is_claimed_and_sent_once hpositive hrun hfinished).2]
      rfl
  · rintro rfl
    by_cases halone : workers = 1
    · exact .alone halone
    · have hstart : Pool.Run outcome unit.members (.start workers) [] (.start workers) := .nothing
      obtain ⟨-, actions, pool, hrun, hfinished⟩ := Pool.every_run_ends hstart
      have hreport : unit.Reports types { options with jobs := jobs } processors
          (unit.report (unit.validate types) pool.inOrder) := .together halone hrun hfinished
      rw [(Pool.each_item_is_claimed_and_sent_once hpositive hrun hfinished).2] at hreport
      exact hreport

end CompilationUnit

namespace Counter

def reading : MethodDecl := method [] none [readX]

def idle : MethodDecl := method [⟨"a", "int"⟩] none []

def twoMethods : CompilationUnit := unit [reading, idle]

def outcome : Member → MemberOutcome :=
  Options.default.outcome twoMethods.types (twoMethods.validate twoMethods.types).guards

def members : List Member :=
  [member [reading, idle] reading, member [reading, idle] idle]

/-- The second worker takes the second method, sends its outcome and claims again, all while the
first worker is still busy with the first method. -/
def overtaking : List Pool.Action :=
  [.claim 0, .claim 1, .send 1, .claim 2, .send 0, .claim 3, .stop 2, .stop 3]

def early : Nat × MemberOutcome := (1, outcome (member [reading, idle] idle))

def late : Nat × MemberOutcome := (0, outcome (member [reading, idle] reading))

/-- Where the workers are at the end, and what they have sent. -/
def bothStopped : Pool MemberOutcome := ⟨4, [.stopped 3, .stopped 2], [early, late]⟩

theorem run_overtaking : Pool.Run outcome members (.start 2) overtaking bothStopped := by
  let Takes := Pool.Step outcome members
  have h1 : Takes (.start 2) (.claim 0) ⟨1, [.holding 0, .ready], []⟩ :=
    @Pool.Step.claim _ _ _ _ 0 [] [.ready] []
  have h2 : Takes ⟨1, [.holding 0, .ready], []⟩ (.claim 1) ⟨2, [.holding 0, .holding 1], []⟩ :=
    @Pool.Step.claim _ _ _ _ 1 [.holding 0] [] []
  have h3 : Takes ⟨2, [.holding 0, .holding 1], []⟩ (.send 1) ⟨2, [.holding 0, .ready], [early]⟩ :=
    @Pool.Step.send _ _ _ _ 2 1 [.holding 0] [] [] _ rfl
  have h4 : Takes ⟨2, [.holding 0, .ready], [early]⟩ (.claim 2)
      ⟨3, [.holding 0, .holding 2], [early]⟩ :=
    @Pool.Step.claim _ _ _ _ 2 [.holding 0] [] [early]
  have h5 : Takes ⟨3, [.holding 0, .holding 2], [early]⟩ (.send 0)
      ⟨3, [.ready, .holding 2], [early, late]⟩ :=
    @Pool.Step.send _ _ _ _ 3 0 [] [.holding 2] [early] _ rfl
  have h6 : Takes ⟨3, [.ready, .holding 2], [early, late]⟩ (.claim 3)
      ⟨4, [.holding 3, .holding 2], [early, late]⟩ :=
    @Pool.Step.claim _ _ _ _ 3 [] [.holding 2] [early, late]
  have h7 : Takes ⟨4, [.holding 3, .holding 2], [early, late]⟩ (.stop 2)
      ⟨4, [.holding 3, .stopped 2], [early, late]⟩ :=
    @Pool.Step.stop _ _ _ _ 4 2 [.holding 3] [] [early, late] rfl
  have h8 : Takes ⟨4, [.holding 3, .stopped 2], [early, late]⟩ (.stop 3) bothStopped :=
    @Pool.Step.stop _ _ _ _ 4 3 [] [.stopped 2] [early, late] rfl
  exact .andThen (.andThen (.andThen (.andThen (.andThen (.andThen (.andThen (.andThen .nothing
    h1) h2) h3) h4) h5) h6) h7) h8

theorem two_workers_out_of_order :
    Pool.Run outcome members (.start 2) overtaking bothStopped ∧ bothStopped.Finished ∧
      bothStopped.sent.map (·.1) = [1, 0] ∧ bothStopped.inOrder = members.map outcome ∧
      twoMethods.Reports twoMethods.types { Options.default with jobs := 2 } 1
        (twoMethods.check .default) := by
  have hfinished : bothStopped.Finished := by
    intro worker hmem
    rcases List.mem_pair.mp hmem with rfl | rfl
    · exact ⟨3, rfl⟩
    · exact ⟨2, rfl⟩
  obtain ⟨hruns, hreports⟩ := CompilationUnit.any_number_of_workers_reports_the_same outcome members
    twoMethods twoMethods.types .default
  obtain ⟨-, horder⟩ := hruns 2 overtaking bothStopped (by decide) run_overtaking hfinished
  exact ⟨run_overtaking, hfinished, rfl, horder, (hreports 2 1 _).mpr rfl⟩

end Counter

end LockDiscipline
