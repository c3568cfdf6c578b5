-- The locks held at an access are read off the constructs around it, from the outside in: what the
-- method holds from the beginning, the monitors whose bodies are around it, and the locks that the
-- try blocks around it are credited with. A lambda begins with nothing.
import LockDiscipline.Proofs.Credit

namespace LockDiscipline

open Piece (Occurrence)

namespace Setting

variable (setting : Setting)

/-! ## The locks of the constructs around a place -/

instance (locals : Locals) (lock : Guard) (path : Path) :
    Decidable (setting.TakenBefore locals lock path) :=
  decidable_of_iff _ (setting.contains_pending_placeAt_iff locals .empty path lock)

instance (lock : Guard) (locals : Locals) (body : List Stmt) :
    Decidable (setting.TakenFirst lock locals body) :=
  decidable_of_iff _ (setting.contains_first_iff lock locals body)

/-- The locks that a construct at the end of a path holds in the part that a step leads to: a
monitor in its body, and in a try block and its handlers what is released at the end of the block,
if it was taken before the block or by its first statement. -/
def takenBy (locals : Locals) (path : Path) : Step → List Guard
  | .monitor lock => [setting.canonical (setting.localsAt locals path) lock]
  | .attempt body atEnd | .handler body atEnd _ _ =>
    (setting.released (setting.localsAt locals path) (atEnd.getD [])).filter fun lock =>
      setting.TakenBefore locals lock path ∨
        setting.TakenFirst lock (setting.localsAt locals path) body
  | .within | .behind _ | .setUp _ | .binding _ _ | .lambda _ => []

/-- The locks of the constructs around the end of a path, outermost first, behind those that are
held where the path starts. Nothing outside a lambda counts inside it. -/
def lexicalLocks (locals : Locals) (entry : List Guard) : Path → List Guard
  | [] => entry
  | .lambda _ :: _ => []
  | step :: path => lexicalLocks locals entry path ++ setting.takenBy locals path step

theorem lexicalLocks_cons (locals : Locals) (entry : List Guard) {step : Step}
    (h : step.isLambda = false) (path : Path) :
    setting.lexicalLocks locals entry (step :: path) =
      setting.lexicalLocks locals entry path ++ setting.takenBy locals path step := by
  cases step with
  | lambda _ => cases h
  | _ => rfl

/-! ## The walk holds them -/

theorem credited_placeAt (locals : Locals) (held : HeldSet) (path : Path) (body : List Stmt)
    (atEnd : Option (List Stmt)) :
    let place := setting.placeAt (.opening locals held) path
    setting.credited place.locals place.pending body atEnd =
      (setting.released (setting.localsAt locals path) (atEnd.getD [])).filter fun lock =>
        setting.TakenBefore locals lock path ∨
          setting.TakenFirst lock (setting.localsAt locals path) body := by
  intro place
  have hlocals : place.locals = setting.localsAt locals path := setting.locals_placeAt ..
  unfold credited
  rw [hlocals]
  refine List.filter_congr fun lock _ => ?_
  rw [Bool.eq_iff_iff, List.contains_append, Bool.or_eq_true, contains_pending_placeAt_iff,
    contains_first_iff, decide_eq_true_iff]

theorem locks_insideTry (held : HeldSet) (credited : List Guard) :
    (insideTry held credited).locks = credited.foldl withLock held.locks := by
  unfold insideTry
  split
  · rename_i hempty
    rw [List.isEmpty_iff.mp hempty, List.foldl_nil]
  · rw [HeldSet.locks_plusAll, HeldSet.locks_enter]

/-- A step that is not into a lambda takes its locks one after the other. -/
theorem locks_placeAt_cons (locals : Locals) (held : HeldSet) {step : Step}
    (h : step.isLambda = false) (path : Path) :
    (setting.placeAt (.opening locals held) (step :: path)).held.locks =
      (setting.takenBy locals path step).foldl withLock
        (setting.placeAt (.opening locals held) path).held.locks := by
  have hlocals := setting.locals_placeAt (.opening locals held) path
  rw [placeAt_cons, into]
  cases step with
  | within | behind _ | setUp _ | binding _ _ => rfl
  | monitor lock =>
    rw [heldInto, HeldSet.locks_plus, HeldSet.locks_enter, hlocals]
    rfl
  | attempt body atEnd =>
    rw [heldInto, locks_insideTry, credited_placeAt]
    rfl
  | handler body atEnd name type =>
    rw [heldInto, locks_insideTry, credited_placeAt]
    rfl
  | lambda params => cases h

/-- The walk holds the locks of the constructs around a place. -/
theorem holds_placeAt {held : HeldSet} {entry : List Guard} (h : held.Holds entry)
    (locals : Locals) (path : Path) :
    (setting.placeAt (.opening locals held) path).held.Holds
      (setting.lexicalLocks locals entry path) := by
  induction path with
  | nil => exact h
  | cons step path ih =>
    cases hlambda : step.isLambda with
    | true =>
      cases step with
      | lambda params => exact HeldSet.holds_nothing
      | _ => cases hlambda
    | false =>
      unfold HeldSet.Holds at ih ⊢
      rw [setting.locks_placeAt_cons locals held hlambda, ih,
        setting.lexicalLocks_cons locals entry hlambda, eraseDups_append]

/-- Every lock that a construct takes is the canonical form of an expression where it stands. -/
theorem exists_canonical_of_mem_takenBy {locals : Locals} {path : Path} {step : Step} {lock : Guard}
    (h : lock ∈ setting.takenBy locals path step) :
    ∃ e, setting.canonical (setting.localsAt locals path) e = lock := by
  cases step with
  | within | behind _ | setUp _ | binding _ _ | lambda _ => cases h
  | monitor lock =>
    cases List.mem_singleton.mp h
    exact ⟨lock, rfl⟩
  | attempt body atEnd =>
    exact setting.exists_canonical_of_mem_released (List.mem_filter.mp h).1
  | handler body atEnd name type =>
    exact setting.exists_canonical_of_mem_released (List.mem_filter.mp h).1

theorem holds_entryLocks (method : MethodDecl) :
    (setting.entryLocks method).Holds (setting.entryLocks method).locks := by
  unfold entryLocks
  split
  · exact HeldSet.holds_nothing
  · exact (HeldSet.holds_nothing.plusAll _).self

/-! ## The accesses of a method -/

/-- The locals where the body of a method begins. -/
def parameters (method : MethodDecl) : Locals := setting.bindAll [] method.params

/-- The place where the body of a method begins. -/
def start (method : MethodDecl) : Place :=
  .opening (setting.parameters method) (setting.entryLocks method)

theorem accesses_of_constructor {method : MethodDecl} (h : method.isConstructor = true) :
    setting.accesses method = [] := if_pos h

theorem accesses_of_method {method : MethodDecl} (h : method.isConstructor = false) :
    setting.accesses method = setting.walk (setting.start method) (.block method.body) :=
  if_neg (Bool.eq_false_iff.mp h)

/-- The accesses of a method are those of the expressions in it, one after the other. -/
theorem accesses_eq_occurrences {method : MethodDecl} (h : method.isConstructor = false) :
    setting.accesses method =
      ((Piece.block method.body).occurrences []).filterMap
        (setting.accessAt (setting.start method)) := by
  rw [setting.accesses_of_method h, ← setting.walk_eq_occurrences, placeAt_nil]

/-- Every access of a method is that of an expression in it. -/
theorem exists_accessAt_of_mem_accesses {method : MethodDecl} {access : Access}
    (h : access ∈ setting.accesses method) :
    ∃ occurrence ∈ (Piece.block method.body).occurrences [],
      setting.accessAt (setting.start method) occurrence = some access := by
  cases hc : method.isConstructor with
  | true =>
    rw [setting.accesses_of_constructor hc] at h
    cases h
  | false =>
    rw [setting.accesses_eq_occurrences hc] at h
    exact List.mem_filterMap.mp h

/-- What is to be reported of an expression of a method: the guard that the expression by itself
needs with the locals in scope there, if it needs one, and the locks of the constructs around
it. -/
def lexicalAccess (method : MethodDecl) (occurrence : Occurrence) :
    Option (Expr × Guard × List Guard) :=
  let locals := setting.parameters method
  let entry := (setting.entryLocks method).locks
  (setting.needs (setting.localsAt locals occurrence.path) occurrence.expr).map
    (occurrence.expr, ·, (setting.lexicalLocks locals entry occurrence.path).eraseDups)

/-- A method that is no constructor reports each expression of its body that needs a guard, once and
in the order of evaluation, with the locks of the constructs around it, outermost first and each
once. -/
theorem every_access_holds_its_lexical_locks (method : MethodDecl)
    (h : method.isConstructor = false) :
    (setting.accesses method).map (fun access => (access.expr, access.guard, access.held.locks)) =
      ((Piece.block method.body).occurrences []).filterMap (setting.lexicalAccess method) := by
  have hwalk := setting.walk_eq_occurrences
    (.opening (setting.parameters method) (setting.entryLocks method)) [] (.block method.body)
  have haccesses : setting.accesses method =
      ((Piece.block method.body).occurrences []).filterMap
        (setting.accessAt (.opening (setting.parameters method) (setting.entryLocks method))) := by
    rw [← hwalk, accesses, h]
    rfl
  rw [haccesses, List.map_filterMap]
  congr 1
  funext occurrence
  have hheld := setting.holds_placeAt (setting.holds_entryLocks method)
    (setting.parameters method) occurrence.path
  rw [accessAt, accessOf, lexicalAccess, Option.map_map, locals_placeAt, ← hheld]
  rfl

end Setting

namespace Counter

/-- Takes `mu`, reads `x` in a try block, and makes a lambda there that reads it too. -/
def readsTwice : MethodDecl :=
  method [] none
    [.evaluate (onMu "lock"),
      releasing
        [.evaluate (.name "x" .unknown),
          .returns (some (.lambda [] [.evaluate (.name "x" .unknown)] .unknown)) .unknown]]

theorem a_lambda_in_a_try_block_holds_nothing :
    let setting := setting [readsTwice] readsTwice
    readsTwice.isConstructor = false ∧
      (setting.accesses readsTwice).map (·.held.locks) = [[mu], []] ∧
      (setting.accesses readsTwice).map
          (fun access => (access.expr, access.guard, access.held.locks)) =
        ((Piece.block readsTwice.body).occurrences []).filterMap
          (setting.lexicalAccess readsTwice) := by
  intro setting
  exact ⟨rfl, by decide +kernel, setting.every_access_holds_its_lexical_locks readsTwice rfl⟩

end Counter

end LockDiscipline
