-- The search for release calls goes through every part of every statement in which a statement can
-- stand, so it finds each call that stands inside as a statement, at whatever depth.
import LockDiscipline.Analysis.Calls
import LockDiscipline.Proofs.Parts

namespace LockDiscipline

/-! ## The calls inside a statement -/

theorem evaluatedAll_eq (stmts : List Stmt) :
    Stmt.evaluatedAll stmts = stmts.flatMap Stmt.evaluated := by
  induction stmts with
  | nil => rfl
  | cons stmt rest ih => rw [Stmt.evaluatedAll, ih, List.flatMap_cons]

theorem evaluatedOption_eq (body : Option (List Stmt)) :
    Stmt.evaluatedOption body = body.toList.flatMap Stmt.evaluatedAll := by
  cases body <;> simp [Stmt.evaluatedOption]

/-- The expressions that a piece evaluates as statements. -/
def Piece.evaluated : Piece → List Expr
  | .expr _ => []
  | .stmt s => s.evaluated
  | .block body => Stmt.evaluatedAll body

/-- The expressions that the parts of a construct evaluate as statements. -/
def Piece.evaluatedIn (parts : List (Step × Piece)) : List Expr :=
  parts.flatMap fun p => p.2.evaluated

namespace Piece

@[simp] theorem evaluatedIn_nil : evaluatedIn [] = [] := rfl

@[simp] theorem evaluatedIn_cons (step : Step) (piece : Piece) (rest : List (Step × Piece)) :
    evaluatedIn ((step, piece) :: rest) = piece.evaluated ++ evaluatedIn rest := rfl

@[simp] theorem evaluatedIn_append (ps qs : List (Step × Piece)) :
    evaluatedIn (ps ++ qs) = evaluatedIn ps ++ evaluatedIn qs := List.flatMap_append

@[simp] theorem evaluatedIn_exprs (step : Step) (es : List Expr) :
    evaluatedIn (exprs step es) = [] := by
  induction es with
  | nil => rfl
  | cons e rest ih => exact ih

@[simp] theorem evaluatedIn_blocks (bodies : List (List Stmt)) :
    evaluatedIn (blocks bodies) = bodies.flatMap Stmt.evaluatedAll := by
  induction bodies with
  | nil => rfl
  | cons body rest ih =>
    rw [List.flatMap_cons, ← ih]
    rfl

@[simp] theorem evaluatedIn_inOrder (step : List Stmt → Step) (before stmts : List Stmt) :
    evaluatedIn (inOrder step before stmts) = Stmt.evaluatedAll stmts := by
  induction stmts generalizing before with
  | nil => rfl
  | cons s rest ih =>
    rw [Stmt.evaluatedAll, ← ih (before ++ [s])]
    rfl

@[simp] theorem evaluatedIn_ofCases (cases : List SwitchCase) :
    evaluatedIn (cases.flatMap ofCase) = Stmt.evaluatedCases cases := by
  induction cases with
  | nil => rfl
  | cons c rest ih =>
    cases c with
    | mk labels body => simp [ih, ofCase, evaluated, Stmt.evaluatedCases]

@[simp] theorem evaluatedIn_ofCatches (tried : List Stmt) (atEnd : Option (List Stmt))
    (catches : List CatchClause) :
    evaluatedIn (catches.map (ofCatch tried atEnd)) = Stmt.evaluatedCatches catches := by
  induction catches with
  | nil => rfl
  | cons c rest ih =>
    cases c with
    | mk param type body => simp [ih, ofCatch, evaluated, Stmt.evaluatedCatches]

/-- The expression that a statement itself evaluates. -/
def evaluatedHere : Stmt → List Expr
  | .evaluate e => [e]
  | _ => []

theorem mem_evaluatedHere (e : Expr) (s : Stmt) : e ∈ evaluatedHere s ↔ .evaluate e = s := by
  cases s <;> simp [evaluatedHere]

/-- The search for evaluated expressions goes through every part of every statement. -/
theorem evaluated_eq (s : Stmt) : s.evaluated = evaluatedHere s ++ evaluatedIn (ofStmt s) := by
  cases s <;> simp [ofStmt, Stmt.evaluated, evaluatedHere, evaluated, evaluatedOption_eq]

theorem mem_evaluatedIn {parts : List (Step × Piece)} {e : Expr} :
    e ∈ evaluatedIn parts ↔ ∃ st part, (st, part) ∈ parts ∧ e ∈ part.evaluated := by
  simp [evaluatedIn]

/-- An expression is found if it stands inside as a statement, at whatever depth. -/
theorem mem_evaluated_iff (e : Expr) (piece : Piece) :
    e ∈ piece.evaluated ↔ Inside (.evaluate e) piece := by
  induction piece using Piece.induction with
  | step piece ih =>
    cases piece with
    | expr e' => simp [evaluated, not_inside_expr]
    | stmt s =>
      rw [inside_stmt_iff, evaluated, evaluated_eq, List.mem_append, mem_evaluatedHere,
        mem_evaluatedIn]
      refine or_congr Iff.rfl ?_
      constructor
      · rintro ⟨st, part, hpart, he⟩
        exact ⟨st, part, hpart, (ih st part hpart).mp he⟩
      · rintro ⟨st, part, hpart, hin⟩
        exact ⟨st, part, hpart, (ih st part hpart).mpr hin⟩
    | block body =>
      rw [inside_block_iff, evaluated, evaluatedAll_eq, List.mem_flatMap]
      have hstmt : ∀ s ∈ body, e ∈ s.evaluated ↔ Inside (.evaluate e) (stmt s) := by
        intro s hs
        obtain ⟨earlier, later, rfl⟩ := List.append_of_mem hs
        exact ih _ (stmt s) (mem_inOrder.mpr ⟨earlier, s, later, rfl, rfl, rfl⟩)
      constructor
      · rintro ⟨s, hs, he⟩
        exact ⟨s, hs, (hstmt s hs).mp he⟩
      · rintro ⟨s, hs, hin⟩
        exact ⟨s, hs, (hstmt s hs).mpr hin⟩

end Piece

end LockDiscipline
