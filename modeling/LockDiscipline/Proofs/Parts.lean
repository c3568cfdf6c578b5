-- A method body is a tree. What every construct has in it, and in which order that is evaluated, is
-- listed here once, each part with the step that leads to it. Laws about whole bodies go down this
-- list and not through the constructs again.
import LockDiscipline.Program.Expr
import Mathlib.Data.List.Flatten

namespace LockDiscipline

/-! ## The parts of a construct -/

/-- A piece of a method body. A block is a list of statements that run one after the other. -/
inductive Piece
  | expr (expr : Expr)
  | stmt (stmt : Stmt)
  | block (body : List Stmt)

/-- How a part lies in the construct around it. -/
inductive Step
  /-- As everything else in it. -/
  | within
  /-- Behind the earlier statements of its block. -/
  | behind (before : List Stmt)
  /-- Behind the statements that set up a loop, or behind some of them. -/
  | setUp (before : List Stmt)
  /-- With a variable of its own. -/
  | binding (name type : String)
  /-- While the monitor of an object is held. -/
  | monitor (lock : Expr)
  /-- In a block whose end is always reached. -/
  | attempt (body : List Stmt) (atEnd : Option (List Stmt))
  /-- In a handler of such a block, with the variable that it binds. -/
  | handler (body : List Stmt) (atEnd : Option (List Stmt)) (name type : String)
  /-- In a function, which may run later. -/
  | lambda (params : List Param)

/-- The steps from a piece of a body out to the body itself, the innermost first. -/
abbrev Path := List Step

def Step.isLambda : Step → Bool
  | lambda _ => true
  | _ => false

namespace Piece

/-- Statements in order, each with those before it. -/
def inOrder (step : List Stmt → Step) (before : List Stmt) : List Stmt → List (Step × Piece)
  | [] => []
  | s :: rest => (step before, stmt s) :: inOrder step (before ++ [s]) rest

/-- Expressions in order, all reached by the same step. -/
def exprs (step : Step) (es : List Expr) : List (Step × Piece) := es.map fun e => (step, expr e)

/-- Blocks in order, all reached without further ado. -/
def blocks (bodies : List (List Stmt)) : List (Step × Piece) :=
  bodies.map fun body => (.within, block body)

def ofCase : SwitchCase → List (Step × Piece)
  | .mk labels body => exprs .within labels ++ [(.within, block body)]

def ofCatch (tried : List Stmt) (atEnd : Option (List Stmt)) : CatchClause → Step × Piece
  | .mk param type body => (.handler tried atEnd param type, block body)

/-- The parts of an expression in the order of evaluation: a receiver before the arguments, a target
before the value. -/
def ofExpr : Expr → List (Step × Piece)
  | .this _ | .qualifiedThis _ _ | .name _ _ | .classLit _ _ | .literal _ _ => []
  | .select receiver _ _ => exprs .within [receiver]
  | .call receiver _ args _ => exprs .within (receiver.toList ++ args)
  | .new _ args _ => exprs .within args
  | .assign target value _ _ => exprs .within [target, value]
  | .unary _ operand _ => exprs .within [operand]
  | .binary _ lhs rhs _ => exprs .within [lhs, rhs]
  | .conditional cond thenVal elseVal _ => exprs .within [cond, thenVal, elseVal]
  | .index base i _ => exprs .within [base, i]
  | .cast _ e _ => exprs .within [e]
  | .lambda params body _ => [(.lambda params, block body)]

/-- The parts of a statement in the order of evaluation. -/
def ofStmt : Stmt → List (Step × Piece)
  | .breaks _ | .continues _ => []
  | .evaluate e => exprs .within [e]
  | .declare _ _ init _ => exprs .within init.toList
  | .returns value _ => exprs .within value.toList
  | .throws value _ => exprs .within [value]
  | .block body _ => blocks [body]
  | .ifElse cond thenBranch elseBranch _ =>
    exprs .within [cond] ++ blocks (thenBranch :: elseBranch.toList)
  | .whileLoop cond body _ => exprs .within [cond] ++ blocks [body]
  | .doWhile body cond _ => blocks [body] ++ exprs .within [cond]
  | .forLoop init cond update body _ =>
    inOrder .setUp [] init ++ exprs (.setUp init) cond.toList ++ [(.setUp init, block body)]
      ++ exprs (.setUp init) update
  | .forEach var type iterable body _ =>
    exprs .within [iterable] ++ [(.binding var type, block body)]
  | .switch subject cases _ => exprs .within [subject] ++ cases.flatMap ofCase
  | .synchronized lock body _ => exprs .within [lock] ++ [(.monitor lock, block body)]
  | .tryBlock body catches atEnd _ =>
    [(.attempt body atEnd, block body)] ++ catches.map (ofCatch body atEnd) ++ blocks atEnd.toList

/-- The parts of a piece in the order of evaluation. -/
def parts : Piece → List (Step × Piece)
  | expr e => ofExpr e
  | stmt s => ofStmt s
  | block body => inOrder .behind [] body

/-! ## Going down -/

theorem mem_exprs {step : Step} {es : List Expr} {st : Step} {part : Piece} :
    (st, part) ∈ exprs step es ↔ st = step ∧ ∃ e ∈ es, part = expr e := by
  unfold exprs
  rw [List.mem_map]
  constructor
  · rintro ⟨e, he, heq⟩
    cases heq
    exact ⟨rfl, e, he, rfl⟩
  · rintro ⟨rfl, e, he, rfl⟩
    exact ⟨e, he, rfl⟩

/-- The statements of a list, each behind those that stand before it in the list. -/
theorem mem_inOrder {step : List Stmt → Step} {before stmts : List Stmt} {st : Step}
    {part : Piece} :
    (st, part) ∈ inOrder step before stmts ↔
      ∃ earlier s later, stmts = earlier ++ s :: later ∧ st = step (before ++ earlier) ∧
        part = stmt s := by
  induction stmts generalizing before with
  | nil => simp [inOrder]
  | cons first rest ih =>
    rw [inOrder, List.mem_cons, ih]
    constructor
    · rintro (h | ⟨earlier, s, later, rfl, rfl, rfl⟩)
      · cases h
        exact ⟨[], first, rest, rfl, by simp, rfl⟩
      · exact ⟨first :: earlier, s, later, rfl, by simp, rfl⟩
    · rintro ⟨earlier, s, later, hsplit, rfl, rfl⟩
      cases earlier with
      | nil =>
        cases hsplit
        exact Or.inl (by simp)
      | cons e earlier =>
        cases hsplit
        exact Or.inr ⟨earlier, s, later, rfl, by simp, rfl⟩

theorem sizeOf_of_mem_single {step st : Step} {e : Expr} {part : Piece}
    (h : (st, part) ∈ exprs step [e]) : sizeOf part = 1 + sizeOf e := by
  cases List.mem_singleton.mp h
  rw [expr.sizeOf_spec]

theorem sizeOf_lt_of_mem_exprs {step st : Step} {es : List Expr} {part : Piece}
    (h : (st, part) ∈ exprs step es) : sizeOf part < 1 + sizeOf es := by
  obtain ⟨-, e, he, rfl⟩ := mem_exprs.mp h
  have := List.sizeOf_lt_of_mem he
  rw [expr.sizeOf_spec]
  omega

theorem sizeOf_lt_of_mem_optional {step st : Step} {e : Option Expr} {part : Piece}
    (h : (st, part) ∈ exprs step e.toList) : sizeOf part < 1 + sizeOf e := by
  cases e with
  | none => cases h
  | some e =>
    rw [sizeOf_of_mem_single h, Option.some.sizeOf_spec]
    omega

theorem sizeOf_of_mem_block {st : Step} {body : List Stmt} {part : Piece}
    (h : (st, part) ∈ blocks [body]) : sizeOf part = 1 + sizeOf body := by
  cases List.mem_singleton.mp h
  rw [block.sizeOf_spec]

theorem sizeOf_lt_of_mem_branch {st : Step} {body : Option (List Stmt)} {part : Piece}
    (h : (st, part) ∈ blocks body.toList) : sizeOf part < 1 + sizeOf body := by
  cases body with
  | none => cases h
  | some body =>
    rw [sizeOf_of_mem_block h, Option.some.sizeOf_spec]
    omega

theorem sizeOf_lt_of_mem_inOrder {step : List Stmt → Step} {before stmts : List Stmt} {st : Step}
    {part : Piece} (h : (st, part) ∈ inOrder step before stmts) :
    sizeOf part < 1 + sizeOf stmts := by
  obtain ⟨earlier, s, later, rfl, -, rfl⟩ := mem_inOrder.mp h
  have hmem : s ∈ earlier ++ s :: later := by simp
  have := List.sizeOf_lt_of_mem hmem
  rw [stmt.sizeOf_spec]
  omega

theorem sizeOf_lt_of_mem_ofCase {st : Step} {c : SwitchCase} {part : Piece}
    (h : (st, part) ∈ ofCase c) : sizeOf part < 1 + sizeOf c := by
  cases c with
  | mk labels body =>
    rw [ofCase, List.mem_append, List.mem_singleton] at h
    rw [SwitchCase.mk.sizeOf_spec]
    rcases h with h | h
    · have := sizeOf_lt_of_mem_exprs h
      omega
    · cases h
      rw [block.sizeOf_spec]
      omega

theorem sizeOf_lt_of_mem_ofCatch {st : Step} {c : CatchClause} {tried : List Stmt}
    {atEnd : Option (List Stmt)} {part : Piece} (h : (st, part) = ofCatch tried atEnd c) :
    sizeOf part < 1 + sizeOf c := by
  cases c with
  | mk param type body =>
    cases h
    rw [block.sizeOf_spec, CatchClause.mk.sizeOf_spec]
    omega

theorem sizeOf_lt_of_mem_ofExpr {st : Step} {e : Expr} {part : Piece}
    (h : (st, part) ∈ ofExpr e) : sizeOf part < 1 + sizeOf e := by
  cases e with
  | this _ | qualifiedThis _ _ | name _ _ | classLit _ _ | literal _ _ => cases h
  | lambda params body _ =>
    cases List.mem_singleton.mp h
    rw [block.sizeOf_spec, Expr.lambda.sizeOf_spec]
    omega
  | call receiver _ args _ =>
    rw [Expr.call.sizeOf_spec]
    obtain ⟨-, e, he, rfl⟩ := mem_exprs.mp h
    rw [expr.sizeOf_spec]
    rcases List.mem_append.mp he with he | he
    · rw [Option.mem_toList.mp he, Option.some.sizeOf_spec]
      omega
    · have := List.sizeOf_lt_of_mem he
      omega
  | new _ args _ =>
    have := sizeOf_lt_of_mem_exprs h
    rw [Expr.new.sizeOf_spec]
    omega
  | _ =>
    obtain ⟨-, e, he, rfl⟩ := mem_exprs.mp h
    rw [expr.sizeOf_spec]
    simp only [List.mem_cons, List.not_mem_nil, or_false] at he
    rcases he with rfl | rfl | rfl <;> simp <;> omega

theorem sizeOf_lt_of_mem_ofStmt {st : Step} {s : Stmt} {part : Piece}
    (h : (st, part) ∈ ofStmt s) : sizeOf part < 1 + sizeOf s := by
  cases s with
  | breaks _ | continues _ => cases h
  | evaluate e =>
    rw [sizeOf_of_mem_single h, Stmt.evaluate.sizeOf_spec]
    omega
  | throws value _ =>
    rw [sizeOf_of_mem_single h, Stmt.throws.sizeOf_spec]
    omega
  | declare _ _ value _ =>
    have := sizeOf_lt_of_mem_optional h
    rw [Stmt.declare.sizeOf_spec]
    omega
  | returns value _ =>
    have := sizeOf_lt_of_mem_optional h
    rw [Stmt.returns.sizeOf_spec]
    omega
  | block body _ =>
    rw [sizeOf_of_mem_block h, Stmt.block.sizeOf_spec]
    omega
  | ifElse cond thenBranch elseBranch _ =>
    rw [Stmt.ifElse.sizeOf_spec]
    rcases List.mem_append.mp h with h | h
    · rw [sizeOf_of_mem_single h]
      omega
    · rcases List.mem_cons.mp h with h | h
      · cases h
        rw [block.sizeOf_spec]
        omega
      · have := sizeOf_lt_of_mem_branch h
        omega
  | whileLoop cond body _ =>
    rw [Stmt.whileLoop.sizeOf_spec]
    rcases List.mem_append.mp h with h | h
    · rw [sizeOf_of_mem_single h]
      omega
    · rw [sizeOf_of_mem_block h]
      omega
  | doWhile body cond _ =>
    rw [Stmt.doWhile.sizeOf_spec]
    rcases List.mem_append.mp h with h | h
    · rw [sizeOf_of_mem_block h]
      omega
    · rw [sizeOf_of_mem_single h]
      omega
  | forLoop init cond update body _ =>
    rw [Stmt.forLoop.sizeOf_spec]
    simp only [ofStmt, List.mem_append, List.mem_singleton] at h
    rcases h with ((h | h) | h) | h
    · have := sizeOf_lt_of_mem_inOrder h
      omega
    · have := sizeOf_lt_of_mem_optional h
      omega
    · cases h
      rw [block.sizeOf_spec]
      omega
    · have := sizeOf_lt_of_mem_exprs h
      omega
  | forEach var type iterable body _ =>
    rw [Stmt.forEach.sizeOf_spec]
    rcases List.mem_append.mp h with h | h
    · rw [sizeOf_of_mem_single h]
      omega
    · cases List.mem_singleton.mp h
      rw [block.sizeOf_spec]
      omega
  | synchronized lock body _ =>
    rw [Stmt.synchronized.sizeOf_spec]
    rcases List.mem_append.mp h with h | h
    · rw [sizeOf_of_mem_single h]
      omega
    · cases List.mem_singleton.mp h
      rw [block.sizeOf_spec]
      omega
  | switch subject cases _ =>
    rw [Stmt.switch.sizeOf_spec]
    rcases List.mem_append.mp h with h | h
    · rw [sizeOf_of_mem_single h]
      omega
    · obtain ⟨c, hc, h⟩ := List.mem_flatMap.mp h
      have := List.sizeOf_lt_of_mem hc
      have := sizeOf_lt_of_mem_ofCase h
      omega
  | tryBlock body catches atEnd _ =>
    rw [Stmt.tryBlock.sizeOf_spec]
    simp only [ofStmt, List.mem_append, List.mem_singleton] at h
    rcases h with (h | h) | h
    · cases h
      rw [block.sizeOf_spec]
      omega
    · obtain ⟨c, hc, h⟩ := List.mem_map.mp h
      have := List.sizeOf_lt_of_mem hc
      have := sizeOf_lt_of_mem_ofCatch h.symm
      omega
    · have := sizeOf_lt_of_mem_branch h
      omega

/-- Every part is smaller than what it is a part of. -/
theorem sizeOf_lt_of_mem_parts {st : Step} {piece part : Piece} (h : (st, part) ∈ piece.parts) :
    sizeOf part < sizeOf piece := by
  cases piece with
  | expr e => exact sizeOf_lt_of_mem_ofExpr h
  | stmt s => exact sizeOf_lt_of_mem_ofStmt h
  | block body => exact sizeOf_lt_of_mem_inOrder h

/-- What holds of a piece as soon as it holds of its parts holds of every piece. -/
theorem induction {motive : Piece → Prop}
    (step : ∀ piece : Piece, (∀ st part, (st, part) ∈ piece.parts → motive part) → motive piece)
    (piece : Piece) : motive piece :=
  step piece fun _ part _ => induction step part
termination_by sizeOf piece
decreasing_by exact sizeOf_lt_of_mem_parts ‹_›

/-! ## Everything inside -/

/-- An expression at its place in a body. -/
structure Occurrence where
  path : Path
  expr : Expr

/-- The occurrence that a piece itself is, if it is an expression. -/
def itself (path : Path) : Piece → List Occurrence
  | expr e => [⟨path, e⟩]
  | stmt _ | block _ => []

/-- Every expression inside a piece in the order of evaluation, an expression behind its parts. The
path leads to the piece. -/
def occurrences (path : Path) (piece : Piece) : List Occurrence :=
  (piece.parts.attach.flatMap fun p => occurrences (p.1.1 :: path) p.1.2) ++ piece.itself path
termination_by sizeOf piece
decreasing_by exact sizeOf_lt_of_mem_parts p.2

theorem occurrences_eq (path : Path) (piece : Piece) :
    piece.occurrences path =
      (piece.parts.flatMap fun p => p.2.occurrences (p.1 :: path)) ++ piece.itself path := by
  rw [occurrences, List.flatMap_subtype (g := fun p => p.2.occurrences (p.1 :: path))
    fun _ _ => rfl, List.unattach_attach]

/-- The expressions of some parts come among those of the whole, in the order of the parts. -/
theorem occurrences_sublist {piece : Piece} {parts : List (Step × Piece)}
    (h : parts.Sublist piece.parts) (path : Path) :
    (parts.flatMap fun p => p.2.occurrences (p.1 :: path)).Sublist (piece.occurrences path) := by
  rw [occurrences_eq path piece]
  exact (h.flatMap _).trans (List.sublist_append_left _ _)

/-- An expression in an earlier part is evaluated before one in a later part. -/
theorem pair_sublist_occurrences {piece : Piece} {path : Path} {part later : Step × Piece}
    (h : [part, later].Sublist piece.parts) {first second : Occurrence}
    (hfirst : first ∈ part.2.occurrences (part.1 :: path))
    (hsecond : second ∈ later.2.occurrences (later.1 :: path)) :
    [first, second].Sublist (piece.occurrences path) := by
  refine List.Sublist.trans ?_ (occurrences_sublist h path)
  rw [List.flatMap_cons, List.flatMap_cons, List.flatMap_nil, List.append_nil]
  exact List.Sublist.append (List.singleton_sublist.mpr hfirst)
    (List.singleton_sublist.mpr hsecond)

theorem occurrences_part_sublist {st : Step} {piece part : Piece} (h : (st, part) ∈ piece.parts)
    (path : Path) : (part.occurrences (st :: path)).Sublist (piece.occurrences path) := by
  have hsublist := occurrences_sublist (List.singleton_sublist.mpr h) path
  rwa [List.flatMap_singleton] at hsublist

theorem mem_occurrences_of_mem_parts {st : Step} {piece part : Piece} {path : Path}
    {occurrence : Occurrence} (h : (st, part) ∈ piece.parts)
    (ho : occurrence ∈ part.occurrences (st :: path)) : occurrence ∈ piece.occurrences path :=
  (occurrences_part_sublist h path).subset ho

theorem self_mem_occurrences (path : Path) (e : Expr) :
    ⟨path, e⟩ ∈ (expr e).occurrences path := by
  rw [occurrences_eq]
  exact List.mem_append_right _ (List.mem_singleton_self _)

/-- The path of an expression goes on from the path to the piece around it. -/
theorem exists_inner_of_mem_occurrences {piece : Piece} {path : Path} {occurrence : Occurrence}
    (h : occurrence ∈ piece.occurrences path) : ∃ inner, occurrence.path = inner ++ path := by
  induction piece using Piece.induction generalizing path with
  | step piece ih =>
    rw [occurrences_eq, List.mem_append, List.mem_flatMap] at h
    rcases h with ⟨⟨st, part⟩, hpart, ho⟩ | h
    · obtain ⟨inner, hinner⟩ := ih st part hpart ho
      exact ⟨inner ++ [st], by rw [hinner, List.append_assoc, List.singleton_append]⟩
    · cases piece with
      | stmt _ | block _ => cases h
      | expr e =>
        cases List.mem_singleton.mp h
        exact ⟨[], rfl⟩

/-- A piece stands inside a whole one, at the end of a path. -/
inductive StandsAt (whole : Piece) : Path → Piece → Prop
  | whole : StandsAt whole [] whole
  | part {path : Path} {piece part : Piece} {st : Step} : StandsAt whole path piece →
      (st, part) ∈ piece.parts → StandsAt whole (st :: path) part

/-- Wherever the path of an expression is cut, a piece stands there, and the expression is in the
part of it that the next step leads to. -/
theorem exists_part_of_mem_occurrences {whole piece : Piece} {path inner mid : Path} {step : Step}
    {occurrence : Occurrence} (hpiece : StandsAt whole path piece)
    (h : occurrence ∈ piece.occurrences path)
    (hpath : occurrence.path = inner ++ step :: (mid ++ path)) :
    ∃ construct part, StandsAt whole (mid ++ path) construct ∧ (step, part) ∈ construct.parts ∧
      occurrence ∈ part.occurrences (step :: (mid ++ path)) := by
  induction piece using Piece.induction generalizing path mid with
  | step piece ih =>
    rw [occurrences_eq, List.mem_append, List.mem_flatMap] at h
    rcases h with ⟨⟨st, part⟩, hpart, ho⟩ | h
    · obtain ⟨inner', hinner⟩ := exists_inner_of_mem_occurrences ho
      rw [hpath] at hinner
      -- The cut is either right behind this piece or further in.
      rcases List.eq_nil_or_concat mid with rfl | ⟨mid, last, rfl⟩
      · cases (List.append_inj' hinner rfl).2
        exact ⟨piece, part, hpiece, hpart, ho⟩
      · have hmid : mid.concat last ++ path = mid ++ last :: path := by
          rw [List.concat_eq_append, List.append_assoc, List.singleton_append]
        rw [hmid] at hpath hinner ⊢
        rw [← List.cons_append, ← List.append_assoc] at hinner
        cases (List.append_inj' hinner rfl).2
        exact ih st part hpart (.part hpiece hpart) ho hpath
    · cases piece with
      | stmt _ | block _ => cases h
      | expr e =>
        cases List.mem_singleton.mp h
        have hlength := congrArg List.length hpath
        simp only [List.length_append, List.length_cons] at hlength
        omega

/-- A statement stands inside a piece at any depth, but not inside an expression of it. The only
statements there are those of lambdas. -/
inductive Inside (s : Stmt) : Piece → Prop
  | here : Inside s (stmt s)
  | within {t : Stmt} {st : Step} {part : Piece} : (st, part) ∈ ofStmt t → Inside s part →
      Inside s (stmt t)
  | among {t : Stmt} {body : List Stmt} : t ∈ body → Inside s (stmt t) → Inside s (block body)

theorem not_inside_expr (s : Stmt) (e : Expr) : ¬ Inside s (expr e) := nofun

theorem inside_stmt_iff (s t : Stmt) :
    Inside s (stmt t) ↔ s = t ∨ ∃ st part, (st, part) ∈ ofStmt t ∧ Inside s part := by
  constructor
  · intro h
    cases h with
    | here => exact Or.inl rfl
    | within hmem hin => exact Or.inr ⟨_, _, hmem, hin⟩
  · rintro (rfl | ⟨st, part, hmem, hin⟩)
    · exact .here
    · exact .within hmem hin

/-- An evaluated expression has no statement inside but itself. -/
theorem inside_evaluate_iff (s : Stmt) (e : Expr) :
    Inside s (stmt (.evaluate e)) ↔ s = .evaluate e := by
  rw [inside_stmt_iff]
  refine or_iff_left ?_
  rintro ⟨st, part, hpart, hin⟩
  obtain ⟨-, e', -, rfl⟩ := mem_exprs.mp hpart
  exact not_inside_expr s e' hin

theorem inside_block_iff (s : Stmt) (body : List Stmt) :
    Inside s (block body) ↔ ∃ t ∈ body, Inside s (stmt t) := by
  constructor
  · intro h
    cases h with
    | among ht hin => exact ⟨_, ht, hin⟩
  · rintro ⟨t, ht, hin⟩
    exact .among ht hin

theorem StandsAt.append {whole piece part : Piece} {outer inner : Path}
    (houter : StandsAt whole outer piece) (hinner : StandsAt piece inner part) :
    StandsAt whole (inner ++ outer) part := by
  induction hinner with
  | whole => exact houter
  | part _ hpart ih => exact .part ih hpart

/-- The parts of an expression are expressions, but for the body of a lambda. -/
theorem expr_of_mem_ofExpr {st : Step} {e : Expr} {part : Piece} (h : (st, part) ∈ ofExpr e)
    (hst : st.isLambda = false) : ∃ e', part = .expr e' := by
  cases e with
  | this _ | qualifiedThis _ _ | name _ _ | classLit _ _ | literal _ _ => cases h
  | lambda params body _ =>
    cases List.mem_singleton.mp h
    cases hst
  | _ =>
    obtain ⟨-, e', -, rfl⟩ := mem_exprs.mp h
    exact ⟨e', rfl⟩

/-- What stands inside a part stands inside the piece, if no lambda is around it there. -/
theorem StandsAt.inside {whole piece : Piece} {path : Path} {s : Stmt}
    (h : StandsAt whole path piece) (hpath : ∀ step ∈ path, step.isLambda = false)
    (hin : Inside s piece) : Inside s whole := by
  induction h with
  | whole => exact hin
  | part hstands hpart ih =>
    rename_i path piece part st
    apply ih (fun step hstep => hpath step (List.mem_cons_of_mem _ hstep))
    cases piece with
    | expr e =>
      obtain ⟨e', rfl⟩ := expr_of_mem_ofExpr hpart (hpath st List.mem_cons_self)
      exact absurd hin (not_inside_expr s e')
    | stmt t => exact .within hpart hin
    | block body =>
      obtain ⟨earlier, t, later, rfl, -, rfl⟩ := mem_inOrder.mp hpart
      exact .among (List.mem_append_right _ List.mem_cons_self) hin

theorem not_isLambda_of_mem_ofStmt {st : Step} {s : Stmt} {part : Piece}
    (h : (st, part) ∈ ofStmt s) : st.isLambda = false := by
  have hexprs : ∀ {step : Step} {es : List Expr}, (st, part) ∈ exprs step es →
      step.isLambda = false → st.isLambda = false := by
    intro step es hmem hstep
    obtain ⟨rfl, -⟩ := mem_exprs.mp hmem
    exact hstep
  have hblocks : ∀ {bodies : List (List Stmt)}, (st, part) ∈ blocks bodies →
      st.isLambda = false := by
    intro bodies hmem
    obtain ⟨body, -, heq⟩ := List.mem_map.mp hmem
    cases heq
    rfl
  cases s with
  | breaks _ | continues _ => cases h
  | evaluate e => exact hexprs h rfl
  | declare name type init _ => exact hexprs h rfl
  | returns value _ => exact hexprs h rfl
  | throws value _ => exact hexprs h rfl
  | block body _ => exact hblocks h
  | ifElse cond thenBranch elseBranch _ =>
    rcases List.mem_append.mp h with h | h
    · exact hexprs h rfl
    · exact hblocks h
  | whileLoop cond body _ =>
    rcases List.mem_append.mp h with h | h
    · exact hexprs h rfl
    · exact hblocks h
  | doWhile body cond _ =>
    rcases List.mem_append.mp h with h | h
    · exact hblocks h
    · exact hexprs h rfl
  | forLoop init cond update body _ =>
    simp only [ofStmt, List.mem_append, List.mem_singleton] at h
    rcases h with ((h | h) | h) | h
    · obtain ⟨earlier, s, later, -, rfl, -⟩ := mem_inOrder.mp h
      rfl
    · exact hexprs h rfl
    · cases h
      rfl
    · exact hexprs h rfl
  | forEach var type iterable body _ =>
    rcases List.mem_append.mp h with h | h
    · exact hexprs h rfl
    · cases List.mem_singleton.mp h
      rfl
  | switch subject cases _ =>
    rcases List.mem_append.mp h with h | h
    · exact hexprs h rfl
    · obtain ⟨⟨labels, body⟩, -, h⟩ := List.mem_flatMap.mp h
      rcases List.mem_append.mp h with h | h
      · exact hexprs h rfl
      · cases List.mem_singleton.mp h
        rfl
  | synchronized lock body _ =>
    rcases List.mem_append.mp h with h | h
    · exact hexprs h rfl
    · cases List.mem_singleton.mp h
      rfl
  | tryBlock body catches atEnd _ =>
    simp only [ofStmt, List.mem_append, List.mem_singleton] at h
    rcases h with (h | h) | h
    · cases h
      rfl
    · obtain ⟨⟨param, type, handler⟩, -, heq⟩ := List.mem_map.mp h
      cases heq
      rfl
    · exact hblocks h

/-- A way into a part that enters no lambda goes on from a step to the part that enters none. -/
theorem exists_way_of_mem_parts {piece part : Piece} {st : Step} {s : Stmt}
    (hpart : (st, part) ∈ piece.parts) (hst : st.isLambda = false)
    (h : ∃ path, StandsAt part path (.stmt s) ∧ ∀ step ∈ path, step.isLambda = false) :
    ∃ path, StandsAt piece path (.stmt s) ∧ ∀ step ∈ path, step.isLambda = false := by
  obtain ⟨path, hstands, hpath⟩ := h
  refine ⟨path ++ [st], StandsAt.append (.part .whole hpart) hstands, ?_⟩
  intro step hstep
  rcases List.mem_append.mp hstep with hstep | hstep
  · exact hpath step hstep
  · cases List.mem_singleton.mp hstep
    exact hst

/-- A statement stands inside a piece exactly if a way leads to it that enters no lambda. -/
theorem inside_iff_standsAt {s : Stmt} {piece : Piece} :
    Inside s piece ↔
      ∃ path, StandsAt piece path (.stmt s) ∧ ∀ step ∈ path, step.isLambda = false := by
  constructor
  · intro h
    induction h with
    | here => exact ⟨[], .whole, nofun⟩
    | within hpart _ ih =>
      exact exists_way_of_mem_parts hpart (not_isLambda_of_mem_ofStmt hpart) ih
    | @among t body ht _ ih =>
      obtain ⟨earlier, later, rfl⟩ := List.append_of_mem ht
      have hpart : (.behind earlier, .stmt t) ∈ (Piece.block (earlier ++ t :: later)).parts :=
        mem_inOrder.mpr ⟨earlier, t, later, rfl, rfl, rfl⟩
      exact exists_way_of_mem_parts hpart rfl ih
  · rintro ⟨path, hstands, hpath⟩
    exact hstands.inside hpath .here

end Piece

end LockDiscipline
