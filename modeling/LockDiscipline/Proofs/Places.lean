-- The walk reads each part of a body at a place: the locals, the locks held and the locks that stay
-- taken there. A step into a part decides the place of the part from the place around it, and
-- nothing that was walked before has a say, so the way to an expression tells what the walk reports
-- of it.
import LockDiscipline.Analysis.Walk
import LockDiscipline.Proofs.Blocks
import LockDiscipline.Proofs.Parts
import Mathlib.Data.List.Basic

namespace LockDiscipline

open Piece (Occurrence)

/-- What the walk knows where it reads a part of a body. -/
structure Place where
  locals : Locals
  held : HeldSet
  /-- The locks that the statements before this one took by explicit calls and did not release. -/
  pending : List Guard

/-- The place where a body begins: that of a method or of a lambda, which has no block around it. -/
def Place.opening (locals : Locals) (held : HeldSet) : Place := ⟨locals, held, []⟩

namespace Setting

variable (setting : Setting)

/-! ## From place to place -/

/-- The locals in a part. -/
def localsInto (locals : Locals) : Step → Locals
  | .within | .monitor _ | .attempt _ _ => locals
  | .behind before | .setUp before => setting.afterAll locals before
  | .binding name type | .handler _ _ name type => setting.bind locals name type
  | .lambda params => setting.bindAll locals params

/-- The set held in a part. -/
def heldInto (place : Place) : Step → HeldSet
  | .within | .behind _ | .setUp _ | .binding _ _ => place.held
  | .monitor lock => place.held.enter.plus (setting.canonical place.locals lock)
  | .attempt body atEnd | .handler body atEnd _ _ =>
    insideTry place.held (setting.credited place.locals place.pending body atEnd)
  | .lambda _ => .empty

/-- The locks that stay taken where a part begins. Only a statement of a block has any before it. -/
def pendingInto (locals : Locals) : Step → List Guard
  | .behind before => setting.pendingAfter locals [] before
  | _ => []

/-- The place of a part. -/
def into (step : Step) (place : Place) : Place where
  locals := setting.localsInto place.locals step
  held := setting.heldInto place step
  pending := setting.pendingInto place.locals step

/-- The place that a path leads to from the place where it starts. -/
def placeAt (start : Place) (path : Path) : Place := path.foldr setting.into start

@[simp] theorem placeAt_nil (start : Place) : setting.placeAt start [] = start := rfl

@[simp] theorem placeAt_cons (start : Place) (step : Step) (path : Path) :
    setting.placeAt start (step :: path) = setting.into step (setting.placeAt start path) := rfl

/-! ## The walk of one piece -/

/-- The guard that an expression by itself needs: a name that is no local and a selection the one of
the field that they mean, and a call the one of its method. -/
def needs (locals : Locals) : Expr → Option Guard
  | .name n span =>
    if (locals.lookup n).isSome then none else setting.fieldGuard locals (.name n span)
  | .select receiver n span => setting.fieldGuard locals (.select receiver n span)
  | .call receiver method args _ => setting.callGuard locals receiver method args.length
  | _ => none

/-- The accesses of a piece that is read at a place. -/
def walk (place : Place) : Piece → List Access
  | .expr e => setting.inExpr place.locals place.held e
  | .stmt s => setting.inStmt place.locals place.held place.pending s
  | .block body => setting.inBlock place.locals place.held [] body

/-- The accesses of the parts of a construct that stands at a place. -/
def walkParts (place : Place) (parts : List (Step × Piece)) : List Access :=
  parts.flatMap fun p => setting.walk (setting.into p.1 place) p.2

/-- The access that an expression by itself is, if it is one. -/
def accessOf (place : Place) (expr : Expr) : Option Access :=
  (setting.needs place.locals expr).map (⟨expr, ·, place.held⟩)

/-- The access that a piece by itself is, if it is one. -/
def ownAccess (place : Place) : Piece → List Access
  | .expr e => (setting.accessOf place e).toList
  | .stmt _ | .block _ => []

variable (place : Place)

@[simp] theorem walkParts_nil : setting.walkParts place [] = [] := rfl

@[simp] theorem walkParts_cons (step : Step) (piece : Piece) (rest : List (Step × Piece)) :
    setting.walkParts place ((step, piece) :: rest) =
      setting.walk (setting.into step place) piece ++ setting.walkParts place rest := rfl

@[simp] theorem walkParts_append (ps qs : List (Step × Piece)) :
    setting.walkParts place (ps ++ qs) =
      setting.walkParts place ps ++ setting.walkParts place qs := List.flatMap_append

/-- Expressions behind a step that takes no lock are read one after the other. -/
theorem walkParts_exprs (step : Step) (h : setting.heldInto place step = place.held)
    (es : List Expr) :
    setting.walkParts place (Piece.exprs step es) =
      setting.inExprs (setting.localsInto place.locals step) place.held es := by
  induction es with
  | nil => rfl
  | cons e rest ih =>
    rw [inExprs, ← ih, ← h]
    rfl

theorem inOption_eq (locals : Locals) (held : HeldSet) (e : Option Expr) :
    setting.inOption locals held e = setting.inExprs locals held e.toList := by
  cases e <;> simp [inOption, inExprs]

theorem inBranch_eq (body : Option (List Stmt)) :
    setting.inBranch place.locals place.held body =
      setting.walkParts place (Piece.blocks body.toList) := by
  cases body with
  | none => rfl
  | some body => exact (List.append_nil _).symm

theorem walkParts_blocks_cons (body : List Stmt) (rest : List (List Stmt)) :
    setting.walkParts place (Piece.blocks (body :: rest)) =
      setting.inBlock place.locals place.held [] body
        ++ setting.walkParts place (Piece.blocks rest) := rfl

/-- The statements of a block, each behind those before it. -/
theorem walkParts_behind (before stmts : List Stmt) :
    setting.walkParts place (Piece.inOrder .behind before stmts) =
      setting.inBlock (setting.afterAll place.locals before) place.held
        (setting.pendingAfter place.locals [] before) stmts := by
  induction stmts generalizing before with
  | nil => rfl
  | cons s rest ih =>
    rw [Piece.inOrder, walkParts_cons, ih, inBlock, afterAll_append, pendingAfter_append]
    rfl

/-- The statements that set up a loop, each behind those before it. -/
theorem walkParts_setUp (before stmts : List Stmt) :
    setting.walkParts place (Piece.inOrder .setUp before stmts) =
      setting.inInit (setting.afterAll place.locals before) place.held stmts := by
  induction stmts generalizing before with
  | nil => rfl
  | cons s rest ih =>
    rw [Piece.inOrder, walkParts_cons, ih, inInit, afterAll_append]
    rfl

theorem walkParts_ofCases (cases : List SwitchCase) :
    setting.walkParts place (cases.flatMap Piece.ofCase) =
      setting.inCases place.locals place.held cases := by
  induction cases with
  | nil => rfl
  | cons c rest ih =>
    cases c with
    | mk labels body =>
      have hlabels := setting.walkParts_exprs place .within rfl labels
      rw [List.flatMap_cons, walkParts_append, ih, inCases, Piece.ofCase, walkParts_append, hlabels]
      simp [walk, into, heldInto, localsInto]

theorem walkParts_ofCatches (body : List Stmt) (atEnd : Option (List Stmt))
    (catches : List CatchClause) :
    setting.walkParts place (catches.map (Piece.ofCatch body atEnd)) =
      setting.inCatches place.locals
        (insideTry place.held (setting.credited place.locals place.pending body atEnd))
        catches := by
  induction catches with
  | nil => rfl
  | cons c rest ih =>
    cases c with
    | mk param type handler =>
      rw [List.map_cons, Piece.ofCatch, walkParts_cons, ih, inCatches]
      rfl

/-- Expressions that belong to a construct as everything in it does. -/
theorem walkParts_within (es : List Expr) :
    setting.walkParts place (Piece.exprs .within es) =
      setting.inExprs place.locals place.held es := setting.walkParts_exprs place .within rfl es

theorem inExprs_append (locals : Locals) (held : HeldSet) (es more : List Expr) :
    setting.inExprs locals held (es ++ more) =
      setting.inExprs locals held es ++ setting.inExprs locals held more := by
  induction es with
  | nil => rfl
  | cons e rest ih => rw [List.cons_append, inExprs, ih, inExprs, List.append_assoc]

@[simp] theorem inExprs_singleton (locals : Locals) (held : HeldSet) (e : Expr) :
    setting.inExprs locals held [e] = setting.inExpr locals held e := List.append_nil _

/-- The walk of an expression goes through its parts and then to the expression itself. -/
theorem inExpr_eq (e : Expr) :
    setting.inExpr place.locals place.held e =
      setting.walkParts place (Piece.ofExpr e) ++ (setting.accessOf place e).toList := by
  cases e with
  | this _ | qualifiedThis _ _ | classLit _ _ | literal _ _ => rfl
  | name n span =>
    simp only [inExpr, Piece.ofExpr, walkParts_nil, List.nil_append, accessOf, needs, fieldAccess]
    split
    · rfl
    · exact (Option.toList_map ..).symm
  | select receiver n span =>
    rw [inExpr, Piece.ofExpr, walkParts_within, inExprs_singleton, accessOf, needs, fieldAccess,
      Option.toList_map]
  | call receiver method args span =>
    rw [inExpr, Piece.ofExpr, walkParts_within, inExprs_append, ← inOption_eq, accessOf, needs,
      callAccess, Option.toList_map]
  | lambda params body span =>
    exact ((List.append_nil _).trans (List.append_nil _)).symm
  | _ =>
    simp [inExpr, Piece.ofExpr, walkParts_within, inExprs, accessOf, needs]

/-- The walk of a statement goes through its parts. -/
theorem inStmt_eq (s : Stmt) :
    setting.inStmt place.locals place.held place.pending s =
      setting.walkParts place (Piece.ofStmt s) := by
  cases s with
  | breaks _ | continues _ => rfl
  | evaluate e => rw [inStmt, Piece.ofStmt, walkParts_within, inExprs_singleton]
  | throws value _ => rw [inStmt, Piece.ofStmt, walkParts_within, inExprs_singleton]
  | declare name type value _ => rw [inStmt, Piece.ofStmt, walkParts_within, inOption_eq]
  | returns value _ => rw [inStmt, Piece.ofStmt, walkParts_within, inOption_eq]
  | block body _ => exact (List.append_nil _).symm
  | ifElse cond thenBranch elseBranch _ =>
    rw [inStmt, Piece.ofStmt, walkParts_append, walkParts_within, inExprs_singleton,
      walkParts_blocks_cons, inBranch_eq, List.append_assoc]
  | whileLoop cond body _ =>
    rw [inStmt, Piece.ofStmt, walkParts_append, walkParts_within, inExprs_singleton,
      walkParts_blocks_cons]
    exact congrArg _ (List.append_nil _).symm
  | doWhile body cond _ =>
    rw [inStmt, Piece.ofStmt, walkParts_append, walkParts_within, inExprs_singleton,
      walkParts_blocks_cons]
    exact congrArg (· ++ _) (List.append_nil _).symm
  | forLoop init cond update body _ =>
    have hcond := setting.walkParts_exprs place (.setUp init) rfl cond.toList
    have hupdate := setting.walkParts_exprs place (.setUp init) rfl update
    rw [inStmt, Piece.ofStmt, walkParts_append, walkParts_append, walkParts_append, walkParts_setUp,
      hcond, hupdate, walkParts_cons, walkParts_nil, List.append_nil, inOption_eq]
    rfl
  | forEach var type iterable body _ =>
    rw [inStmt, Piece.ofStmt, walkParts_append, walkParts_within, inExprs_singleton, walkParts_cons,
      walkParts_nil, List.append_nil]
    rfl
  | switch subject cases _ =>
    rw [inStmt, Piece.ofStmt, walkParts_append, walkParts_within, inExprs_singleton,
      walkParts_ofCases]
  | synchronized lock body _ =>
    rw [inStmt, Piece.ofStmt, walkParts_append, walkParts_within, inExprs_singleton, walkParts_cons,
      walkParts_nil, List.append_nil]
    rfl
  | tryBlock body catches atEnd _ =>
    rw [inStmt, Piece.ofStmt, walkParts_append, walkParts_append, walkParts_cons, walkParts_nil,
      List.append_nil, walkParts_ofCatches, inBranch_eq]
    rfl

/-- The walk of a piece goes through its parts in order and then to the piece itself. -/
theorem walk_eq (piece : Piece) :
    setting.walk place piece =
      setting.walkParts place piece.parts ++ setting.ownAccess place piece := by
  cases piece with
  | expr e => exact setting.inExpr_eq place e
  | stmt s => exact (setting.inStmt_eq place s).trans (List.append_nil _).symm
  | block body =>
    exact (setting.walkParts_behind place [] body).symm.trans (List.append_nil _).symm

/-! ## The walk of a whole body -/

/-- The access that an expression in a body is, if it is one. -/
def accessAt (start : Place) (occurrence : Occurrence) : Option Access :=
  setting.accessOf (setting.placeAt start occurrence.path) occurrence.expr

theorem held_of_accessAt {start : Place} {occurrence : Occurrence} {access : Access}
    (h : setting.accessAt start occurrence = some access) :
    access.held = (setting.placeAt start occurrence.path).held := by
  obtain ⟨guard, -, rfl⟩ := Option.map_eq_some_iff.mp h
  rfl

/-- The walk of a piece reports the expressions inside it one by one, each by the place that its
path leads to. -/
theorem walk_eq_occurrences (start : Place) (path : Path) (piece : Piece) :
    setting.walk (setting.placeAt start path) piece =
      (piece.occurrences path).filterMap (setting.accessAt start) := by
  induction piece using Piece.induction generalizing path with
  | step piece ih =>
    have hparts : setting.walkParts (setting.placeAt start path) piece.parts =
        (piece.parts.flatMap fun p => p.2.occurrences (p.1 :: path)).filterMap
          (setting.accessAt start) := by
      rw [List.filterMap_flatMap]
      refine List.flatMap_congr fun p hp => ?_
      rw [← placeAt_cons]
      exact ih p.1 p.2 hp (p.1 :: path)
    have hown : setting.ownAccess (setting.placeAt start path) piece =
        (piece.itself path).filterMap (setting.accessAt start) := by
      cases piece with
      | stmt _ | block _ => rfl
      | expr e =>
        rw [ownAccess, Piece.itself, List.filterMap_cons, List.filterMap_nil]
        cases h : setting.accessAt start ⟨path, e⟩ with
        | none => exact congrArg Option.toList h
        | some access => exact congrArg Option.toList h
    rw [walk_eq, hparts, hown, ← List.filterMap_append, ← Piece.occurrences_eq]

end Setting

end LockDiscipline
