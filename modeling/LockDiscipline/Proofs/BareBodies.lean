-- Where the pieces of a body stand in the source text is told by their spans, and nothing else in a
-- body is. What an expression means, which locks a statement takes or releases, and which accesses
-- a body has are the same with all spans left out.
import LockDiscipline.Proofs.Places
import LockDiscipline.Proofs.Releases

namespace LockDiscipline

/-! ## Bodies without places -/

mutual

/-- The expression with no place known, its own or any inside it. -/
def Expr.bare : Expr → Expr
  | .this _ => .this .unknown
  | .qualifiedThis cls _ => .qualifiedThis cls .unknown
  | .name n _ => .name n .unknown
  | .select receiver n _ => .select receiver.bare n .unknown
  | .classLit cls _ => .classLit cls .unknown
  | .call receiver method args _ =>
    .call (Expr.bareOption receiver) method (Expr.bareAll args) .unknown
  | .new cls args _ => .new cls (Expr.bareAll args) .unknown
  | .assign target value op _ => .assign target.bare value.bare op .unknown
  | .unary op operand _ => .unary op operand.bare .unknown
  | .binary op lhs rhs _ => .binary op lhs.bare rhs.bare .unknown
  | .conditional cond thenVal elseVal _ =>
    .conditional cond.bare thenVal.bare elseVal.bare .unknown
  | .index base i _ => .index base.bare i.bare .unknown
  | .cast type e _ => .cast type e.bare .unknown
  | .lambda params body _ => .lambda params (Stmt.bareAll body) .unknown
  | .literal value _ => .literal value .unknown

def Expr.bareAll : List Expr → List Expr
  | [] => []
  | e :: rest => e.bare :: Expr.bareAll rest

def Expr.bareOption : Option Expr → Option Expr
  | none => none
  | some e => some e.bare

/-- The statement with no place known, its own or any inside it. -/
def Stmt.bare : Stmt → Stmt
  | .evaluate e => .evaluate e.bare
  | .declare name type init _ => .declare name type (Expr.bareOption init) .unknown
  | .block body _ => .block (Stmt.bareAll body) .unknown
  | .ifElse cond thenBranch elseBranch _ =>
    .ifElse cond.bare (Stmt.bareAll thenBranch) (Stmt.bareOption elseBranch) .unknown
  | .whileLoop cond body _ => .whileLoop cond.bare (Stmt.bareAll body) .unknown
  | .doWhile body cond _ => .doWhile (Stmt.bareAll body) cond.bare .unknown
  | .forLoop init cond update body _ =>
    .forLoop (Stmt.bareAll init) (Expr.bareOption cond) (Expr.bareAll update) (Stmt.bareAll body)
      .unknown
  | .forEach var type iterable body _ =>
    .forEach var type iterable.bare (Stmt.bareAll body) .unknown
  | .switch subject cases _ => .switch subject.bare (Stmt.bareCases cases) .unknown
  | .returns value _ => .returns (Expr.bareOption value) .unknown
  | .throws value _ => .throws value.bare .unknown
  | .breaks _ => .breaks .unknown
  | .continues _ => .continues .unknown
  | .synchronized lock body _ => .synchronized lock.bare (Stmt.bareAll body) .unknown
  | .tryBlock body catches atEnd _ =>
    .tryBlock (Stmt.bareAll body) (Stmt.bareCatches catches) (Stmt.bareOption atEnd) .unknown

def Stmt.bareAll : List Stmt → List Stmt
  | [] => []
  | stmt :: rest => stmt.bare :: Stmt.bareAll rest

def Stmt.bareOption : Option (List Stmt) → Option (List Stmt)
  | none => none
  | some body => some (Stmt.bareAll body)

def Stmt.bareCases : List SwitchCase → List SwitchCase
  | [] => []
  | .mk labels body :: rest =>
    .mk (Expr.bareAll labels) (Stmt.bareAll body) :: Stmt.bareCases rest

def Stmt.bareCatches : List CatchClause → List CatchClause
  | [] => []
  | .mk param type body :: rest => .mk param type (Stmt.bareAll body) :: Stmt.bareCatches rest

end

@[simp] theorem Expr.bareAll_eq (es : List Expr) : Expr.bareAll es = es.map Expr.bare := by
  induction es with
  | nil => rfl
  | cons e rest ih => rw [Expr.bareAll, ih, List.map_cons]

@[simp] theorem Expr.bareOption_eq (e : Option Expr) : Expr.bareOption e = e.map Expr.bare := by
  cases e <;> rfl

@[simp] theorem Stmt.bareAll_eq (stmts : List Stmt) :
    Stmt.bareAll stmts = stmts.map Stmt.bare := by
  induction stmts with
  | nil => rfl
  | cons stmt rest ih => rw [Stmt.bareAll, ih, List.map_cons]

@[simp] theorem Stmt.bareOption_eq (body : Option (List Stmt)) :
    Stmt.bareOption body = body.map (·.map Stmt.bare) := by
  cases body with
  | none => rfl
  | some body => rw [Stmt.bareOption, Stmt.bareAll_eq, Option.map_some]

@[simp] theorem Expr.span_bare (e : Expr) : e.bare.span = .unknown := by
  cases e <;> rfl

/-- Moving an expression changes nothing but its place. -/
@[simp] theorem Expr.bare_movedTo (place : Span) (e : Expr) : (e.movedTo place).bare = e.bare := by
  cases e <;> rw [movedTo, bare, bare]

/-! ## What an expression means -/

mutual

/-- An expression reads the same wherever it stands. -/
theorem Expr.text_bare (e : Expr) : e.bare.text = e.text := by
  cases e with
  | call receiver method args _ =>
    cases receiver with
    | none => rw [bare, bareOption, text, text, Expr.texts_bareAll args]
    | some receiver =>
      rw [bare, bareOption, text, text, Expr.text_bare receiver, Expr.texts_bareAll args]
  | assign target value op _ =>
    cases op <;> rw [bare, text, text, Expr.text_bare target, Expr.text_bare value]
  | select receiver _ _ => rw [bare, text, text, Expr.text_bare receiver]
  | new _ args _ => rw [bare, text, text, Expr.texts_bareAll args]
  | unary _ operand _ => rw [bare, text, text, Expr.text_bare operand]
  | binary _ lhs rhs _ => rw [bare, text, text, Expr.text_bare lhs, Expr.text_bare rhs]
  | conditional cond thenVal elseVal _ =>
    rw [bare, text, text, Expr.text_bare cond, Expr.text_bare thenVal, Expr.text_bare elseVal]
  | index base i _ => rw [bare, text, text, Expr.text_bare base, Expr.text_bare i]
  | cast _ e _ => rw [bare, text, text, Expr.text_bare e]
  | _ => rw [bare, text, text]

theorem Expr.texts_bareAll (es : List Expr) : Expr.texts (Expr.bareAll es) = Expr.texts es := by
  cases es with
  | nil => rfl
  | cons e rest => rw [bareAll, texts, texts, Expr.text_bare e, Expr.texts_bareAll rest]

end

theorem Expr.dottedName?_bare (e : Expr) : e.bare.dottedName? = e.dottedName? := by
  induction e using Expr.dottedName?.induct with
  | case1 n span => rfl
  | case2 receiver n span ih => rw [bare, dottedName?, dottedName?, ih]
  | case3 e hname hselect =>
    cases e with
    | name n span => exact absurd rfl (hname n span)
    | select receiver n span => exact absurd rfl (hselect receiver n span)
    | _ => rfl

namespace Context

variable (ctx : Context)

theorem decompose_bare (e : Expr) : ctx.decompose e.bare = ctx.decompose e := by
  induction e using Context.decompose.induct with
  | case4 receiver name span ih =>
    rw [Expr.bare, decompose, decompose, ih, receiver.text_bare, selected, staticFieldOf,
      receiver.dottedName?_bare]
    rfl
  | case6 e =>
    cases e <;> first | rfl | simp_all
  | _ => rfl

@[simp] theorem canonical_bare (e : Expr) : ctx.canonical e.bare = ctx.canonical e := by
  rw [canonical, canonical, decompose_bare, e.text_bare]

end Context

/-! ## The parts of a body -/

def Piece.bare : Piece → Piece
  | .expr e => .expr e.bare
  | .stmt s => .stmt s.bare
  | .block body => .block (body.map Stmt.bare)

def Step.bare : Step → Step
  | .within => .within
  | .behind before => .behind (before.map Stmt.bare)
  | .setUp before => .setUp (before.map Stmt.bare)
  | .binding name type => .binding name type
  | .monitor lock => .monitor lock.bare
  | .attempt body atEnd => .attempt (body.map Stmt.bare) (atEnd.map (·.map Stmt.bare))
  | .handler body atEnd name type =>
    .handler (body.map Stmt.bare) (atEnd.map (·.map Stmt.bare)) name type
  | .lambda params => .lambda params

namespace Piece

/-- Parts without places. -/
def bareParts (parts : List (Step × Piece)) : List (Step × Piece) :=
  parts.map fun p => (p.1.bare, p.2.bare)

@[simp] theorem bareParts_nil : bareParts [] = [] := rfl

@[simp] theorem bareParts_cons (st : Step) (piece : Piece) (rest : List (Step × Piece)) :
    bareParts ((st, piece) :: rest) = (st.bare, piece.bare) :: bareParts rest := rfl

@[simp] theorem bareParts_append (parts more : List (Step × Piece)) :
    bareParts (parts ++ more) = bareParts parts ++ bareParts more := List.map_append

@[simp] theorem bareParts_exprs (st : Step) (es : List Expr) :
    bareParts (exprs st es) = exprs st.bare (es.map Expr.bare) := by
  simp [bareParts, exprs, bare]

@[simp] theorem bareParts_blocks (bodies : List (List Stmt)) :
    bareParts (blocks bodies) = blocks (bodies.map (·.map Stmt.bare)) := by
  simp [bareParts, blocks, bare, Step.bare]

theorem bareParts_inOrder {step : List Stmt → Step}
    (h : ∀ before, (step before).bare = step (before.map Stmt.bare)) (before stmts : List Stmt) :
    bareParts (inOrder step before stmts) =
      inOrder step (before.map Stmt.bare) (stmts.map Stmt.bare) := by
  induction stmts generalizing before with
  | nil => rfl
  | cons s rest ih => simp [inOrder, h, ih, bare]

theorem bareParts_ofCases (cases : List SwitchCase) :
    bareParts (cases.flatMap ofCase) = (Stmt.bareCases cases).flatMap ofCase := by
  induction cases with
  | nil => rfl
  | cons c rest ih =>
    cases c with
    | mk labels body => simp [Stmt.bareCases, ofCase, ih, bare, Step.bare]

theorem bareParts_ofCatches (tried : List Stmt) (atEnd : Option (List Stmt))
    (catches : List CatchClause) :
    bareParts (catches.map (ofCatch tried atEnd)) =
      (Stmt.bareCatches catches).map
        (ofCatch (tried.map Stmt.bare) (atEnd.map (·.map Stmt.bare))) := by
  induction catches with
  | nil => rfl
  | cons c rest ih =>
    cases c with
    | mk param type body => simp [Stmt.bareCatches, ofCatch, ih, bare, Step.bare]

theorem ofExpr_bare (e : Expr) : ofExpr e.bare = bareParts (ofExpr e) := by
  cases e with
  | call receiver _ args _ =>
    cases receiver <;> simp [Expr.bare, ofExpr, Step.bare]
  | _ => simp [Expr.bare, ofExpr, Step.bare, bare]

theorem ofStmt_bare (s : Stmt) : ofStmt s.bare = bareParts (ofStmt s) := by
  have hsetUp := bareParts_inOrder (fun before => (rfl : (Step.setUp before).bare = _)) []
  cases s with
  | tryBlock body catches atEnd _ =>
    simp [Stmt.bare, ofStmt, Step.bare, bare, bareParts_ofCatches, Option.toList_map]
  | _ =>
    simp [Stmt.bare, ofStmt, Step.bare, bare, hsetUp, bareParts_ofCases, Option.toList_map]

/-- The parts of a piece without places are its parts without places. -/
theorem parts_bare (piece : Piece) : piece.bare.parts = bareParts piece.parts := by
  cases piece with
  | expr e => exact ofExpr_bare e
  | stmt s => exact ofStmt_bare s
  | block body => exact (bareParts_inOrder (fun _ => rfl) [] body).symm

theorem evaluated_bare (piece : Piece) : piece.bare.evaluated = piece.evaluated.map Expr.bare := by
  induction piece using Piece.induction with
  | step piece ih =>
    have hparts : evaluatedIn (bareParts piece.parts) =
        (evaluatedIn piece.parts).map Expr.bare := by
      unfold evaluatedIn bareParts
      rw [List.flatMap_map, List.map_flatMap]
      exact List.flatMap_congr fun p hp => ih p.1 p.2 hp
    cases piece with
    | expr e => rfl
    | stmt s =>
      have hstmt := evaluated_eq s.bare
      rw [ofStmt_bare] at hstmt
      rw [bare, evaluated, evaluated, hstmt, evaluated_eq s, List.map_append]
      congr 1
      cases s <;> rfl
    | block body =>
      rw [← parts_bare] at hparts
      simpa [bare, parts, evaluated] using hparts

end Piece

/-! ## Where the parts are read -/

namespace Setting

variable (setting : Setting)

@[simp] theorem canonical_bare (locals : Locals) (e : Expr) :
    setting.canonical locals e.bare = setting.canonical locals e := Context.canonical_bare _ e

theorem lockCall_bare (methods : List String) (locals : Locals) (e : Expr) :
    setting.lockCall methods locals e.bare = setting.lockCall methods locals e := by
  cases e with
  | call receiver method args _ =>
    cases receiver <;> cases args <;> simp [Expr.bare, lockCall]
  | _ => rfl

theorem acquired_bare (locals : Locals) (s : Stmt) :
    setting.acquired locals s.bare = setting.acquired locals s := by
  cases s with
  | evaluate e => exact setting.lockCall_bare _ locals e
  | _ => rfl

theorem released_bare (locals : Locals) (stmts : List Stmt) :
    setting.released locals (stmts.map Stmt.bare) = setting.released locals stmts := by
  have hevaluated : Stmt.evaluatedAll (stmts.map Stmt.bare) =
      (Stmt.evaluatedAll stmts).map Expr.bare := Piece.evaluated_bare (.block stmts)
  unfold released
  rw [hevaluated, List.filterMap_map]
  congr 1
  funext e
  exact setting.lockCall_bare _ locals e

theorem track_bare (locals : Locals) (pending : List Guard) (s : Stmt) :
    setting.track locals pending s.bare = setting.track locals pending s := by
  have hreleased := setting.released_bare locals [s]
  unfold track
  rw [setting.acquired_bare]
  dsimp only [List.map] at hreleased
  rw [hreleased]

theorem credited_bare (locals : Locals) (pending : List Guard) (body : List Stmt)
    (atEnd : Option (List Stmt)) :
    setting.credited locals pending (body.map Stmt.bare) (atEnd.map (·.map Stmt.bare)) =
      setting.credited locals pending body atEnd := by
  have hend : (atEnd.map (·.map Stmt.bare)).getD [] = (atEnd.getD []).map Stmt.bare := by
    cases atEnd <;> rfl
  have hfirst : (body.map Stmt.bare).head?.bind (setting.acquired locals) =
      body.head?.bind (setting.acquired locals) := by
    cases body with
    | nil => rfl
    | cons s rest => exact setting.acquired_bare locals s
  unfold credited
  rw [hend, setting.released_bare, hfirst]

theorem afterStmt_bare (locals : Locals) (s : Stmt) :
    setting.afterStmt locals s.bare = setting.afterStmt locals s := by
  cases s <;> rfl

theorem afterAll_bare (locals : Locals) (stmts : List Stmt) :
    setting.afterAll locals (stmts.map Stmt.bare) = setting.afterAll locals stmts := by
  induction stmts generalizing locals with
  | nil => rfl
  | cons s rest ih => rw [List.map_cons, afterAll_cons, afterAll_cons, afterStmt_bare, ih]

theorem pendingAfter_bare (locals : Locals) (pending : List Guard) (stmts : List Stmt) :
    setting.pendingAfter locals pending (stmts.map Stmt.bare) =
      setting.pendingAfter locals pending stmts := by
  induction stmts generalizing locals pending with
  | nil => rfl
  | cons s rest ih =>
    rw [List.map_cons, pendingAfter_cons, pendingAfter_cons, afterStmt_bare, track_bare, ih]

/-- A part is read at the same place if nothing is known of where it stands. -/
theorem into_bare (st : Step) (place : Place) :
    setting.into st.bare place = setting.into st place := by
  unfold into
  cases st with
  | behind before =>
    simp [Step.bare, localsInto, heldInto, pendingInto, afterAll_bare, pendingAfter_bare]
  | setUp before => simp [Step.bare, localsInto, heldInto, pendingInto, afterAll_bare]
  | monitor lock => simp [Step.bare, localsInto, heldInto, pendingInto]
  | attempt body atEnd => simp [Step.bare, localsInto, heldInto, pendingInto, credited_bare]
  | handler body atEnd name type =>
    simp [Step.bare, localsInto, heldInto, pendingInto, credited_bare]
  | _ => rfl

theorem fieldGuard_bare (locals : Locals) (e : Expr) :
    setting.fieldGuard locals e.bare = setting.fieldGuard locals e := by
  unfold fieldGuard
  rw [canonical_bare]

theorem needs_bare (locals : Locals) (e : Expr) :
    setting.needs locals e.bare = setting.needs locals e := by
  cases e with
  | name n span =>
    have hguard := setting.fieldGuard_bare locals (.name n span)
    unfold needs
    dsimp only [Expr.bare] at hguard ⊢
    rw [hguard]
  | select receiver n span => exact setting.fieldGuard_bare locals (.select receiver n span)
  | call receiver method args span =>
    cases receiver with
    | none => simp [Expr.bare, needs, callGuard]
    | some receiver =>
      simp [Expr.bare, needs, callGuard, receiverCallGuard, receiver.dottedName?_bare]
  | _ => rfl

end Setting

/-! ## The accesses -/

/-- The access with no place known. -/
def Access.bare (access : Access) : Access := { access with expr := access.expr.bare }

namespace Setting

variable (setting : Setting)

theorem ownAccess_bare (place : Place) (piece : Piece) :
    setting.ownAccess place piece.bare = (setting.ownAccess place piece).map Access.bare := by
  cases piece with
  | expr e =>
    rw [Piece.bare, ownAccess, ownAccess, accessOf, accessOf, needs_bare]
    cases setting.needs place.locals e <;> rfl
  | _ => rfl

/-- A piece without places has the same accesses, at no places. -/
theorem walk_bare (place : Place) (piece : Piece) :
    setting.walk place piece.bare = (setting.walk place piece).map Access.bare := by
  induction piece using Piece.induction generalizing place with
  | step piece ih =>
    have hparts : setting.walkParts place (Piece.bareParts piece.parts) =
        (setting.walkParts place piece.parts).map Access.bare := by
      unfold walkParts Piece.bareParts
      rw [List.flatMap_map, List.map_flatMap]
      apply List.flatMap_congr
      intro p hp
      rw [into_bare]
      exact ih p.1 p.2 hp (setting.into p.1 place)
    rw [walk_eq, walk_eq, Piece.parts_bare, hparts, ownAccess_bare, List.map_append]

end Setting

end LockDiscipline
