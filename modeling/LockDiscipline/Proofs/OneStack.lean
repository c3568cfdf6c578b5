-- The walk can also be told with one stack of locals that every construct shares. A construct that
-- has locals of its own marks the stack, puts them on it, and cuts the stack back to the mark at
-- its end. This walk reports what the other one does, and behind a statement the stack is as before
-- it, except for the local that the statement declares.
import LockDiscipline.Proofs.Blocks
import LockDiscipline.Proofs.Members

namespace LockDiscipline

/-! ## The stack -/

/-- What is carried through a body: the locals on the stack, and the accesses reported so far. -/
structure Trail where
  locals : Locals
  reported : List Access

namespace Trail

/-- The trail with more accesses reported. -/
def report (trail : Trail) (accesses : List Access) : Trail :=
  { trail with reported := trail.reported ++ accesses }

/-- The trail with other locals on the stack. -/
def withLocals (trail : Trail) (locals : Locals) : Trail := { trail with locals }

/-- How many locals are on the stack. -/
def mark (trail : Trail) : Nat := trail.locals.length

/-- The trail with the stack cut back to a mark. -/
def cutTo (trail : Trail) (mark : Nat) : Trail :=
  trail.withLocals (trail.locals.drop (trail.locals.length - mark))

/-- The end of a block that began with a trail, from what its statements left. -/
def close (trail : Trail) (left : Trail × List Guard) : Trail := left.1.cutTo trail.mark

@[simp] theorem locals_report (trail : Trail) (accesses : List Access) :
    (trail.report accesses).locals = trail.locals := rfl

@[simp] theorem mark_report (trail : Trail) (accesses : List Access) :
    (trail.report accesses).mark = trail.mark := rfl

@[simp] theorem locals_withLocals (trail : Trail) (locals : Locals) :
    (trail.withLocals locals).locals = locals := rfl

@[simp] theorem report_nil (trail : Trail) : trail.report [] = trail := by
  simp [report]

@[simp] theorem report_report (trail : Trail) (accesses more : List Access) :
    (trail.report accesses).report more = trail.report (accesses ++ more) := by
  simp [report]

@[simp] theorem report_withLocals (trail : Trail) (locals : Locals) (accesses : List Access) :
    (trail.withLocals locals).report accesses = (trail.report accesses).withLocals locals := rfl

@[simp] theorem withLocals_withLocals (trail : Trail) (locals more : Locals) :
    (trail.withLocals locals).withLocals more = trail.withLocals more := rfl

@[simp] theorem withLocals_self (trail : Trail) : trail.withLocals trail.locals = trail := rfl

/-- Reporting leaves the stack alone. -/
@[simp] theorem report_withLocals_self (trail : Trail) (accesses : List Access) :
    (trail.report accesses).withLocals trail.locals = trail.report accesses := rfl

/-- What was put on the stack behind a mark is cut off. -/
theorem cutTo_append (trail base : Trail) (more : Locals) :
    (trail.withLocals (more ++ base.locals)).cutTo base.mark = trail.withLocals base.locals := by
  unfold cutTo mark withLocals
  rw [List.length_append, Nat.add_sub_cancel, List.drop_left]

end Trail

namespace Setting

variable (setting : Setting)

/-- The trail with one more local on the stack. -/
def push (trail : Trail) (name type : String) : Trail :=
  trail.withLocals (setting.bind trail.locals name type)

/-- The trail with the locals of a list of parameters on the stack, one after the other. -/
def pushAll (trail : Trail) (params : List Param) : Trail :=
  params.foldl (fun trail param => setting.push trail param.name param.type) trail

/-! ## The walk with one stack -/

mutual

/-- Goes through an expression. -/
def throughExpr (held : HeldSet) (trail : Trail) : Expr → Trail
  | .this _ | .qualifiedThis _ _ | .classLit _ _ | .literal _ _ => trail
  | .name n span =>
    if (trail.locals.lookup n).isSome then trail
    else trail.report (setting.fieldAccess trail.locals held (.name n span))
  | .select receiver n span =>
    let trail := throughExpr held trail receiver
    trail.report (setting.fieldAccess trail.locals held (.select receiver n span))
  | .call receiver method args span =>
    let trail := throughExprs held (throughOption held trail receiver) args
    trail.report (setting.callAccess trail.locals held receiver method args span)
  | .new _ args _ => throughExprs held trail args
  | .assign target value _ _ => throughExpr held (throughExpr held trail target) value
  | .unary _ operand _ => throughExpr held trail operand
  | .binary _ lhs rhs _ => throughExpr held (throughExpr held trail lhs) rhs
  | .conditional cond thenVal elseVal _ =>
    throughExpr held (throughExpr held (throughExpr held trail cond) thenVal) elseVal
  | .index base i _ => throughExpr held (throughExpr held trail base) i
  | .cast _ expr _ => throughExpr held trail expr
  | .lambda params body _ =>
    let inner := setting.pushAll trail params
    (inner.close (throughStmts .empty [] inner body)).cutTo trail.mark

/-- Goes through a list of expressions. -/
def throughExprs (held : HeldSet) (trail : Trail) : List Expr → Trail
  | [] => trail
  | expr :: rest => throughExprs held (throughExpr held trail expr) rest

/-- Goes through an expression that may be left out. -/
def throughOption (held : HeldSet) (trail : Trail) : Option Expr → Trail
  | none => trail
  | some expr => throughExpr held trail expr

/-- Goes through a statement of a block, where `pending` are the locks that statements before it
took by explicit calls and did not release. -/
def throughStmt (held : HeldSet) (pending : List Guard) (trail : Trail) : Stmt → Trail
  | .evaluate expr => throughExpr held trail expr
  | .declare name type init _ => setting.push (throughOption held trail init) name type
  | .block body _ => trail.close (throughStmts held [] trail body)
  | .ifElse cond thenBranch elseBranch _ =>
    let trail := throughExpr held trail cond
    throughBranch held (trail.close (throughStmts held [] trail thenBranch)) elseBranch
  | .whileLoop cond body _ =>
    let trail := throughExpr held trail cond
    trail.close (throughStmts held [] trail body)
  | .doWhile body cond _ =>
    throughExpr held (trail.close (throughStmts held [] trail body)) cond
  | .forLoop init cond update body _ =>
    let inner := throughOption held (throughInit held trail init) cond
    (throughExprs held (inner.close (throughStmts held [] inner body)) update).cutTo trail.mark
  | .forEach var type iterable body _ =>
    let trail := throughExpr held trail iterable
    let inner := setting.push trail var type
    (inner.close (throughStmts held [] inner body)).cutTo trail.mark
  | .switch subject cases _ => throughCases held (throughExpr held trail subject) cases
  | .returns value _ => throughOption held trail value
  | .throws value _ => throughExpr held trail value
  | .breaks _ | .continues _ => trail
  | .synchronized lock body _ =>
    let trail := throughExpr held trail lock
    let monitor := setting.canonical trail.locals lock
    trail.close (throughStmts (held.enter.plus monitor) [] trail body)
  | .tryBlock body catches atEnd _ =>
    let inner := insideTry held (setting.credited trail.locals pending body atEnd)
    let tried := trail.close (throughStmts inner [] trail body)
    throughBranch held (throughCatches inner tried catches) atEnd

/-- Goes through statements of a block, and tells which locks stay taken behind them. A statement is
looked at for locks when the walk has gone through it. -/
def throughStmts (held : HeldSet) (pending : List Guard) (trail : Trail) :
    List Stmt → Trail × List Guard
  | [] => (trail, pending)
  | stmt :: rest =>
    let trail := throughStmt held pending trail stmt
    throughStmts held (setting.track trail.locals pending stmt) trail rest

/-- Goes through the statements that set up a loop. -/
def throughInit (held : HeldSet) (trail : Trail) : List Stmt → Trail
  | [] => trail
  | stmt :: rest => throughInit held (throughStmt held [] trail stmt) rest

/-- Goes through a block that may be left out. -/
def throughBranch (held : HeldSet) (trail : Trail) : Option (List Stmt) → Trail
  | none => trail
  | some body => trail.close (throughStmts held [] trail body)

/-- Goes through the cases of a switch. -/
def throughCases (held : HeldSet) (trail : Trail) : List SwitchCase → Trail
  | [] => trail
  | .mk labels body :: rest =>
    let trail := throughExprs held trail labels
    throughCases held (trail.close (throughStmts held [] trail body)) rest

/-- Goes through handlers. -/
def throughCatches (held : HeldSet) (trail : Trail) : List CatchClause → Trail
  | [] => trail
  | .mk param type body :: rest =>
    let inner := setting.push trail param type
    throughCatches held ((inner.close (throughStmts held [] inner body)).cutTo trail.mark) rest

end

/-- Goes through a block. -/
def throughBlock (held : HeldSet) (trail : Trail) (body : List Stmt) : Trail :=
  trail.close (setting.throughStmts held [] trail body)

/-! ## What is put on the stack -/

/-- The local that a statement declares by itself. -/
def declared : Stmt → Option (String × TypeName)
  | .declare name type _ _ => some (name, setting.types.written type)
  | _ => none

/-- The locals that the statements of a list declare by themselves, in order. -/
def declaredAll (stmts : List Stmt) : List (String × TypeName) := stmts.filterMap setting.declared

theorem afterStmt_eq (locals : Locals) (s : Stmt) :
    setting.afterStmt locals s = (setting.declared s).toList ++ locals := by
  cases s <;> rfl

/-- Statements leave the locals that they declare by themselves, the latest first. -/
theorem afterAll_eq (locals : Locals) (stmts : List Stmt) :
    setting.afterAll locals stmts = (setting.declaredAll stmts).reverse ++ locals := by
  induction stmts generalizing locals with
  | nil => rfl
  | cons s rest ih =>
    rw [afterAll_cons, ih, afterStmt_eq, declaredAll, declaredAll, List.filterMap_cons]
    cases setting.declared s <;> simp

theorem bindAll_eq (locals : Locals) (params : List Param) :
    setting.bindAll locals params =
      (params.map fun param => (param.name, setting.types.written param.type)).reverse
        ++ locals := by
  unfold bindAll
  induction params generalizing locals with
  | nil => rfl
  | cons param rest ih =>
    rw [List.foldl_cons, ih, List.map_cons, List.reverse_cons, List.append_assoc]
    rfl

theorem pushAll_eq (trail : Trail) (params : List Param) :
    setting.pushAll trail params = trail.withLocals (setting.bindAll trail.locals params) := by
  unfold pushAll bindAll
  induction params generalizing trail with
  | nil => rfl
  | cons param rest ih =>
    rw [List.foldl_cons, List.foldl_cons, ih]
    rfl

/-! ## What is cut off -/

@[simp] theorem cutTo_bind (trail base : Trail) (name type : String) :
    (trail.withLocals (setting.bind base.locals name type)).cutTo base.mark =
      trail.withLocals base.locals := trail.cutTo_append base [_]

@[simp] theorem cutTo_bindAll (trail base : Trail) (params : List Param) :
    (trail.withLocals (setting.bindAll base.locals params)).cutTo base.mark =
      trail.withLocals base.locals := by
  rw [bindAll_eq, Trail.cutTo_append]

@[simp] theorem cutTo_afterAll (trail base : Trail) (stmts : List Stmt) :
    (trail.withLocals (setting.afterAll base.locals stmts)).cutTo base.mark =
      trail.withLocals base.locals := by
  rw [afterAll_eq, Trail.cutTo_append]

/-- A block keeps what its statements report. -/
theorem close_eq (trail : Trail) (accesses : List Access) (stmts : List Stmt)
    (pending : List Guard) :
    trail.close
        ((trail.report accesses).withLocals (setting.afterAll trail.locals stmts), pending) =
      trail.report accesses :=
  setting.cutTo_afterAll (trail.report accesses) trail stmts

/-- Which locks stay taken does not depend on whether the statement is looked at before the local
that it declares is there or after that: it cannot release one. -/
theorem track_afterStmt (locals : Locals) (pending : List Guard) (s : Stmt) :
    setting.track (setting.afterStmt locals s) pending s = setting.track locals pending s := by
  cases s <;> rfl

/-! ## Both walks are one

The equations hold for every stack and go through the syntax together. A construct cuts the stack at
its end back to what was there before, so the next part begins with the locals that the other walk
hands to it. -/

mutual

theorem throughExpr_eq (held : HeldSet) (trail : Trail) (e : Expr) :
    setting.throughExpr held trail e = trail.report (setting.inExpr trail.locals held e) := by
  cases e with
  | this _ | qualifiedThis _ _ | classLit _ _ | literal _ _ => simp [throughExpr, inExpr]
  | name n span =>
    rw [throughExpr, inExpr]
    split
    · exact trail.report_nil.symm
    · rfl
  | select receiver n span => simp [throughExpr, throughExpr_eq, inExpr]
  | call receiver method args span =>
    simp [throughExpr, throughExprs_eq, throughOption_eq, inExpr]
  | new cls args span => rw [throughExpr, throughExprs_eq, inExpr]
  | assign target value op span => simp [throughExpr, throughExpr_eq, inExpr]
  | unary op operand span => rw [throughExpr, throughExpr_eq, inExpr]
  | binary op lhs rhs span => simp [throughExpr, throughExpr_eq, inExpr]
  | conditional cond thenVal elseVal span => simp [throughExpr, throughExpr_eq, inExpr]
  | index base i span => simp [throughExpr, throughExpr_eq, inExpr]
  | cast type e span => rw [throughExpr, throughExpr_eq, inExpr]
  | lambda params body span =>
    simp only [throughExpr, throughStmts_eq, close_eq]
    simp [pushAll_eq, inExpr]

theorem throughExprs_eq (held : HeldSet) (trail : Trail) (es : List Expr) :
    setting.throughExprs held trail es = trail.report (setting.inExprs trail.locals held es) := by
  cases es with
  | nil => simp [throughExprs, inExprs]
  | cons e rest => simp [throughExprs, throughExpr_eq, throughExprs_eq, inExprs]

theorem throughOption_eq (held : HeldSet) (trail : Trail) (e : Option Expr) :
    setting.throughOption held trail e = trail.report (setting.inOption trail.locals held e) := by
  cases e with
  | none => simp [throughOption, inOption]
  | some e => simp [throughOption, throughExpr_eq, inOption]

theorem throughStmt_eq (held : HeldSet) (pending : List Guard) (trail : Trail) (s : Stmt) :
    setting.throughStmt held pending trail s =
      (trail.report (setting.inStmt trail.locals held pending s)).withLocals
        (setting.afterStmt trail.locals s) := by
  cases s with
  | breaks _ | continues _ => simp [throughStmt, inStmt, afterStmt]
  | evaluate e => simp [throughStmt, throughExpr_eq, inStmt, afterStmt]
  | declare name type init span => simp [throughStmt, push, throughOption_eq, inStmt, afterStmt]
  | returns value span => simp [throughStmt, throughOption_eq, inStmt, afterStmt]
  | throws value span => simp [throughStmt, throughExpr_eq, inStmt, afterStmt]
  | block body span => simp [throughStmt, throughStmts_eq, close_eq, inStmt, afterStmt]
  | ifElse cond thenBranch elseBranch span =>
    simp only [throughStmt, throughExpr_eq, throughStmts_eq, close_eq, throughBranch_eq]
    simp [inStmt, afterStmt]
  | whileLoop cond body span =>
    simp only [throughStmt, throughExpr_eq, throughStmts_eq, close_eq]
    simp [inStmt, afterStmt]
  | doWhile body cond span =>
    simp only [throughStmt, throughStmts_eq, close_eq, throughExpr_eq]
    simp [inStmt, afterStmt]
  | forLoop init cond update body span =>
    simp only [throughStmt, throughInit_eq, throughOption_eq, throughStmts_eq, close_eq,
      throughExprs_eq]
    simp [inStmt, afterStmt]
    rfl
  | forEach var type iterable body span =>
    simp only [throughStmt, throughExpr_eq, throughStmts_eq, close_eq]
    simp [push, inStmt, afterStmt]
  | switch subject cases span =>
    simp only [throughStmt, throughExpr_eq, throughCases_eq]
    simp [inStmt, afterStmt]
  | synchronized lock body span =>
    simp only [throughStmt, throughExpr_eq, throughStmts_eq, close_eq]
    simp [inStmt, afterStmt]
  | tryBlock body catches atEnd span =>
    simp only [throughStmt, throughStmts_eq, close_eq, throughCatches_eq, throughBranch_eq]
    simp [inStmt, afterStmt]

theorem throughStmts_eq (held : HeldSet) (pending : List Guard) (trail : Trail)
    (stmts : List Stmt) :
    setting.throughStmts held pending trail stmts =
      ((trail.report (setting.inBlock trail.locals held pending stmts)).withLocals
          (setting.afterAll trail.locals stmts),
        setting.pendingAfter trail.locals pending stmts) := by
  cases stmts with
  | nil => simp [throughStmts, inBlock, afterAll]
  | cons s rest =>
    simp [throughStmts, throughStmt_eq, throughStmts_eq, track_afterStmt, inBlock]

theorem throughInit_eq (held : HeldSet) (trail : Trail) (stmts : List Stmt) :
    setting.throughInit held trail stmts =
      (trail.report (setting.inInit trail.locals held stmts)).withLocals
        (setting.afterAll trail.locals stmts) := by
  cases stmts with
  | nil => simp [throughInit, inInit, afterAll]
  | cons s rest => simp [throughInit, throughStmt_eq, throughInit_eq, inInit]

theorem throughBranch_eq (held : HeldSet) (trail : Trail) (body : Option (List Stmt)) :
    setting.throughBranch held trail body =
      trail.report (setting.inBranch trail.locals held body) := by
  cases body with
  | none => simp [throughBranch, inBranch]
  | some body => simp [throughBranch, throughStmts_eq, close_eq, inBranch]

theorem throughCases_eq (held : HeldSet) (trail : Trail) (cases : List SwitchCase) :
    setting.throughCases held trail cases =
      trail.report (setting.inCases trail.locals held cases) := by
  match cases with
  | [] => simp [throughCases, inCases]
  | .mk labels body :: rest =>
    simp only [throughCases, throughExprs_eq, throughStmts_eq, close_eq, throughCases_eq]
    simp [inCases]

theorem throughCatches_eq (held : HeldSet) (trail : Trail) (catches : List CatchClause) :
    setting.throughCatches held trail catches =
      trail.report (setting.inCatches trail.locals held catches) := by
  match catches with
  | [] => simp [throughCatches, inCatches]
  | .mk param type body :: rest =>
    simp only [throughCatches, throughStmts_eq, close_eq]
    simp [push, throughCatches_eq, inCatches]

end

/-! ## What is left behind -/

/-- Statements leave the locals that they declare by themselves, on top of those before them. -/
theorem locals_throughStmts (held : HeldSet) (pending : List Guard) (trail : Trail)
    (stmts : List Stmt) :
    (setting.throughStmts held pending trail stmts).1.locals =
      (setting.declaredAll stmts).reverse ++ trail.locals := by
  rw [throughStmts_eq, Trail.locals_withLocals, afterAll_eq]

theorem reported_throughStmts (held : HeldSet) (pending : List Guard) (trail : Trail)
    (stmts : List Stmt) :
    (setting.throughStmts held pending trail stmts).1.reported =
      trail.reported ++ setting.inBlock trail.locals held pending stmts := by
  rw [throughStmts_eq]
  rfl

theorem pending_throughStmts (held : HeldSet) (pending : List Guard) (trail : Trail)
    (stmts : List Stmt) :
    (setting.throughStmts held pending trail stmts).2 =
      setting.pendingAfter trail.locals pending stmts := by
  rw [throughStmts_eq]

theorem throughStmts_append (held : HeldSet) (pending : List Guard) (trail : Trail)
    (before later : List Stmt) :
    setting.throughStmts held pending trail (before ++ later) =
      setting.throughStmts held (setting.throughStmts held pending trail before).2
        (setting.throughStmts held pending trail before).1 later := by
  induction before generalizing pending trail with
  | nil => rw [List.nil_append, throughStmts]
  | cons s rest ih =>
    rw [List.cons_append, throughStmts, throughStmts]
    exact ih ..

theorem throughBlock_eq (held : HeldSet) (trail : Trail) (body : List Stmt) :
    setting.throughBlock held trail body =
      trail.report (setting.inBlock trail.locals held [] body) := by
  rw [throughBlock, throughStmts_eq, close_eq]

/-- The accesses of a method are what is reported on the way through its body, with nothing but its
parameters on the stack. -/
theorem accesses_eq_throughBlock (method : MethodDecl) (h : method.isConstructor = false) :
    setting.accesses method =
      (setting.throughBlock (setting.entryLocks method)
        (setting.pushAll ⟨[], []⟩ method.params) method.body).reported := by
  rw [throughBlock_eq, pushAll_eq, accesses, if_neg (Bool.eq_false_iff.mp h)]
  rfl

/-- The walk goes through statements in two halves: the second starts from the locals and the locks
that the first leaves. The locals that it leaves are those from before, and on top of them those
that its statements declare by themselves. A block or an expression leaves the locals as they were,
and so does a statement that is no declaration. So what is reported of the second half depends on
the first only by its declarations and by the locks that stay taken. -/
theorem nothing_leaks_out_of_a_statement (held : HeldSet) (pending : List Guard) (trail : Trail) :
    (∀ before later,
      let left := setting.throughStmts held pending trail before
      setting.throughStmts held pending trail (before ++ later) =
          setting.throughStmts held left.2 left.1 later ∧
        left.1.locals = (setting.declaredAll before).reverse ++ trail.locals ∧
        left.1.reported = trail.reported ++ setting.inBlock trail.locals held pending before ∧
        setting.inBlock trail.locals held pending (before ++ later) =
          setting.inBlock trail.locals held pending before
            ++ setting.inBlock left.1.locals held left.2 later) ∧
    (∀ body, (setting.throughBlock held trail body).locals = trail.locals) ∧
    (∀ e, (setting.throughExpr held trail e).locals = trail.locals) ∧
    (∀ s, (setting.throughStmt held pending trail s).locals =
      (setting.declared s).toList ++ trail.locals) ∧
    (∀ before before' later, setting.declaredAll before = setting.declaredAll before' →
      (setting.throughStmts held pending trail before).2 =
        (setting.throughStmts held pending trail before').2 →
      ∃ events,
        setting.inBlock trail.locals held pending (before ++ later) =
          setting.inBlock trail.locals held pending before ++ events ∧
        setting.inBlock trail.locals held pending (before' ++ later) =
          setting.inBlock trail.locals held pending before' ++ events) ∧
    (∀ method : MethodDecl, method.isConstructor = false →
      setting.accesses method =
        (setting.throughBlock (setting.entryLocks method)
          (setting.pushAll ⟨[], []⟩ method.params) method.body).reported) := by
  -- The locals and the locks that the first half leaves, put into the law of the other walk.
  have hcut : ∀ before later,
      setting.inBlock trail.locals held pending (before ++ later) =
        setting.inBlock trail.locals held pending before
          ++ setting.inBlock ((setting.declaredAll before).reverse ++ trail.locals) held
            (setting.throughStmts held pending trail before).2 later := by
    intro before later
    rw [inBlock_append, afterAll_eq, pending_throughStmts]
  refine ⟨fun before later => ⟨throughStmts_append .., locals_throughStmts ..,
    reported_throughStmts .., ?_⟩, ?_, ?_, ?_, ?_, setting.accesses_eq_throughBlock⟩
  · rw [hcut, locals_throughStmts]
  · intro body
    rw [throughBlock_eq, Trail.locals_report]
  · intro e
    rw [throughExpr_eq, Trail.locals_report]
  · intro s
    rw [throughStmt_eq, Trail.locals_withLocals, afterStmt_eq]
  · intro before before' later hdeclared hpending
    refine ⟨_, hcut before later, ?_⟩
    rw [hcut before', ← hdeclared, ← hpending]

end Setting

namespace Counter

/-- Declares an `x` in a lambda, in a loop and in a block, and no more than that. -/
def declaresInside : List Stmt :=
  let x : Stmt := .declare "x" "int" none .unknown
  [.evaluate (.lambda [⟨"x", "int"⟩] [x] .unknown),
    .forLoop [x] none [] [.synchronized (.name "mu" .unknown) [x] .unknown] .unknown,
    .block [x] .unknown]

/-- Reads `x` behind declarations of locals of that name that have ended. -/
def readsBehindDeclarations : MethodDecl := method [] none (declaresInside ++ [readX])

theorem declarations_inside_statements_hide_no_field :
    let setting := setting [readsBehindDeclarations] readsBehindDeclarations
    setting.declaredAll declaresInside = [] ∧
      (setting.throughStmts .empty [] ⟨[], []⟩ declaresInside).2 = [] ∧
      (setting.inBlock [] .empty [] [readX]).length = 1 ∧
      (∃ events,
        setting.inBlock [] .empty [] (declaresInside ++ [readX]) =
          setting.inBlock [] .empty [] declaresInside ++ events ∧
        setting.inBlock [] .empty [] ([] ++ [readX]) =
          setting.inBlock [] .empty [] [] ++ events) ∧
      readsBehindDeclarations.isConstructor = false ∧
      setting.accesses readsBehindDeclarations =
        (setting.throughBlock (setting.entryLocks readsBehindDeclarations)
          (setting.pushAll ⟨[], []⟩ readsBehindDeclarations.params)
          readsBehindDeclarations.body).reported := by
  intro setting
  have hdeclared : setting.declaredAll declaresInside = [] := rfl
  have hpending : (setting.throughStmts .empty [] ⟨[], []⟩ declaresInside).2 = [] := by
    rw [setting.pending_throughStmts]
    decide +kernel
  obtain ⟨-, -, -, -, hsame, hmethod⟩ :=
    setting.nothing_leaks_out_of_a_statement .empty [] ⟨[], []⟩
  exact ⟨hdeclared, hpending, by decide +kernel,
    hsame declaresInside [] [readX] hdeclared hpending, rfl, hmethod readsBehindDeclarations rfl⟩

end Counter

end LockDiscipline
