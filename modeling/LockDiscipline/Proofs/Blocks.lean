-- A block is walked statement by statement. What one statement leaves to the next is the locals and
-- the locks that stay taken, and nothing else, so a block can be cut at every statement.
import LockDiscipline.Analysis.Walk

namespace LockDiscipline

namespace Setting

variable (setting : Setting)

/-! ## What a run of statements leaves -/

/-- The locals after statements of a block. -/
def afterAll (locals : Locals) (stmts : List Stmt) : Locals := stmts.foldl setting.afterStmt locals

/-- The locks that stay taken after statements of a block. -/
def pendingAfter (locals : Locals) (pending : List Guard) : List Stmt → List Guard
  | [] => pending
  | stmt :: rest =>
    pendingAfter (setting.afterStmt locals stmt) (setting.track locals pending stmt) rest

@[simp] theorem afterAll_cons (locals : Locals) (stmt : Stmt) (rest : List Stmt) :
    setting.afterAll locals (stmt :: rest) =
      setting.afterAll (setting.afterStmt locals stmt) rest := rfl

@[simp] theorem afterAll_append (locals : Locals) (stmts more : List Stmt) :
    setting.afterAll locals (stmts ++ more) =
      setting.afterAll (setting.afterAll locals stmts) more := List.foldl_append

@[simp] theorem pendingAfter_nil (locals : Locals) (pending : List Guard) :
    setting.pendingAfter locals pending [] = pending := rfl

@[simp] theorem pendingAfter_cons (locals : Locals) (pending : List Guard) (stmt : Stmt)
    (rest : List Stmt) :
    setting.pendingAfter locals pending (stmt :: rest) =
      setting.pendingAfter (setting.afterStmt locals stmt) (setting.track locals pending stmt)
        rest := rfl

theorem pendingAfter_append (locals : Locals) (pending : List Guard) (stmts more : List Stmt) :
    setting.pendingAfter locals pending (stmts ++ more) =
      setting.pendingAfter (setting.afterAll locals stmts)
        (setting.pendingAfter locals pending stmts) more := by
  induction stmts generalizing locals pending with
  | nil => rfl
  | cons stmt rest ih =>
    rw [List.cons_append, pendingAfter_cons, ih]
    rfl

/-! ## Cutting a block -/

theorem inBlock_append (locals : Locals) (held : HeldSet) (pending : List Guard)
    (stmts more : List Stmt) :
    setting.inBlock locals held pending (stmts ++ more) =
      setting.inBlock locals held pending stmts
        ++ setting.inBlock (setting.afterAll locals stmts) held
          (setting.pendingAfter locals pending stmts) more := by
  induction stmts generalizing locals pending with
  | nil => rfl
  | cons stmt rest ih =>
    simp only [List.cons_append, inBlock, ih, afterAll_cons, pendingAfter_cons, List.append_assoc]

/-- The walk of a block around one of its statements. The statement gets the locals and the locks
that the statements before it leave. -/
theorem inBlock_split (locals : Locals) (held : HeldSet) (pending : List Guard)
    (before : List Stmt) (stmt : Stmt) (later : List Stmt) :
    setting.inBlock locals held pending (before ++ stmt :: later) =
      setting.inBlock locals held pending before
        ++ setting.inStmt (setting.afterAll locals before) held
          (setting.pendingAfter locals pending before) stmt
        ++ setting.inBlock (setting.afterAll locals (before ++ [stmt])) held
          (setting.pendingAfter locals pending (before ++ [stmt])) later := by
  rw [inBlock_append, inBlock, afterAll_append, pendingAfter_append, List.append_assoc]
  rfl

end Setting

end LockDiscipline
