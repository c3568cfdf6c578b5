-- A unit whose places can be held is spelled by plain trees only. A spelling has nothing in it but
-- texts, flags, the numbers of places and what is added to it, so the numbers alone decide.
import LockDiscipline.Proofs.UnitSpellings

namespace LockDiscipline

open Json

/-! ## Places that can be held -/

/-- The numbers of the place are below `2 ^ 64`. -/
def Span.IsSized (span : Span) : Prop :=
  span.start < 2 ^ 64 ∧ span.stop < 2 ^ 64 ∧ span.line < 2 ^ 64 ∧ span.column < 2 ^ 64

mutual

/-- Every place in the expression is sized. -/
def Expr.IsSized : Expr → Prop
  | .this span | .qualifiedThis _ span | .name _ span | .classLit _ span | .literal _ span =>
    span.IsSized
  | .select e _ span | .unary _ e span | .cast _ e span => e.IsSized ∧ span.IsSized
  | .call receiver _ args span =>
    Expr.OptionIsSized receiver ∧ Expr.AllSized args ∧ span.IsSized
  | .new _ args span => Expr.AllSized args ∧ span.IsSized
  | .assign lhs rhs _ span | .binary _ lhs rhs span | .index lhs rhs span =>
    lhs.IsSized ∧ rhs.IsSized ∧ span.IsSized
  | .conditional cond thenVal elseVal span =>
    cond.IsSized ∧ thenVal.IsSized ∧ elseVal.IsSized ∧ span.IsSized
  | .lambda _ body span => Stmt.AllSized body ∧ span.IsSized

def Expr.AllSized : List Expr → Prop
  | [] => True
  | e :: rest => e.IsSized ∧ Expr.AllSized rest

def Expr.OptionIsSized : Option Expr → Prop
  | none => True
  | some e => e.IsSized

/-- Every place in the statement is sized. -/
def Stmt.IsSized : Stmt → Prop
  | .evaluate e => e.IsSized
  | .declare _ _ init span => Expr.OptionIsSized init ∧ span.IsSized
  | .block body span => Stmt.AllSized body ∧ span.IsSized
  | .ifElse cond thenBranch elseBranch span =>
    cond.IsSized ∧ Stmt.AllSized thenBranch ∧ Stmt.BranchIsSized elseBranch ∧ span.IsSized
  | .whileLoop e body span | .doWhile body e span | .forEach _ _ e body span
  | .synchronized e body span => e.IsSized ∧ Stmt.AllSized body ∧ span.IsSized
  | .forLoop init cond update body span =>
    Stmt.AllSized init ∧ Expr.OptionIsSized cond ∧ Expr.AllSized update ∧ Stmt.AllSized body ∧
      span.IsSized
  | .switch subject cases span => subject.IsSized ∧ SwitchCase.AllSized cases ∧ span.IsSized
  | .returns value span => Expr.OptionIsSized value ∧ span.IsSized
  | .throws value span => value.IsSized ∧ span.IsSized
  | .breaks span | .continues span => span.IsSized
  | .tryBlock body catches atEnd span =>
    Stmt.AllSized body ∧ CatchClause.AllSized catches ∧ Stmt.BranchIsSized atEnd ∧ span.IsSized

def Stmt.AllSized : List Stmt → Prop
  | [] => True
  | s :: rest => s.IsSized ∧ Stmt.AllSized rest

def Stmt.BranchIsSized : Option (List Stmt) → Prop
  | none => True
  | some body => Stmt.AllSized body

def SwitchCase.IsSized : SwitchCase → Prop
  | .mk labels body => Expr.AllSized labels ∧ Stmt.AllSized body

def SwitchCase.AllSized : List SwitchCase → Prop
  | [] => True
  | c :: rest => c.IsSized ∧ SwitchCase.AllSized rest

def CatchClause.IsSized : CatchClause → Prop
  | .mk _ _ body => Stmt.AllSized body

def CatchClause.AllSized : List CatchClause → Prop
  | [] => True
  | c :: rest => c.IsSized ∧ CatchClause.AllSized rest

end

def FieldDecl.IsSized (field : FieldDecl) : Prop :=
  (∀ note ∈ field.guardedBy, note.span.IsSized) ∧ (∀ e ∈ field.initializer, e.IsSized) ∧
    field.span.IsSized

def MethodDecl.IsSized (method : MethodDecl) : Prop :=
  (∀ note ∈ method.guardedBy, note.span.IsSized) ∧ (∀ s ∈ method.body, s.IsSized) ∧
    method.span.IsSized

def Initializer.IsSized (initializer : Initializer) : Prop :=
  (∀ s ∈ initializer.body, s.IsSized) ∧ initializer.span.IsSized

mutual

/-- Every place in the class is sized. -/
def ClassDecl.IsSized : ClassDecl → Prop
  | .mk _ _ _ fields methods initializers nested span =>
    (∀ field ∈ fields, field.IsSized) ∧ (∀ method ∈ methods, method.IsSized) ∧
      (∀ initializer ∈ initializers, initializer.IsSized) ∧ ClassDecl.AllSized nested ∧
      span.IsSized

def ClassDecl.AllSized : List ClassDecl → Prop
  | [] => True
  | cls :: rest => cls.IsSized ∧ ClassDecl.AllSized rest

end

/-- Every place in the unit is sized. -/
def CompilationUnit.IsSized (unit : CompilationUnit) : Prop := ∀ cls ∈ unit.classes, cls.IsSized

/-! ## Values that plain trees spell -/

/-- Only plain trees stand for the value. -/
def Json.PlainOnly (spells : Tree → Prop) : Prop := ∀ tree, spells tree → tree.isPlain = true

namespace Json.PlainOnly

variable {α : Type} {spells : α → Tree → Prop}

theorem null : PlainOnly (· = .null) := by
  rintro tree rfl
  rfl

theorem text (s : String) : PlainOnly (Tree.IsText s) := by
  rintro tree rfl
  rfl

theorem number {n : Nat} (h : n < 2 ^ 64) : PlainOnly (· = .ofNat n) := by
  rintro tree rfl
  exact decide_eq_true h

theorem flag (value : Bool) : PlainOnly (· = .bool value) := by
  rintro tree rfl
  rfl

theorem option {value : Option α} (h : ∀ a ∈ value, PlainOnly (spells a)) :
    PlainOnly (Tree.IsOption spells value) := by
  intro tree hspells
  cases value with
  | none => exact null tree hspells
  | some a => exact h a rfl tree hspells

theorem list {values : List α} (h : ∀ a ∈ values, PlainOnly (spells a)) :
    PlainOnly (Tree.IsList (List.Forall₂ spells values)) := by
  intro tree hlist
  cases tree with
  | array trees closed =>
    obtain ⟨rfl, hspells⟩ := hlist
    rw [Tree.isPlain, Bool.true_and, Tree.allPlain_iff]
    induction hspells with
    | nil => exact nofun
    | cons hspelled _ ih =>
      rw [List.forall_mem_cons] at h ⊢
      exact ⟨h.1 _ hspelled, ih h.2⟩
  | _ => exact hlist.elim

theorem ofItems {slots : List Slot} {items : List Tree}
    (h : ∀ slot ∈ slots, PlainOnly slot.Spells) (hitems : Slot.InItems slots items) :
    ∀ tree ∈ items, tree.isPlain = true := by
  induction slots generalizing items with
  | nil =>
    rw [show items = [] from hitems]
    exact nofun
  | cons slot slots ih =>
    rw [List.forall_mem_cons] at h
    cases items with
    | nil => exact nofun
    | cons tree items =>
      rw [List.forall_mem_cons]
      exact ⟨h.1 tree hitems.1, ih h.2 hitems.2⟩

/-- A record is plain if its fields are. -/
theorem record {slots : List Slot} (h : ∀ slot ∈ slots, PlainOnly slot.Spells) :
    PlainOnly (Tree.IsRecord slots) := by
  intro tree hrecord
  cases tree with
  | object members closed =>
    obtain ⟨rfl, hslots, hothers⟩ := hrecord
    rw [Tree.isPlain, Bool.true_and, Tree.allMembersPlain_iff]
    intro member hmember
    obtain ⟨hkey, hother⟩ := hothers member hmember
    refine ⟨hkey, ?_⟩
    by_cases hslot : ∀ slot ∈ slots, member.1 ≠ some slot.name
    · exact hother hslot
    · push Not at hslot
      obtain ⟨slot, hslot, hname⟩ := hslot
      have hfound : member ∈ members.filter (·.1 == some slot.name) :=
        List.mem_filter.mpr ⟨hmember, by simpa using hname⟩
      rcases hslots slot hslot with ⟨-, hnone⟩ | ⟨tree, hspells, hone⟩
      · rw [hnone] at hfound
        cases hfound
      · rw [hone, List.mem_singleton] at hfound
        rw [hfound]
        exact h slot hslot tree hspells
  | array items closed =>
    obtain ⟨rfl, hitems⟩ := hrecord
    rw [Tree.isPlain, Bool.true_and, Tree.allPlain_iff]
    exact ofItems h hitems
  | _ => exact hrecord.elim

theorem node {kind : String} {slots : List Slot} (h : ∀ slot ∈ slots, PlainOnly slot.Spells) :
    PlainOnly (Tree.IsNode kind slots) :=
  record (List.forall_mem_cons.mpr ⟨text kind, h⟩)

@[simp] theorem text_slot (name value : String) : PlainOnly (Slot.text name value).Spells :=
  text value

@[simp] theorem flag_slot (name : String) (value : Bool) :
    PlainOnly (Slot.flag name value).Spells :=
  flag value

@[simp] theorem optionalText_slot (name : String) (value : Option String) :
    PlainOnly (Slot.optional name Tree.IsText value).Spells :=
  option fun s _ => text s

end Json.PlainOnly

/-! ## Small records -/

theorem Span.plainOnly {span : Span} (h : span.IsSized) : PlainOnly span.slot.Spells := by
  obtain ⟨hstart, hstop, hline, hcolumn⟩ := h
  apply PlainOnly.record
  simp only [List.forall_mem_cons]
  refine ⟨.number hstart, .number hstop, .number hline, .number hcolumn, ?_⟩
  intro slot hslot
  cases hslot

theorem Param.plainOnly (param : Param) : PlainOnly param.Spelled := .record (by simp)

theorem GuardNote.plainOnly {note : GuardNote} (h : note.span.IsSized) : PlainOnly note.Spelled :=
  .record (by simp [Span.plainOnly h])

/-! ## Expressions and statements -/

theorem Expr.plainOnly_all {es : List Expr} (h : ∀ e ∈ es, PlainOnly e.Spelled) :
    PlainOnly (Tree.IsList (Expr.AllSpelled es)) := by
  rw [Expr.allSpelled_eq]
  exact .list h

theorem Stmt.plainOnly_all {stmts : List Stmt} (h : ∀ s ∈ stmts, PlainOnly s.Spelled) :
    PlainOnly (Tree.IsList (Stmt.AllSpelled stmts)) := by
  rw [Stmt.allSpelled_eq]
  exact .list h

mutual

/-- Only plain trees spell an expression whose places are sized. -/
theorem Expr.plainOnly (e : Expr) (h : e.IsSized) : PlainOnly e.Spelled := by
  cases e with
  | select receiver n span =>
    have hreceiver := Expr.plainOnly receiver h.1
    exact .node (by simp [hreceiver, Span.plainOnly h.2])
  | call receiver method args span =>
    have hreceiver := Expr.plainOnly_option receiver h.1
    have hargs := Expr.plainOnly_all (Expr.plainOnly_each args h.2.1)
    exact .node (by simp [hreceiver, hargs, Span.plainOnly h.2.2])
  | new cls args span =>
    have hargs := Expr.plainOnly_all (Expr.plainOnly_each args h.1)
    exact .node (by simp [hargs, Span.plainOnly h.2])
  | assign target value op span =>
    have htarget := Expr.plainOnly target h.1
    have hvalue := Expr.plainOnly value h.2.1
    exact .node (by simp [htarget, hvalue, Span.plainOnly h.2.2])
  | unary op operand span =>
    have hoperand := Expr.plainOnly operand h.1
    exact .node (by simp [hoperand, Span.plainOnly h.2])
  | binary op lhs rhs span =>
    have hlhs := Expr.plainOnly lhs h.1
    have hrhs := Expr.plainOnly rhs h.2.1
    exact .node (by simp [hlhs, hrhs, Span.plainOnly h.2.2])
  | conditional cond thenVal elseVal span =>
    have hcond := Expr.plainOnly cond h.1
    have hthen := Expr.plainOnly thenVal h.2.1
    have helse := Expr.plainOnly elseVal h.2.2.1
    exact .node (by simp [hcond, hthen, helse, Span.plainOnly h.2.2.2])
  | index base i span =>
    have hbase := Expr.plainOnly base h.1
    have hi := Expr.plainOnly i h.2.1
    exact .node (by simp [hbase, hi, Span.plainOnly h.2.2])
  | cast type expr span =>
    have hexpr := Expr.plainOnly expr h.1
    exact .node (by simp [hexpr, Span.plainOnly h.2])
  | lambda params body span =>
    have hparams : PlainOnly (Slot.list "params" Param.Spelled params).Spells :=
      .list fun param _ => param.plainOnly
    have hbody := Stmt.plainOnly_all (Stmt.plainOnly_each body h.1)
    exact .node (by simp [hparams, hbody, Span.plainOnly h.2])
  | _ => exact .node (by simp [Span.plainOnly h])

theorem Expr.plainOnly_each (es : List Expr) (h : Expr.AllSized es) :
    ∀ e ∈ es, PlainOnly e.Spelled := by
  cases es with
  | nil => exact nofun
  | cons e rest =>
    rw [List.forall_mem_cons]
    exact ⟨Expr.plainOnly e h.1, Expr.plainOnly_each rest h.2⟩

theorem Expr.plainOnly_option (e : Option Expr) (h : Expr.OptionIsSized e) :
    PlainOnly (Expr.OptionSpelled e) := by
  cases e with
  | none => exact .null
  | some e => exact Expr.plainOnly e h

/-- Only plain trees spell a statement whose places are sized. -/
theorem Stmt.plainOnly (s : Stmt) (h : s.IsSized) : PlainOnly s.Spelled := by
  cases s with
  | evaluate expr =>
    have hexpr := Expr.plainOnly expr h
    exact .node (by simp [hexpr])
  | declare name type init span =>
    have hinit := Expr.plainOnly_option init h.1
    exact .node (by simp [hinit, Span.plainOnly h.2])
  | block body span =>
    have hbody := Stmt.plainOnly_all (Stmt.plainOnly_each body h.1)
    exact .node (by simp [hbody, Span.plainOnly h.2])
  | ifElse cond thenBranch elseBranch span =>
    have hcond := Expr.plainOnly cond h.1
    have hthen := Stmt.plainOnly_all (Stmt.plainOnly_each thenBranch h.2.1)
    have helse := Stmt.plainOnly_branch elseBranch h.2.2.1
    exact .node (by simp [hcond, hthen, helse, Span.plainOnly h.2.2.2])
  | forLoop init cond update body span =>
    have hinit := Stmt.plainOnly_all (Stmt.plainOnly_each init h.1)
    have hcond := Expr.plainOnly_option cond h.2.1
    have hupdate := Expr.plainOnly_all (Expr.plainOnly_each update h.2.2.1)
    have hbody := Stmt.plainOnly_all (Stmt.plainOnly_each body h.2.2.2.1)
    exact .node (by simp [hinit, hcond, hupdate, hbody, Span.plainOnly h.2.2.2.2])
  | whileLoop e body span | doWhile body e span | forEach _ _ e body span
  | synchronized e body span =>
    have he := Expr.plainOnly e h.1
    have hbody := Stmt.plainOnly_all (Stmt.plainOnly_each body h.2.1)
    exact .node (by simp [he, hbody, Span.plainOnly h.2.2])
  | switch subject cases span =>
    have hsubject := Expr.plainOnly subject h.1
    have hcases := PlainOnly.list (SwitchCase.plainOnly_each cases h.2.1)
    rw [← SwitchCase.allSpelled_eq] at hcases
    exact .node (by simp [hsubject, hcases, Span.plainOnly h.2.2])
  | returns value span =>
    have hvalue := Expr.plainOnly_option value h.1
    exact .node (by simp [hvalue, Span.plainOnly h.2])
  | throws value span =>
    have hvalue := Expr.plainOnly value h.1
    exact .node (by simp [hvalue, Span.plainOnly h.2])
  | tryBlock body catches atEnd span =>
    have hbody := Stmt.plainOnly_all (Stmt.plainOnly_each body h.1)
    have hcatches := PlainOnly.list (CatchClause.plainOnly_each catches h.2.1)
    rw [← CatchClause.allSpelled_eq] at hcatches
    have hend := Stmt.plainOnly_branch atEnd h.2.2.1
    exact .node (by simp [hbody, hcatches, hend, Span.plainOnly h.2.2.2])
  | _ => exact .node (by simp [Span.plainOnly h])

theorem Stmt.plainOnly_each (stmts : List Stmt) (h : Stmt.AllSized stmts) :
    ∀ s ∈ stmts, PlainOnly s.Spelled := by
  cases stmts with
  | nil => exact nofun
  | cons s rest =>
    rw [List.forall_mem_cons]
    exact ⟨Stmt.plainOnly s h.1, Stmt.plainOnly_each rest h.2⟩

theorem Stmt.plainOnly_branch (branch : Option (List Stmt)) (h : Stmt.BranchIsSized branch) :
    PlainOnly (Stmt.BranchSpelled branch) := by
  cases branch with
  | none => exact .null
  | some body => exact Stmt.plainOnly_all (Stmt.plainOnly_each body h)

theorem SwitchCase.plainOnly_each (cases : List SwitchCase) (h : SwitchCase.AllSized cases) :
    ∀ c ∈ cases, PlainOnly c.Spelled := by
  cases cases with
  | nil => exact nofun
  | cons c rest =>
    cases c with
    | mk labels body =>
      have hlabels := Expr.plainOnly_all (Expr.plainOnly_each labels h.1.1)
      have hbody := Stmt.plainOnly_all (Stmt.plainOnly_each body h.1.2)
      rw [List.forall_mem_cons]
      exact ⟨.record (by simp [hlabels, hbody]), SwitchCase.plainOnly_each rest h.2⟩

theorem CatchClause.plainOnly_each (catches : List CatchClause)
    (h : CatchClause.AllSized catches) : ∀ c ∈ catches, PlainOnly c.Spelled := by
  cases catches with
  | nil => exact nofun
  | cons c rest =>
    cases c with
    | mk param type body =>
      have hbody := Stmt.plainOnly_all (Stmt.plainOnly_each body h.1)
      rw [List.forall_mem_cons]
      exact ⟨.record (by simp [hbody]), CatchClause.plainOnly_each rest h.2⟩

end

/-! ## Declarations -/

theorem FieldDecl.plainOnly {field : FieldDecl} (h : field.IsSized) :
    PlainOnly field.Spelled := by
  have hguard : PlainOnly (Slot.optional "guarded_by" GuardNote.Spelled field.guardedBy).Spells :=
    .option fun note hnote => GuardNote.plainOnly (h.1 note hnote)
  have hinitializer :
      PlainOnly (Slot.optional "initializer" Expr.Spelled field.initializer).Spells :=
    .option fun e he => e.plainOnly (h.2.1 e he)
  exact .record (by simp [hguard, hinitializer, Span.plainOnly h.2.2])

theorem MethodDecl.plainOnly {method : MethodDecl} (h : method.IsSized) :
    PlainOnly method.Spelled := by
  have hkind := PlainOnly.text method.kind.word
  have hparams : PlainOnly (Slot.list "params" Param.Spelled method.params).Spells :=
    .list fun param _ => param.plainOnly
  have hguard : PlainOnly (Slot.optional "guarded_by" GuardNote.Spelled method.guardedBy).Spells :=
    .option fun note hnote => GuardNote.plainOnly (h.1 note hnote)
  have hbody : PlainOnly (Slot.list "body" Stmt.Spelled method.body).Spells :=
    .list fun s hs => s.plainOnly (h.2.1 s hs)
  exact .record (by simp [hkind, hparams, hguard, hbody, Span.plainOnly h.2.2])

theorem Initializer.plainOnly {initializer : Initializer} (h : initializer.IsSized) :
    PlainOnly initializer.Spelled := by
  have hbody : PlainOnly (Slot.list "body" Stmt.Spelled initializer.body).Spells :=
    .list fun s hs => s.plainOnly (h.1 s hs)
  exact .record (by simp [hbody, Span.plainOnly h.2])

mutual

theorem ClassDecl.plainOnly (cls : ClassDecl) (h : cls.IsSized) : PlainOnly cls.Spelled := by
  cases cls with
  | mk name supertypes isStatic fields methods initializers nested span =>
    obtain ⟨hsizedFields, hsizedMethods, hsizedInitializers, hsizedNested, hspan⟩ := h
    have hsupertypes : PlainOnly (Slot.list "supertypes" Tree.IsText supertypes).Spells :=
      .list fun name _ => .text name
    have hfields : PlainOnly (Slot.list "fields" FieldDecl.Spelled fields).Spells :=
      .list fun field hfield => FieldDecl.plainOnly (hsizedFields field hfield)
    have hmethods : PlainOnly (Slot.list "methods" MethodDecl.Spelled methods).Spells :=
      .list fun method hmethod => MethodDecl.plainOnly (hsizedMethods method hmethod)
    have hinitializers :
        PlainOnly (Slot.list "initializers" Initializer.Spelled initializers).Spells :=
      .list fun initializer hinitializer =>
        Initializer.plainOnly (hsizedInitializers initializer hinitializer)
    have hnested := PlainOnly.list (ClassDecl.plainOnly_each nested hsizedNested)
    rw [← ClassDecl.allSpelled_eq] at hnested
    exact .record (by
      simp [hsupertypes, hfields, hmethods, hinitializers, hnested, Span.plainOnly hspan])

theorem ClassDecl.plainOnly_each (classes : List ClassDecl) (h : ClassDecl.AllSized classes) :
    ∀ cls ∈ classes, PlainOnly cls.Spelled := by
  cases classes with
  | nil => exact nofun
  | cons cls rest =>
    rw [List.forall_mem_cons]
    exact ⟨ClassDecl.plainOnly cls h.1, ClassDecl.plainOnly_each rest h.2⟩

end

/-- Only plain trees spell a unit whose places are sized. -/
theorem CompilationUnit.plainOnly {unit : CompilationUnit} (h : unit.IsSized) :
    PlainOnly unit.Spelled := by
  have hclasses : PlainOnly (Slot.list "classes" ClassDecl.Spelled unit.classes).Spells :=
    .list fun cls hcls => cls.plainOnly (h cls hcls)
  exact .record (by simp [hclasses])

end LockDiscipline
