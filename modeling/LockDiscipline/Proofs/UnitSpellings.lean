-- What a compilation unit may be spelled as, node by node: which fields a record has, in which
-- order, how each is spelled and which of them may be left out. The form that is written has every
-- field and is one of the spellings.
import LockDiscipline.Program.ToJson
import LockDiscipline.Proofs.Spellings
import Mathlib.Data.List.Forall2
import Mathlib.Data.List.Nodup

namespace LockDiscipline

open Json

/-! ## Small records -/

/-- The tree is a spelling of the place. -/
def Span.Spelled (span : Span) : Tree → Prop :=
  Tree.IsRecord
    [.number "start" span.start, .number "end" span.stop, .number "line" span.line,
      .number "col" span.column]

/-- The place of a piece, which is not known where it is left out. -/
def Span.slot (span : Span) : Slot := ⟨"span", span.Spelled, span = .unknown⟩

@[simp] theorem Span.name_slot (span : Span) : span.slot.name = "span" := rfl

def Param.Spelled (param : Param) : Tree → Prop :=
  Tree.IsRecord [.text "name" param.name, .text "ty" param.type]

def GuardNote.Spelled (note : GuardNote) : Tree → Prop :=
  Tree.IsRecord [.text "text" note.text, note.span.slot]

/-! ## Expressions and statements -/

mutual

/-- The tree is a spelling of the expression. -/
def Expr.Spelled : Expr → Tree → Prop
  | .this span => Tree.IsNode "this" [span.slot]
  | .qualifiedThis cls span => Tree.IsNode "qualified_this" [.text "class" cls, span.slot]
  | .name n span => Tree.IsNode "name" [.text "name" n, span.slot]
  | .select receiver n span =>
    Tree.IsNode "select" [⟨"receiver", receiver.Spelled, False⟩, .text "name" n, span.slot]
  | .classLit cls span => Tree.IsNode "class_lit" [.text "class" cls, span.slot]
  | .call receiver method args span =>
    Tree.IsNode "call"
      [ ⟨"receiver", Expr.OptionSpelled receiver, receiver = none⟩, .text "method" method,
        ⟨"args", Tree.IsList (Expr.AllSpelled args), args = []⟩, span.slot ]
  | .new cls args span =>
    Tree.IsNode "new"
      [.text "class" cls, ⟨"args", Tree.IsList (Expr.AllSpelled args), args = []⟩, span.slot]
  | .assign target value op span =>
    Tree.IsNode "assign"
      [ ⟨"target", target.Spelled, False⟩, ⟨"value", value.Spelled, False⟩,
        .optional "op" Tree.IsText op, span.slot ]
  | .unary op operand span =>
    Tree.IsNode "unary" [.text "op" op, ⟨"operand", operand.Spelled, False⟩, span.slot]
  | .binary op lhs rhs span =>
    Tree.IsNode "binary"
      [ .text "op" op, ⟨"lhs", lhs.Spelled, False⟩, ⟨"rhs", rhs.Spelled, False⟩, span.slot ]
  | .conditional cond thenVal elseVal span =>
    Tree.IsNode "conditional"
      [ ⟨"cond", cond.Spelled, False⟩, ⟨"then_val", thenVal.Spelled, False⟩,
        ⟨"else_val", elseVal.Spelled, False⟩, span.slot ]
  | .index base i span =>
    Tree.IsNode "index" [⟨"base", base.Spelled, False⟩, ⟨"index", i.Spelled, False⟩, span.slot]
  | .cast type expr span =>
    Tree.IsNode "cast" [.text "ty" type, ⟨"expr", expr.Spelled, False⟩, span.slot]
  | .lambda params body span =>
    Tree.IsNode "lambda"
      [ .list "params" Param.Spelled params,
        ⟨"body", Tree.IsList (Stmt.AllSpelled body), False⟩, span.slot ]
  | .literal value span => Tree.IsNode "literal" [.text "value" value, span.slot]

def Expr.AllSpelled : List Expr → List Tree → Prop
  | [], trees => trees = []
  | _ :: _, [] => False
  | expr :: rest, tree :: trees => expr.Spelled tree ∧ Expr.AllSpelled rest trees

def Expr.OptionSpelled : Option Expr → Tree → Prop
  | none => (· = .null)
  | some expr => expr.Spelled

/-- The tree is a spelling of the statement. -/
def Stmt.Spelled : Stmt → Tree → Prop
  | .evaluate expr => Tree.IsNode "expr" [⟨"expr", expr.Spelled, False⟩]
  | .declare name type init span =>
    Tree.IsNode "local"
      [ .text "name" name, .text "ty" type, ⟨"init", Expr.OptionSpelled init, init = none⟩,
        span.slot ]
  | .block body span =>
    Tree.IsNode "block" [⟨"body", Tree.IsList (Stmt.AllSpelled body), False⟩, span.slot]
  | .ifElse cond thenBranch elseBranch span =>
    Tree.IsNode "if"
      [ ⟨"cond", cond.Spelled, False⟩,
        ⟨"then_branch", Tree.IsList (Stmt.AllSpelled thenBranch), False⟩,
        ⟨"else_branch", Stmt.BranchSpelled elseBranch, elseBranch = none⟩, span.slot ]
  | .whileLoop cond body span =>
    Tree.IsNode "while"
      [ ⟨"cond", cond.Spelled, False⟩, ⟨"body", Tree.IsList (Stmt.AllSpelled body), False⟩,
        span.slot ]
  | .doWhile body cond span =>
    Tree.IsNode "do_while"
      [ ⟨"body", Tree.IsList (Stmt.AllSpelled body), False⟩, ⟨"cond", cond.Spelled, False⟩,
        span.slot ]
  | .forLoop init cond update body span =>
    Tree.IsNode "for"
      [ ⟨"init", Tree.IsList (Stmt.AllSpelled init), init = []⟩,
        ⟨"cond", Expr.OptionSpelled cond, cond = none⟩,
        ⟨"update", Tree.IsList (Expr.AllSpelled update), update = []⟩,
        ⟨"body", Tree.IsList (Stmt.AllSpelled body), False⟩, span.slot ]
  | .forEach var type iterable body span =>
    Tree.IsNode "for_each"
      [ .text "var" var, .text "ty" type, ⟨"iterable", iterable.Spelled, False⟩,
        ⟨"body", Tree.IsList (Stmt.AllSpelled body), False⟩, span.slot ]
  | .switch subject cases span =>
    Tree.IsNode "switch"
      [ ⟨"subject", subject.Spelled, False⟩,
        ⟨"cases", Tree.IsList (SwitchCase.AllSpelled cases), False⟩, span.slot ]
  | .returns value span =>
    Tree.IsNode "return" [⟨"value", Expr.OptionSpelled value, value = none⟩, span.slot]
  | .throws value span => Tree.IsNode "throw" [⟨"value", value.Spelled, False⟩, span.slot]
  | .breaks span => Tree.IsNode "break" [span.slot]
  | .continues span => Tree.IsNode "continue" [span.slot]
  | .synchronized lock body span =>
    Tree.IsNode "synchronized"
      [ ⟨"lock", lock.Spelled, False⟩, ⟨"body", Tree.IsList (Stmt.AllSpelled body), False⟩,
        span.slot ]
  | .tryBlock body catches atEnd span =>
    Tree.IsNode "try"
      [ ⟨"body", Tree.IsList (Stmt.AllSpelled body), False⟩,
        ⟨"catches", Tree.IsList (CatchClause.AllSpelled catches), catches = []⟩,
        ⟨"finally", Stmt.BranchSpelled atEnd, atEnd = none⟩, span.slot ]

def Stmt.AllSpelled : List Stmt → List Tree → Prop
  | [], trees => trees = []
  | _ :: _, [] => False
  | stmt :: rest, tree :: trees => stmt.Spelled tree ∧ Stmt.AllSpelled rest trees

def Stmt.BranchSpelled : Option (List Stmt) → Tree → Prop
  | none => (· = .null)
  | some body => Tree.IsList (Stmt.AllSpelled body)

def SwitchCase.Spelled : SwitchCase → Tree → Prop
  | .mk labels body =>
    Tree.IsRecord
      [ ⟨"labels", Tree.IsList (Expr.AllSpelled labels), labels = []⟩,
        ⟨"body", Tree.IsList (Stmt.AllSpelled body), False⟩ ]

def SwitchCase.AllSpelled : List SwitchCase → List Tree → Prop
  | [], trees => trees = []
  | _ :: _, [] => False
  | first :: rest, tree :: trees => first.Spelled tree ∧ SwitchCase.AllSpelled rest trees

def CatchClause.Spelled : CatchClause → Tree → Prop
  | .mk param type body =>
    Tree.IsRecord
      [ .text "param" param, .text "ty" type,
        ⟨"body", Tree.IsList (Stmt.AllSpelled body), False⟩ ]

def CatchClause.AllSpelled : List CatchClause → List Tree → Prop
  | [], trees => trees = []
  | _ :: _, [] => False
  | first :: rest, tree :: trees => first.Spelled tree ∧ CatchClause.AllSpelled rest trees

end

/-! ## Declarations -/

def FieldDecl.Spelled (field : FieldDecl) : Tree → Prop :=
  Tree.IsRecord
    [ .text "name" field.name, .text "ty" field.type, .flag "is_static" field.isStatic,
      .optional "guarded_by" GuardNote.Spelled field.guardedBy,
      .optional "initializer" Expr.Spelled field.initializer, field.span.slot ]

def MethodDecl.Spelled (method : MethodDecl) : Tree → Prop :=
  Tree.IsRecord
    [ .text "name" method.name, ⟨"kind", Tree.IsText method.kind.word, method.kind = .method⟩,
      .flag "is_static" method.isStatic, .flag "is_synchronized" method.isSynchronized,
      .list "params" Param.Spelled method.params,
      .optional "guarded_by" GuardNote.Spelled method.guardedBy,
      .list "body" Stmt.Spelled method.body, method.span.slot ]

def Initializer.Spelled (initializer : Initializer) : Tree → Prop :=
  Tree.IsRecord
    [ .flag "is_static" initializer.isStatic, .list "body" Stmt.Spelled initializer.body,
      initializer.span.slot ]

mutual

/-- The tree is a spelling of the class. -/
def ClassDecl.Spelled : ClassDecl → Tree → Prop
  | .mk name supertypes isStatic fields methods initializers nested span =>
    Tree.IsRecord
      [ .text "name" name, .list "supertypes" Tree.IsText supertypes,
        .flag "is_static" isStatic, .list "fields" FieldDecl.Spelled fields,
        .list "methods" MethodDecl.Spelled methods,
        .list "initializers" Initializer.Spelled initializers,
        ⟨"nested", Tree.IsList (ClassDecl.AllSpelled nested), nested = []⟩, span.slot ]

def ClassDecl.AllSpelled : List ClassDecl → List Tree → Prop
  | [], trees => trees = []
  | _ :: _, [] => False
  | cls :: rest, tree :: trees => cls.Spelled tree ∧ ClassDecl.AllSpelled rest trees

end

/-- The tree is a spelling of the unit. -/
def CompilationUnit.Spelled (unit : CompilationUnit) : Tree → Prop :=
  Tree.IsRecord
    [ .optional "path" Tree.IsText unit.path, .optional "source" Tree.IsText unit.source,
      .list "classes" ClassDecl.Spelled unit.classes ]

/-! ## Lists and options -/

/-- Items that are spelled one by one in order, as many trees as values. -/
theorem forall₂_of_spelled {α : Type} {all : List α → List Tree → Prop} {spells : α → Tree → Prop}
    (hnil : ∀ trees, all [] trees = (trees = [])) (hshort : ∀ a rest, all (a :: rest) [] = False)
    (hcons : ∀ a rest tree trees,
      all (a :: rest) (tree :: trees) = (spells a tree ∧ all rest trees))
    (values : List α) : all values = List.Forall₂ spells values := by
  funext trees
  induction values generalizing trees with
  | nil => rw [hnil, List.forall₂_nil_left_iff]
  | cons a rest ih =>
    cases trees with
    | nil =>
      rw [hshort]
      exact propext ⟨False.elim, nofun⟩
    | cons tree trees => rw [hcons, ih, List.forall₂_cons]

theorem Expr.allSpelled_eq (es : List Expr) : Expr.AllSpelled es = List.Forall₂ Expr.Spelled es :=
  forall₂_of_spelled (fun _ => rfl) (fun _ _ => rfl) (fun _ _ _ _ => rfl) es

theorem Stmt.allSpelled_eq (stmts : List Stmt) :
    Stmt.AllSpelled stmts = List.Forall₂ Stmt.Spelled stmts :=
  forall₂_of_spelled (fun _ => rfl) (fun _ _ => rfl) (fun _ _ _ _ => rfl) stmts

theorem SwitchCase.allSpelled_eq (cases : List SwitchCase) :
    SwitchCase.AllSpelled cases = List.Forall₂ SwitchCase.Spelled cases :=
  forall₂_of_spelled (fun _ => rfl) (fun _ _ => rfl) (fun _ _ _ _ => rfl) cases

theorem CatchClause.allSpelled_eq (catches : List CatchClause) :
    CatchClause.AllSpelled catches = List.Forall₂ CatchClause.Spelled catches :=
  forall₂_of_spelled (fun _ => rfl) (fun _ _ => rfl) (fun _ _ _ _ => rfl) catches

theorem ClassDecl.allSpelled_eq (classes : List ClassDecl) :
    ClassDecl.AllSpelled classes = List.Forall₂ ClassDecl.Spelled classes :=
  forall₂_of_spelled (fun _ => rfl) (fun _ _ => rfl) (fun _ _ _ _ => rfl) classes

theorem Expr.optionSpelled_eq (e : Option Expr) :
    Expr.OptionSpelled e = Tree.IsOption Expr.Spelled e := by
  cases e <;> rfl

theorem Stmt.branchSpelled_eq (branch : Option (List Stmt)) :
    Stmt.BranchSpelled branch =
      Tree.IsOption (fun body => Tree.IsList (Stmt.AllSpelled body)) branch := by
  cases branch <;> rfl

/-! ## The written form -/

namespace Json.Tree

/-- A key that only one member has finds that member. -/
theorem filter_key_eq {members : List (Text × Tree)} (hkeys : (members.map Prod.fst).Nodup)
    {key : Text} {tree : Tree} (h : (key, tree) ∈ members) :
    members.filter (·.1 == key) = [(key, tree)] := by
  induction members with
  | nil => cases h
  | cons first rest ih =>
    rw [List.map_cons, List.nodup_cons] at hkeys
    rcases List.mem_cons.mp h with rfl | hrest
    · have hnone : rest.filter (·.1 == key) = [] := by
        rw [List.filter_eq_nil_iff]
        intro other hother hsame
        rw [beq_iff_eq] at hsame
        exact hkeys.1 (List.mem_map.mpr ⟨other, hother, hsame⟩)
      rw [List.filter_cons_of_pos (by simp), hnone]
    · have hne : first.1 ≠ key := by
        intro hsame
        exact hkeys.1 (List.mem_map.mpr ⟨(key, tree), hrest, hsame.symm⟩)
      rw [List.filter_cons_of_neg (by simpa using hne), ih hkeys.2 hrest]

/-- The object with each field once, in order, is a record with these fields. -/
theorem isRecord_ofMembers {slots : List Slot} {fields : List (String × Tree)}
    (h : List.Forall₂ (fun slot field => slot.name = field.1 ∧ slot.Spells field.2) slots fields)
    (hnames : (slots.map (·.name)).Nodup) : (Tree.ofMembers fields).IsRecord slots := by
  have hkeys : (fields.map fun field => some field.1) = (slots.map (·.name)).map some := by
    clear hnames
    induction h with
    | nil => rfl
    | cons hfield _ ih => simp only [List.map_cons, ih, hfield.1]
  have hnodup : ((fields.map fun field => (some field.1, field.2)).map Prod.fst).Nodup := by
    rw [List.map_map]
    change (fields.map fun field => some field.1).Nodup
    rw [hkeys]
    exact hnames.map fun _ _ => Option.some.inj
  refine ⟨rfl, fun slot hslot => Or.inr ?_, fun member hmember => ?_⟩
  · obtain ⟨field, hfield, hname, hspells⟩ :
        ∃ field ∈ fields, slot.name = field.1 ∧ slot.Spells field.2 := by
      clear hkeys hnodup hnames
      induction h with
      | nil => cases hslot
      | @cons first field slots fields hfirst _ ih =>
        rcases List.mem_cons.mp hslot with rfl | hslot
        · exact ⟨field, List.mem_cons_self, hfirst⟩
        · obtain ⟨other, hother, hsame⟩ := ih hslot
          exact ⟨other, List.mem_cons_of_mem _ hother, hsame⟩
    refine ⟨field.2, hspells, ?_⟩
    rw [hname]
    exact filter_key_eq hnodup (List.mem_map_of_mem hfield)
  · obtain ⟨field, hfield, rfl⟩ := List.mem_map.mp hmember
    refine ⟨rfl, fun hother => ?_⟩
    have hkey : some field.1 ∈ (slots.map (·.name)).map some := by
      rw [← hkeys]
      exact List.mem_map_of_mem hfield
    simp only [List.mem_map, exists_exists_and_eq_and] at hkey
    obtain ⟨slot, hslot, hname⟩ := hkey
    exact absurd hname.symm (hother slot hslot)

@[simp] theorem isText_ofString (s : String) : (Tree.ofString s).IsText s := rfl

@[simp] theorem isList_ofList {items : List Tree → Prop} {trees : List Tree} :
    (Tree.ofList trees).IsList items ↔ items trees := and_iff_right rfl

end Json.Tree

namespace Json.Slot

@[simp] theorem spells_text (name value : String) :
    (text name value).Spells (.ofString value) := rfl

@[simp] theorem spells_number (name : String) (value : Nat) :
    (number name value).Spells (.ofNat value) := rfl

@[simp] theorem spells_flag (name : String) (value : Bool) :
    (flag name value).Spells (.bool value) := rfl

@[simp] theorem spells_optionalText (name : String) (value : Option String) :
    (optional name Tree.IsText value).Spells (.ofText? value) := by
  cases value <;> rfl

/-- Values that are written one by one are spelled as a list. -/
theorem spells_list {α : Type} (name : String) {spells : α → Tree → Prop} {written : α → Tree}
    (h : ∀ value, spells value (written value)) (values : List α) :
    (list name spells values).Spells (.ofList (values.map written)) := by
  refine ⟨rfl, ?_⟩
  induction values with
  | nil => exact .nil
  | cons value rest ih => exact .cons (h value) ih

end Json.Slot

open Json.Tree (isRecord_ofMembers)

@[simp] theorem Span.spells_slot (span : Span) : span.slot.Spells span.toJson :=
  isRecord_ofMembers (by simp) (by simp)

theorem Param.spelled_toJson (param : Param) : param.Spelled param.toJson :=
  isRecord_ofMembers (by simp) (by simp)

theorem GuardNote.spelled_toJson (note : GuardNote) : note.Spelled note.toJson :=
  isRecord_ofMembers (by simp) (by simp)

mutual

/-- The form that an expression is written in is one of its spellings. -/
theorem Expr.spelled_toJson (e : Expr) : e.Spelled e.toJson := by
  cases e with
  | select receiver n span =>
    have hreceiver := Expr.spelled_toJson receiver
    exact isRecord_ofMembers (by simp [hreceiver]) (by simp)
  | call receiver method args span =>
    have hreceiver := Expr.optionSpelled_toJson receiver
    have hargs := Expr.allSpelled_toJson args
    exact isRecord_ofMembers (by simp [hreceiver, hargs]) (by simp)
  | new cls args span =>
    have hargs := Expr.allSpelled_toJson args
    exact isRecord_ofMembers (by simp [hargs]) (by simp)
  | assign target value op span =>
    have htarget := Expr.spelled_toJson target
    have hvalue := Expr.spelled_toJson value
    exact isRecord_ofMembers (by simp [htarget, hvalue]) (by simp)
  | unary op operand span =>
    have hoperand := Expr.spelled_toJson operand
    exact isRecord_ofMembers (by simp [hoperand]) (by simp)
  | binary op lhs rhs span =>
    have hlhs := Expr.spelled_toJson lhs
    have hrhs := Expr.spelled_toJson rhs
    exact isRecord_ofMembers (by simp [hlhs, hrhs]) (by simp)
  | conditional cond thenVal elseVal span =>
    have hcond := Expr.spelled_toJson cond
    have hthen := Expr.spelled_toJson thenVal
    have helse := Expr.spelled_toJson elseVal
    exact isRecord_ofMembers (by simp [hcond, hthen, helse]) (by simp)
  | index base i span =>
    have hbase := Expr.spelled_toJson base
    have hi := Expr.spelled_toJson i
    exact isRecord_ofMembers (by simp [hbase, hi]) (by simp)
  | cast type expr span =>
    have hexpr := Expr.spelled_toJson expr
    exact isRecord_ofMembers (by simp [hexpr]) (by simp)
  | lambda params body span =>
    have hparams := Slot.spells_list "params" Param.spelled_toJson params
    have hbody := Stmt.allSpelled_toJson body
    exact isRecord_ofMembers (by simp [hparams, hbody]) (by simp)
  | _ => exact isRecord_ofMembers (by simp) (by simp)

theorem Expr.allSpelled_toJson (es : List Expr) : Expr.AllSpelled es (Expr.listToJson es) := by
  cases es with
  | nil => rfl
  | cons e rest => exact ⟨Expr.spelled_toJson e, Expr.allSpelled_toJson rest⟩

theorem Expr.optionSpelled_toJson (e : Option Expr) :
    Expr.OptionSpelled e (Expr.optionToJson e) := by
  cases e with
  | none => rfl
  | some e => exact Expr.spelled_toJson e

/-- The form that a statement is written in is one of its spellings. -/
theorem Stmt.spelled_toJson (s : Stmt) : s.Spelled s.toJson := by
  cases s with
  | evaluate expr =>
    have hexpr := Expr.spelled_toJson expr
    exact isRecord_ofMembers (by simp [hexpr]) (by simp)
  | declare name type init span =>
    have hinit := Expr.optionSpelled_toJson init
    exact isRecord_ofMembers (by simp [hinit]) (by simp)
  | block body span =>
    have hbody := Stmt.allSpelled_toJson body
    exact isRecord_ofMembers (by simp [hbody]) (by simp)
  | ifElse cond thenBranch elseBranch span =>
    have hcond := Expr.spelled_toJson cond
    have hthen := Stmt.allSpelled_toJson thenBranch
    have helse := Stmt.branchSpelled_toJson elseBranch
    exact isRecord_ofMembers (by simp [hcond, hthen, helse]) (by simp)
  | whileLoop cond body span =>
    have hcond := Expr.spelled_toJson cond
    have hbody := Stmt.allSpelled_toJson body
    exact isRecord_ofMembers (by simp [hcond, hbody]) (by simp)
  | doWhile body cond span =>
    have hbody := Stmt.allSpelled_toJson body
    have hcond := Expr.spelled_toJson cond
    exact isRecord_ofMembers (by simp [hbody, hcond]) (by simp)
  | forLoop init cond update body span =>
    have hinit := Stmt.allSpelled_toJson init
    have hcond := Expr.optionSpelled_toJson cond
    have hupdate := Expr.allSpelled_toJson update
    have hbody := Stmt.allSpelled_toJson body
    exact isRecord_ofMembers (by simp [hinit, hcond, hupdate, hbody]) (by simp)
  | forEach var type iterable body span =>
    have hiterable := Expr.spelled_toJson iterable
    have hbody := Stmt.allSpelled_toJson body
    exact isRecord_ofMembers (by simp [hiterable, hbody]) (by simp)
  | switch subject cases span =>
    have hsubject := Expr.spelled_toJson subject
    have hcases := SwitchCase.allSpelled_toJson cases
    exact isRecord_ofMembers (by simp [hsubject, hcases]) (by simp)
  | returns value span =>
    have hvalue := Expr.optionSpelled_toJson value
    exact isRecord_ofMembers (by simp [hvalue]) (by simp)
  | throws value span =>
    have hvalue := Expr.spelled_toJson value
    exact isRecord_ofMembers (by simp [hvalue]) (by simp)
  | synchronized lock body span =>
    have hlock := Expr.spelled_toJson lock
    have hbody := Stmt.allSpelled_toJson body
    exact isRecord_ofMembers (by simp [hlock, hbody]) (by simp)
  | tryBlock body catches atEnd span =>
    have hbody := Stmt.allSpelled_toJson body
    have hcatches := CatchClause.allSpelled_toJson catches
    have hend := Stmt.branchSpelled_toJson atEnd
    exact isRecord_ofMembers (by simp [hbody, hcatches, hend]) (by simp)
  | _ => exact isRecord_ofMembers (by simp) (by simp)

theorem Stmt.allSpelled_toJson (stmts : List Stmt) :
    Stmt.AllSpelled stmts (Stmt.listToJson stmts) := by
  cases stmts with
  | nil => rfl
  | cons s rest => exact ⟨Stmt.spelled_toJson s, Stmt.allSpelled_toJson rest⟩

theorem Stmt.branchSpelled_toJson (branch : Option (List Stmt)) :
    Stmt.BranchSpelled branch (Stmt.branchToJson branch) := by
  cases branch with
  | none => rfl
  | some body => exact ⟨rfl, Stmt.allSpelled_toJson body⟩

theorem SwitchCase.allSpelled_toJson (cases : List SwitchCase) :
    SwitchCase.AllSpelled cases (Stmt.casesToJson cases) := by
  cases cases with
  | nil => rfl
  | cons c rest =>
    cases c with
    | mk labels body =>
      have hlabels := Expr.allSpelled_toJson labels
      have hbody := Stmt.allSpelled_toJson body
      exact ⟨isRecord_ofMembers (by simp [hlabels, hbody]) (by simp),
        SwitchCase.allSpelled_toJson rest⟩

theorem CatchClause.allSpelled_toJson (catches : List CatchClause) :
    CatchClause.AllSpelled catches (Stmt.catchesToJson catches) := by
  cases catches with
  | nil => rfl
  | cons c rest =>
    cases c with
    | mk param type body =>
      have hbody := Stmt.allSpelled_toJson body
      exact ⟨isRecord_ofMembers (by simp [hbody]) (by simp), CatchClause.allSpelled_toJson rest⟩

end

theorem Slot.spells_guard (note : Option GuardNote) :
    (Slot.optional "guarded_by" GuardNote.Spelled note).Spells (GuardNote.optionToJson note) := by
  cases note with
  | none => rfl
  | some note => exact note.spelled_toJson

theorem Slot.spells_body (body : List Stmt) :
    (Slot.list "body" Stmt.Spelled body).Spells (.ofList (Stmt.listToJson body)) := by
  have hbody := Stmt.allSpelled_toJson body
  rw [Stmt.allSpelled_eq] at hbody
  exact ⟨rfl, hbody⟩

theorem FieldDecl.spelled_toJson (field : FieldDecl) : field.Spelled field.toJson := by
  have hguard := Slot.spells_guard field.guardedBy
  have hinitializer := Expr.optionSpelled_toJson field.initializer
  rw [Expr.optionSpelled_eq] at hinitializer
  have hslot : (Slot.optional "initializer" Expr.Spelled field.initializer).Spells
      (Expr.optionToJson field.initializer) := hinitializer
  exact isRecord_ofMembers (by simp [hguard, hslot]) (by simp)

theorem MethodDecl.spelled_toJson (method : MethodDecl) : method.Spelled method.toJson := by
  have hparams := Slot.spells_list "params" Param.spelled_toJson method.params
  have hguard := Slot.spells_guard method.guardedBy
  have hbody := Slot.spells_body method.body
  exact isRecord_ofMembers (by simp [hparams, hguard, hbody]) (by simp)

theorem Initializer.spelled_toJson (initializer : Initializer) :
    initializer.Spelled initializer.toJson := by
  have hbody := Slot.spells_body initializer.body
  exact isRecord_ofMembers (by simp [hbody]) (by simp)

mutual

theorem ClassDecl.spelled_toJson (cls : ClassDecl) : cls.Spelled cls.toJson := by
  cases cls with
  | mk name supertypes isStatic fields methods initializers nested span =>
    have hsupertypes := Slot.spells_list "supertypes" Tree.isText_ofString supertypes
    have hfields := Slot.spells_list "fields" FieldDecl.spelled_toJson fields
    have hmethods := Slot.spells_list "methods" MethodDecl.spelled_toJson methods
    have hinitializers :=
      Slot.spells_list "initializers" Initializer.spelled_toJson initializers
    have hnested := ClassDecl.allSpelled_toJson nested
    exact isRecord_ofMembers
      (by simp [hsupertypes, hfields, hmethods, hinitializers, hnested]) (by simp)

theorem ClassDecl.allSpelled_toJson (classes : List ClassDecl) :
    ClassDecl.AllSpelled classes (ClassDecl.listToJson classes) := by
  cases classes with
  | nil => rfl
  | cons cls rest => exact ⟨ClassDecl.spelled_toJson cls, ClassDecl.allSpelled_toJson rest⟩

end

/-- The form that a unit is written in is one of its spellings. -/
theorem CompilationUnit.spelled_toJson (unit : CompilationUnit) : unit.Spelled unit.toJson := by
  have hclasses := ClassDecl.allSpelled_toJson unit.classes
  rw [ClassDecl.allSpelled_eq] at hclasses
  have hslot : (Slot.list "classes" ClassDecl.Spelled unit.classes).Spells
      (.ofList (ClassDecl.listToJson unit.classes)) := ⟨rfl, hclasses⟩
  exact isRecord_ofMembers (by simp [hslot]) (by simp)

end LockDiscipline
