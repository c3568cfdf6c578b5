-- Every spelling of a unit is read as the unit, however deep its nodes stand inside one another as
-- long as the containers do not exceed the bound. The decoders of nodes are made for a bound, and
-- each node takes one container of it, so the induction on the nodes goes with the bound.
import LockDiscipline.Json.Writer
import LockDiscipline.Program.FromJson
import LockDiscipline.Proofs.PlainSpellings
import LockDiscipline.Proofs.WrittenTrees

namespace LockDiscipline

open Json

/-! ## Nodes -/

theorem Json.Tree.IsRecord.pos_of_fits {slots : List Slot} {tree : Tree} {room : Nat}
    (h : tree.IsRecord slots) (hfits : tree.Fits room) : 0 < room := by
  cases tree with
  | array items closed =>
    obtain ⟨-, inner, rfl, -⟩ := Tree.fits_array hfits
    exact Nat.succ_pos inner
  | object members closed =>
    obtain ⟨-, inner, rfl, -⟩ := Tree.fits_object hfits
    exact Nat.succ_pos inner
  | _ => exact h.elim

theorem Span.reads (span : Span) (limit : Nat) :
    Span.field.Reads limit [span.slot] span := by
  have hfields : Span.fields.Reads limit
      [.number "start" span.start, .number "end" span.stop, .number "line" span.line,
        .number "col" span.column] span :=
    (((Fields.Reads.map Span.mk (.required (.size span.start))).seq
      (.required (.size span.stop))).seq (.required (.size span.line))).seq
      (.required (.size span.column))
  exact .defaulted ((Decoder.Reads.record hfields "Span").mono (Nat.le_succ limit))

namespace NodeDecoders

variable {limit : Nat} {kind : String} {slots : List Slot}

/-- An expression is read where all its kinds of nodes are, one container further in. -/
theorem reads_expr {e : Expr}
    (h : ∀ inner, ∃ variant, (within inner).exprVariants.find? (·.tag == kind) = some variant ∧
      variant.fields.Reads inner slots e)
    (hnames : "kind" ∉ slots.map (·.name)) :
    (within limit).expr.Reads limit (Tree.IsNode kind slots) e := by
  cases limit with
  | zero =>
    intro place tree hroom hfits hnode
    have hpos := Tree.IsRecord.pos_of_fits hnode hfits
    omega
  | succ inner =>
    obtain ⟨variant, hkind, hfields⟩ := h inner
    exact Decoder.Reads.tagged hkind hfields hnames "Expr"

theorem reads_stmt {s : Stmt}
    (h : ∀ inner, ∃ variant, (within inner).stmtVariants.find? (·.tag == kind) = some variant ∧
      variant.fields.Reads inner slots s)
    (hnames : "kind" ∉ slots.map (·.name)) :
    (within limit).stmt.Reads limit (Tree.IsNode kind slots) s := by
  cases limit with
  | zero =>
    intro place tree hroom hfits hnode
    have hpos := Tree.IsRecord.pos_of_fits hnode hfits
    omega
  | succ inner =>
    obtain ⟨variant, hkind, hfields⟩ := h inner
    exact Decoder.Reads.tagged hkind hfields hnames "Stmt"

end NodeDecoders

theorem Expr.not_spelled_null (e : Expr) : ¬ e.Spelled .null := by
  cases e <;> exact id

theorem Param.reads (param : Param) (limit : Nat) :
    Param.decoder.Reads limit param.Spelled param :=
  (Decoder.Reads.record ((Fields.Reads.map Param.mk (.required (.string param.name))).seq
    (.required (.string param.type))) "Param").mono (Nat.le_succ limit)

namespace NodeDecoders

variable {limit : Nat}

theorem reads_exprs {es : List Expr}
    (h : ∀ e ∈ es, (within limit).expr.Reads limit e.Spelled e) :
    (Decoder.list (within limit).expr).Reads limit (Tree.IsList (Expr.AllSpelled es)) es := by
  rw [Expr.allSpelled_eq]
  exact .list h

theorem reads_block {stmts : List Stmt}
    (h : ∀ s ∈ stmts, (within limit).stmt.Reads limit s.Spelled s) :
    (within limit).block.Reads limit (Tree.IsList (Stmt.AllSpelled stmts)) stmts := by
  rw [Stmt.allSpelled_eq]
  exact .list h

end NodeDecoders

open NodeDecoders in
mutual

/-- An expression is read from all its spellings by the decoders with room for it. -/
theorem Expr.reads (e : Expr) (limit : Nat) : (within limit).expr.Reads limit e.Spelled e := by
  cases e with
  | this span =>
    exact reads_expr (fun inner => ⟨_, rfl, .map Expr.this (span.reads inner)⟩)
      (by simp)
  | qualifiedThis cls span =>
    refine reads_expr (fun inner => ⟨_, rfl, ?_⟩) (by simp)
    exact (Fields.Reads.map Expr.qualifiedThis (.required (.string cls))).seq (span.reads inner)
  | name n span =>
    refine reads_expr (fun inner => ⟨_, rfl, ?_⟩) (by simp)
    exact (Fields.Reads.map Expr.name (.required (.string n))).seq (span.reads inner)
  | select receiver n span =>
    refine reads_expr (fun inner => ⟨_, rfl, ?_⟩) (by simp)
    have hreceiver := Expr.reads receiver inner
    exact ((Fields.Reads.map Expr.select (.required hreceiver)).seq (.required (.string n))).seq
      (span.reads inner)
  | classLit cls span =>
    refine reads_expr (fun inner => ⟨_, rfl, ?_⟩) (by simp)
    exact (Fields.Reads.map Expr.classLit (.required (.string cls))).seq (span.reads inner)
  | call receiver method args span =>
    refine reads_expr (fun inner => ⟨_, rfl, ?_⟩) (by simp)
    have hreceiver := Expr.option_reads receiver inner
    have hargs := reads_exprs (Expr.each_reads args inner)
    exact (((Fields.Reads.map Expr.call (.defaulted hreceiver)).seq
      (.required (.string method))).seq (.defaulted hargs)).seq (span.reads inner)
  | new cls args span =>
    refine reads_expr (fun inner => ⟨_, rfl, ?_⟩) (by simp)
    have hargs := reads_exprs (Expr.each_reads args inner)
    exact ((Fields.Reads.map Expr.new (.required (.string cls))).seq (.defaulted hargs)).seq
      (span.reads inner)
  | assign target value op span =>
    refine reads_expr (fun inner => ⟨_, rfl, ?_⟩) (by simp)
    have htarget := Expr.reads target inner
    have hvalue := Expr.reads value inner
    exact (((Fields.Reads.map Expr.assign (.required htarget)).seq (.required hvalue)).seq
      (.defaulted (.text? op))).seq (span.reads inner)
  | unary op operand span =>
    refine reads_expr (fun inner => ⟨_, rfl, ?_⟩) (by simp)
    have hoperand := Expr.reads operand inner
    exact ((Fields.Reads.map Expr.unary (.required (.string op))).seq (.required hoperand)).seq
      (span.reads inner)
  | binary op lhs rhs span =>
    refine reads_expr (fun inner => ⟨_, rfl, ?_⟩) (by simp)
    have hlhs := Expr.reads lhs inner
    have hrhs := Expr.reads rhs inner
    exact (((Fields.Reads.map Expr.binary (.required (.string op))).seq (.required hlhs)).seq
      (.required hrhs)).seq (span.reads inner)
  | conditional cond thenVal elseVal span =>
    refine reads_expr (fun inner => ⟨_, rfl, ?_⟩) (by simp)
    have hcond := Expr.reads cond inner
    have hthen := Expr.reads thenVal inner
    have helse := Expr.reads elseVal inner
    exact (((Fields.Reads.map Expr.conditional (.required hcond)).seq (.required hthen)).seq
      (.required helse)).seq (span.reads inner)
  | index base i span =>
    refine reads_expr (fun inner => ⟨_, rfl, ?_⟩) (by simp)
    have hbase := Expr.reads base inner
    have hi := Expr.reads i inner
    exact ((Fields.Reads.map Expr.index (.required hbase)).seq (.required hi)).seq
      (span.reads inner)
  | cast type expr span =>
    refine reads_expr (fun inner => ⟨_, rfl, ?_⟩) (by simp)
    have hexpr := Expr.reads expr inner
    exact ((Fields.Reads.map Expr.cast (.required (.string type))).seq (.required hexpr)).seq
      (span.reads inner)
  | lambda params body span =>
    refine reads_expr (fun inner => ⟨_, rfl, ?_⟩) (by simp)
    have hparams := Decoder.Reads.list fun param (_ : param ∈ params) => param.reads inner
    have hbody := reads_block (Stmt.each_reads body inner)
    exact ((Fields.Reads.map Expr.lambda (.defaulted hparams)).seq (.required hbody)).seq
      (span.reads inner)
  | literal value span =>
    refine reads_expr (fun inner => ⟨_, rfl, ?_⟩) (by simp)
    exact (Fields.Reads.map Expr.literal (.required (.string value))).seq (span.reads inner)

theorem Expr.each_reads (es : List Expr) (limit : Nat) :
    ∀ e ∈ es, (within limit).expr.Reads limit e.Spelled e := by
  cases es with
  | nil => exact nofun
  | cons e rest =>
    rw [List.forall_mem_cons]
    exact ⟨Expr.reads e limit, Expr.each_reads rest limit⟩

theorem Expr.option_reads (e : Option Expr) (limit : Nat) :
    (Decoder.nullable (within limit).expr).Reads limit (Expr.OptionSpelled e) e := by
  rw [Expr.optionSpelled_eq]
  cases e with
  | none => exact .option nofun Expr.not_spelled_null
  | some e =>
    have he := Expr.reads e limit
    exact .option (by simpa using he) Expr.not_spelled_null

/-- A statement is read from all its spellings by the decoders with room for it. -/
theorem Stmt.reads (s : Stmt) (limit : Nat) : (within limit).stmt.Reads limit s.Spelled s := by
  cases s with
  | evaluate expr =>
    refine reads_stmt (fun inner => ⟨_, rfl, ?_⟩) (by simp)
    exact .map Stmt.evaluate (.required (Expr.reads expr inner))
  | declare name type init span =>
    refine reads_stmt (fun inner => ⟨_, rfl, ?_⟩) (by simp)
    have hinit := Expr.option_reads init inner
    exact (((Fields.Reads.map Stmt.declare (.required (.string name))).seq
      (.required (.string type))).seq (.defaulted hinit)).seq (span.reads inner)
  | block body span =>
    refine reads_stmt (fun inner => ⟨_, rfl, ?_⟩) (by simp)
    have hbody := reads_block (Stmt.each_reads body inner)
    exact (Fields.Reads.map Stmt.block (.required hbody)).seq (span.reads inner)
  | ifElse cond thenBranch elseBranch span =>
    refine reads_stmt (fun inner => ⟨_, rfl, ?_⟩) (by simp)
    have hcond := Expr.reads cond inner
    have hthen := reads_block (Stmt.each_reads thenBranch inner)
    have helse := Stmt.branch_reads elseBranch inner
    exact (((Fields.Reads.map Stmt.ifElse (.required hcond)).seq (.required hthen)).seq
      (.defaulted helse)).seq (span.reads inner)
  | whileLoop cond body span =>
    refine reads_stmt (fun inner => ⟨_, rfl, ?_⟩) (by simp)
    have hcond := Expr.reads cond inner
    have hbody := reads_block (Stmt.each_reads body inner)
    exact ((Fields.Reads.map Stmt.whileLoop (.required hcond)).seq (.required hbody)).seq
      (span.reads inner)
  | doWhile body cond span =>
    refine reads_stmt (fun inner => ⟨_, rfl, ?_⟩) (by simp)
    have hbody := reads_block (Stmt.each_reads body inner)
    have hcond := Expr.reads cond inner
    exact ((Fields.Reads.map Stmt.doWhile (.required hbody)).seq (.required hcond)).seq
      (span.reads inner)
  | forLoop init cond update body span =>
    refine reads_stmt (fun inner => ⟨_, rfl, ?_⟩) (by simp)
    have hinit := reads_block (Stmt.each_reads init inner)
    have hcond := Expr.option_reads cond inner
    have hupdate := reads_exprs (Expr.each_reads update inner)
    have hbody := reads_block (Stmt.each_reads body inner)
    exact ((((Fields.Reads.map Stmt.forLoop (.defaulted hinit)).seq (.defaulted hcond)).seq
      (.defaulted hupdate)).seq (.required hbody)).seq (span.reads inner)
  | forEach var type iterable body span =>
    refine reads_stmt (fun inner => ⟨_, rfl, ?_⟩) (by simp)
    have hiterable := Expr.reads iterable inner
    have hbody := reads_block (Stmt.each_reads body inner)
    exact ((((Fields.Reads.map Stmt.forEach (.required (.string var))).seq
      (.required (.string type))).seq (.required hiterable)).seq (.required hbody)).seq
      (span.reads inner)
  | switch subject cases span =>
    refine reads_stmt (fun inner => ⟨_, rfl, ?_⟩) (by simp)
    have hsubject := Expr.reads subject inner
    have hcases := Decoder.Reads.list (SwitchCase.each_reads cases inner)
    rw [SwitchCase.allSpelled_eq]
    exact ((Fields.Reads.map Stmt.switch (.required hsubject)).seq (.required hcases)).seq
      (span.reads inner)
  | returns value span =>
    refine reads_stmt (fun inner => ⟨_, rfl, ?_⟩) (by simp)
    have hvalue := Expr.option_reads value inner
    exact (Fields.Reads.map Stmt.returns (.defaulted hvalue)).seq (span.reads inner)
  | throws value span =>
    refine reads_stmt (fun inner => ⟨_, rfl, ?_⟩) (by simp)
    have hvalue := Expr.reads value inner
    exact (Fields.Reads.map Stmt.throws (.required hvalue)).seq (span.reads inner)
  | breaks span =>
    exact reads_stmt (fun inner => ⟨_, rfl, .map Stmt.breaks (span.reads inner)⟩)
      (by simp)
  | continues span =>
    exact reads_stmt (fun inner => ⟨_, rfl, .map Stmt.continues (span.reads inner)⟩)
      (by simp)
  | synchronized lock body span =>
    refine reads_stmt (fun inner => ⟨_, rfl, ?_⟩) (by simp)
    have hlock := Expr.reads lock inner
    have hbody := reads_block (Stmt.each_reads body inner)
    exact ((Fields.Reads.map Stmt.synchronized (.required hlock)).seq (.required hbody)).seq
      (span.reads inner)
  | tryBlock body catches atEnd span =>
    refine reads_stmt (fun inner => ⟨_, rfl, ?_⟩) (by simp)
    have hbody := reads_block (Stmt.each_reads body inner)
    have hcatches := Decoder.Reads.list (CatchClause.each_reads catches inner)
    have hend := Stmt.branch_reads atEnd inner
    rw [CatchClause.allSpelled_eq]
    exact (((Fields.Reads.map Stmt.tryBlock (.required hbody)).seq (.defaulted hcatches)).seq
      (.defaulted hend)).seq (span.reads inner)

theorem Stmt.each_reads (stmts : List Stmt) (limit : Nat) :
    ∀ s ∈ stmts, (within limit).stmt.Reads limit s.Spelled s := by
  cases stmts with
  | nil => exact nofun
  | cons s rest =>
    rw [List.forall_mem_cons]
    exact ⟨Stmt.reads s limit, Stmt.each_reads rest limit⟩

theorem Stmt.branch_reads (branch : Option (List Stmt)) (limit : Nat) :
    (Decoder.nullable (within limit).block).Reads limit (Stmt.BranchSpelled branch) branch := by
  rw [Stmt.branchSpelled_eq]
  cases branch with
  | none => exact .option nofun fun _ => id
  | some body =>
    have hbody := reads_block (Stmt.each_reads body limit)
    exact .option (by simpa using hbody) fun _ => id

theorem SwitchCase.reads (c : SwitchCase) (limit : Nat) :
    (within limit).switchCase.Reads limit c.Spelled c := by
  cases c with
  | mk labels body =>
    have hlabels := reads_exprs (Expr.each_reads labels limit)
    have hbody := reads_block (Stmt.each_reads body limit)
    exact (Decoder.Reads.record ((Fields.Reads.map SwitchCase.mk (.defaulted hlabels)).seq
      (.required hbody)) "SwitchCase").mono (Nat.le_succ limit)

theorem SwitchCase.each_reads (cases : List SwitchCase) (limit : Nat) :
    ∀ c ∈ cases, (within limit).switchCase.Reads limit c.Spelled c := by
  cases cases with
  | nil => exact nofun
  | cons c rest =>
    rw [List.forall_mem_cons]
    exact ⟨SwitchCase.reads c limit, SwitchCase.each_reads rest limit⟩

theorem CatchClause.reads (c : CatchClause) (limit : Nat) :
    (within limit).catchClause.Reads limit c.Spelled c := by
  cases c with
  | mk param type body =>
    have hbody := reads_block (Stmt.each_reads body limit)
    exact (Decoder.Reads.record (((Fields.Reads.map CatchClause.mk
      (.required (.string param))).seq (.required (.string type))).seq (.required hbody))
      "CatchClause").mono (Nat.le_succ limit)

theorem CatchClause.each_reads (catches : List CatchClause) (limit : Nat) :
    ∀ c ∈ catches, (within limit).catchClause.Reads limit c.Spelled c := by
  cases catches with
  | nil => exact nofun
  | cons c rest =>
    rw [List.forall_mem_cons]
    exact ⟨CatchClause.reads c limit, CatchClause.each_reads rest limit⟩

end

/-! ## Declarations -/

theorem GuardNote.reads (note : GuardNote) (limit : Nat) :
    GuardNote.decoder.Reads limit note.Spelled note :=
  (Decoder.Reads.record ((Fields.Reads.map GuardNote.mk (.required (.string note.text))).seq
    (note.span.reads limit)) "GuardAnnotation").mono (Nat.le_succ limit)

theorem GuardNote.field_reads (note : Option GuardNote) (limit : Nat) :
    guardField.Reads limit [.optional "guarded_by" GuardNote.Spelled note] note :=
  .defaulted (.option (fun note _ => note.reads limit) fun _ => id)

theorem staticField_reads (isStatic : Bool) (limit : Nat) :
    staticField.Reads limit [.flag "is_static" isStatic] isStatic :=
  .defaulted (.flag isStatic)

theorem bodyField_reads (body : List Stmt) {limit : Nat} (h : limit ≤ greatestDepth + 1) :
    bodyField.Reads limit [.list "body" Stmt.Spelled body] body :=
  .defaulted (.list fun s _ => (s.reads (greatestDepth + 1)).mono h)

theorem FieldDecl.reads (field : FieldDecl) {limit : Nat} (h : limit ≤ greatestDepth + 1) :
    FieldDecl.decoder.Reads limit field.Spelled field := by
  have hinitializer : (Decoder.nullable Expr.decoder).Reads limit
      (Tree.IsOption Expr.Spelled field.initializer) field.initializer :=
    .option (fun e _ => (e.reads (greatestDepth + 1)).mono h) Expr.not_spelled_null
  exact (Decoder.Reads.record ((((((Fields.Reads.map FieldDecl.mk
    (.required (.string field.name))).seq (.required (.string field.type))).seq
    (staticField_reads field.isStatic limit)).seq
    (GuardNote.field_reads field.guardedBy limit)).seq (.defaulted hinitializer)).seq
    (field.span.reads limit)) "FieldDecl").mono (Nat.le_succ limit)

theorem MethodDecl.reads (method : MethodDecl) {limit : Nat} (h : limit ≤ greatestDepth + 1) :
    MethodDecl.decoder.Reads limit method.Spelled method := by
  have hkind : (Decoder.word [("method", MethodKind.method), ("constructor", .constructor)]).Reads
      limit (Tree.IsText method.kind.word) method.kind := by
    apply Decoder.Reads.word
    cases method.kind <;> rfl
  have hparams := Decoder.Reads.list fun param (_ : param ∈ method.params) => param.reads limit
  exact (Decoder.Reads.record ((((((((Fields.Reads.map MethodDecl.mk
    (.required (.string method.name))).seq (.defaulted hkind)).seq
    (staticField_reads method.isStatic limit)).seq
    (.defaulted (.flag method.isSynchronized))).seq (.defaulted hparams)).seq
    (GuardNote.field_reads method.guardedBy limit)).seq (bodyField_reads method.body h)).seq
    (method.span.reads limit)) "MethodDecl").mono (Nat.le_succ limit)

theorem Initializer.reads (initializer : Initializer) {limit : Nat}
    (h : limit ≤ greatestDepth + 1) :
    Initializer.decoder.Reads limit initializer.Spelled initializer :=
  (Decoder.Reads.record (((Fields.Reads.map Initializer.mk
    (staticField_reads initializer.isStatic limit)).seq
    (bodyField_reads initializer.body h)).seq (initializer.span.reads limit))
    "Initializer").mono (Nat.le_succ limit)

mutual

/-- A class is read from all its spellings by the decoder with room for it. -/
theorem ClassDecl.reads (cls : ClassDecl) {limit : Nat} (h : limit ≤ greatestDepth + 1) :
    (ClassDecl.decoderWithin limit).Reads limit cls.Spelled cls := by
  cases limit with
  | zero =>
    intro place tree hroom hfits hcls
    cases cls
    have hpos := Tree.IsRecord.pos_of_fits hcls hfits
    omega
  | succ inner =>
    cases cls with
    | mk name supertypes isStatic fields methods initializers nested span =>
      have hinner : inner ≤ greatestDepth + 1 := Nat.le_of_succ_le h
      have hsupertypes : (Decoder.list Decoder.string).Reads inner
          (Tree.IsList (List.Forall₂ Tree.IsText supertypes)) supertypes :=
        .list fun name _ => .string name
      have hfields := Decoder.Reads.list fun field (_ : field ∈ fields) => field.reads hinner
      have hmethods := Decoder.Reads.list fun method (_ : method ∈ methods) => method.reads hinner
      have hinitializers := Decoder.Reads.list
        fun initializer (_ : initializer ∈ initializers) => initializer.reads hinner
      have hnested := Decoder.Reads.list (ClassDecl.each_reads nested hinner)
      unfold ClassDecl.Spelled
      rw [ClassDecl.allSpelled_eq]
      exact Decoder.Reads.record ((((((((Fields.Reads.map ClassDecl.mk
        (.required (.string name))).seq (.defaulted hsupertypes)).seq
        (staticField_reads isStatic inner)).seq (.defaulted hfields)).seq
        (.defaulted hmethods)).seq (.defaulted hinitializers)).seq (.defaulted hnested)).seq
        (span.reads inner)) "ClassDecl"

theorem ClassDecl.each_reads (classes : List ClassDecl) {limit : Nat}
    (h : limit ≤ greatestDepth + 1) :
    ∀ cls ∈ classes, (ClassDecl.decoderWithin limit).Reads limit cls.Spelled cls := by
  cases classes with
  | nil => exact nofun
  | cons cls rest =>
    rw [List.forall_mem_cons]
    exact ⟨ClassDecl.reads cls h, ClassDecl.each_reads rest h⟩

end

/-- A unit is read from all its spellings. -/
theorem CompilationUnit.reads (unit : CompilationUnit) :
    CompilationUnit.decoder.Reads greatestDepth unit.Spelled unit := by
  have hclasses : (Decoder.list ClassDecl.decoder).Reads greatestDepth
      (Tree.IsList (List.Forall₂ ClassDecl.Spelled unit.classes)) unit.classes :=
    .list fun cls _ => (cls.reads (Nat.le_refl _)).mono (Nat.le_succ greatestDepth)
  exact (Decoder.Reads.record (((Fields.Reads.map CompilationUnit.mk
    (.defaulted (.text? unit.path))).seq (.defaulted (.text? unit.source))).seq
    (.defaulted hclasses)) "CompilationUnit").mono (Nat.le_succ greatestDepth)

/-! ## Texts -/

/-- The form that a unit is written in is one of its spellings, and every text of a spelling that
does not nest too deep is read as the unit. The writer gives such a text for each spelling. -/
theorem CompilationUnit.every_spelling_of_a_unit_is_read_as_the_unit (unit : CompilationUnit)
    (hsized : unit.IsSized) :
    unit.Spelled unit.toJson ∧
      ∀ tree, unit.Spelled tree → tree.depth ≤ greatestDepth →
        tree.WrittenAs tree.compact ∧
          ∀ text, tree.WrittenAs text → CompilationUnit.ofJson text = .ok unit := by
  refine ⟨unit.spelled_toJson, fun tree hspelled hdepth => ?_⟩
  have hplain : tree.isPlain = true := CompilationUnit.plainOnly hsized tree hspelled
  refine ⟨writtenAs_compact hplain, fun text hwritten => ?_⟩
  have hread : CompilationUnit.decoder.run tree = .ok unit :=
    unit.reads ⟨greatestDepth, false⟩ tree (Nat.le_refl _) ⟨hplain, hdepth⟩ hspelled
  unfold CompilationUnit.ofJson Decoder.runDocument
  rw [read_of_writtenAs hplain hwritten]
  dsimp only
  rw [hread]
  rfl

namespace ShortUnit

/-- A class with one field, which has a value. -/
def unit : CompilationUnit :=
  ⟨none, none,
    [.mk "A" [] false [⟨"x", "A", false, none, some (.this .unknown), .unknown⟩] [] [] []
      .unknown]⟩

/-- The path comes last and is null, the class has its name behind its fields and a version, and the
field and its value are arrays. All that may be left out is. -/
def spelling : Tree :=
  .ofMembers
    [ ("classes",
        .ofList
          [ .ofMembers
              [ ("version", .ofNat 7),
                ("fields",
                  .ofList
                    [ .ofList
                        [ .ofString "x", .ofString "A", .bool false, .null,
                          .ofList [.ofString "this"] ] ]),
                ("name", .ofString "A") ] ]),
      ("path", .null) ]

theorem a_short_spelling_is_read_as_the_unit :
    unit.IsSized ∧ unit.Spelled spelling ∧ spelling.depth = 6 ∧
      CompilationUnit.ofJson ("\x7b\"classes\":[\x7b\"version\":7," ++
        "\"fields\":[[\"x\",\"A\",false,null,[\"this\"]]],\"name\":\"A\"\x7d]," ++
        "\"path\":null\x7d") = .ok unit := by
  have hsized : unit.IsSized := by
    simp [unit, CompilationUnit.IsSized, ClassDecl.IsSized, ClassDecl.AllSized, FieldDecl.IsSized,
      Expr.IsSized, Span.IsSized, Span.unknown]
  have hvalue : (Expr.this .unknown).Spelled (.ofList [.ofString "this"]) :=
    ⟨rfl, rfl, rfl, rfl⟩
  have hfield : (FieldDecl.mk "x" "A" false none (some (.this .unknown)) .unknown).Spelled
      (.ofList [.ofString "x", .ofString "A", .bool false, .null, .ofList [.ofString "this"]]) :=
    ⟨rfl, rfl, rfl, rfl, rfl, hvalue, rfl, rfl⟩
  have hspelled : unit.Spelled spelling := by
    simp [unit, spelling, CompilationUnit.Spelled, ClassDecl.Spelled, Tree.IsRecord,
      Tree.ofMembers, Slot.InMembers, Slot.OthersPlain, Slot.text, Slot.flag, Slot.list,
      Slot.optional, Span.slot, Tree.IsOption, hfield, Tree.ofNat, Tree.isPlain]
  obtain ⟨-, hread⟩ := unit.every_spelling_of_a_unit_is_read_as_the_unit hsized
  obtain ⟨hwritten, hread⟩ := hread spelling hspelled (by decide)
  exact ⟨hsized, hspelled, by decide, hread _ hwritten⟩

end ShortUnit

end LockDiscipline
