-- A report as a JSON tree says all that the report does: each part of it is found under its key,
-- and from what is found there the report is put together again. So reports that are written as a
-- JSON text can be read back from it.
import LockDiscipline.Check.ToJson
import LockDiscipline.Proofs.IndentedTrees

namespace LockDiscipline

/-! ## Reading values -/

namespace Json.Tree

def text? : Tree → Option String
  | .string value => value
  | _ => none

def size? : Tree → Option Nat
  | .number (.natural n) => some n
  | _ => none

/-- Reads a value or null. -/
def orNull? {α : Type} (value? : Tree → Option α) : Tree → Option (Option α)
  | .null => some none
  | tree => (value? tree).map some

/-- Reads the items of an array. -/
def each? {α : Type} (item? : Tree → Option α) : Tree → Option (List α)
  | .array items true => items.mapM item?
  | _ => none

/-- Reads the value under a key of an object. -/
def at? {α : Type} (tree : Tree) (key : String) (value? : Tree → Option α) : Option α :=
  (tree.get? key).bind value?

@[simp] theorem text?_ofString (s : String) : (ofString s).text? = some s := rfl

@[simp] theorem size?_ofNat (n : Nat) : (ofNat n).size? = some n := rfl

@[simp] theorem orNull?_ofText? (text : Option String) :
    (ofText? text).orNull? text? = some text := by
  cases text <;> rfl

@[simp] theorem orNull?_ofNat? (n : Option Nat) : (ofNat? n).orNull? size? = some n := by
  cases n <;> rfl

/-- If every item can be read back, so can the array. -/
theorem each?_ofList {α : Type} {item? : Tree → Option α} {tree : α → Tree}
    (h : ∀ item, item? (tree item) = some item) (items : List α) :
    (ofList (items.map tree)).each? item? = some items := by
  change (items.map tree).mapM item? = some items
  rw [List.mapM_map]
  induction items with
  | nil => rfl
  | cons item rest ih =>
    rw [List.mapM_cons, Function.comp_apply, h, ih]
    rfl

theorem get?_ofMembers (key : String) (members : List (String × Tree)) :
    (ofMembers members).get? key = members.lookup key := by
  unfold ofMembers get?
  dsimp only
  induction members with
  | nil => rfl
  | cons member rest ih =>
    obtain ⟨other, tree⟩ := member
    have hkey : ((some key : Text) == some other) = (key == other) := rfl
    rw [List.map_cons, List.lookup_cons, List.lookup_cons, hkey]
    cases key == other with
    | true => rfl
    | false => exact ih

end Json.Tree

open Json (Tree)

/-! ## Reading reports -/

def Severity.ofText? : String → Option Severity
  | "error" => some .error
  | _ => none

/-- The diagnostic that an object tells. -/
def Diagnostic.ofJson? (tree : Tree) : Option Diagnostic := do
  let severity ← tree.at? "severity" Tree.text?
  return {
    severity := ← Severity.ofText? severity
    code := ← tree.at? "code" (Tree.orNull? Tree.text?)
    message := ← tree.at? "message" Tree.text?
    file := ← tree.at? "file" (Tree.orNull? Tree.text?)
    line := ← tree.at? "line" (Tree.orNull? Tree.size?)
    column := ← tree.at? "col" (Tree.orNull? Tree.size?)
    sourceLine := ← tree.at? "source_line" (Tree.orNull? Tree.text?)
    underline := ← tree.at? "underline" (Tree.orNull? Tree.text?)
    suggestions := ← tree.at? "suggestions" (Tree.each? Tree.text?) }

/-- The report that an object tells. -/
def Report.ofJson? (tree : Tree) : Option Report := do
  return {
    path := ← tree.at? "path" (Tree.orNull? Tree.text?)
    diagnostics := ← tree.at? "diagnostics" (Tree.each? Diagnostic.ofJson?)
    membersAnalyzed := ← tree.at? "members_analyzed" Tree.size?
    membersExempt := ← tree.at? "members_exempt" Tree.size?
    accesses := ← tree.at? "accesses" Tree.size?
    rejectedGuards := ← tree.at? "rejected_guards" Tree.size? }

/-- The reports that an array tells. -/
def Report.listOfJson? : Tree → Option (List Report) := Tree.each? Report.ofJson?

theorem Diagnostic.ofJson?_toJson (diagnostic : Diagnostic) :
    Diagnostic.ofJson? diagnostic.toJson = some diagnostic := by
  have hsuggestions := Tree.each?_ofList Tree.text?_ofString diagnostic.suggestions
  obtain ⟨⟨⟩, _⟩ := diagnostic
  simp [ofJson?, toJson, Tree.at?, Tree.get?_ofMembers, List.lookup_cons, hsuggestions,
    Severity.text, Severity.ofText?]

theorem Report.ofJson?_toJson (report : Report) : Report.ofJson? report.toJson = some report := by
  have hdiagnostics := Tree.each?_ofList Diagnostic.ofJson?_toJson report.diagnostics
  simp [ofJson?, toJson, jsonMembers, Tree.at?, Tree.get?_ofMembers, List.lookup_cons, hdiagnostics]

theorem Report.listOfJson?_toJson (reports : List Report) :
    listOfJson? (.ofList (reports.map (·.toJson))) = some reports :=
  Tree.each?_ofList ofJson?_toJson reports

/-! ## Reports as texts -/

/-- The place of the diagnostic is at numbers below `2 ^ 64`. -/
def Diagnostic.IsSized (diagnostic : Diagnostic) : Prop :=
  (∀ line ∈ diagnostic.line, line < 2 ^ 64) ∧ ∀ column ∈ diagnostic.column, column < 2 ^ 64

/-- All numbers in the report are below `2 ^ 64`. -/
structure Report.IsSized (report : Report) : Prop where
  diagnostics : ∀ diagnostic ∈ report.diagnostics, diagnostic.IsSized
  membersAnalyzed : report.membersAnalyzed < 2 ^ 64
  membersExempt : report.membersExempt < 2 ^ 64
  accesses : report.accesses < 2 ^ 64
  rejectedGuards : report.rejectedGuards < 2 ^ 64

namespace Json.Tree

theorem isPlain_ofText? (text : Option String) : (ofText? text).isPlain = true := by
  cases text <;> rfl

theorem isPlain_ofNat? {n : Option Nat} (h : ∀ m ∈ n, m < 2 ^ 64) :
    (ofNat? n).isPlain = true := by
  cases n with
  | none => rfl
  | some m => simpa [ofNat?, ofOption, ofNat, isPlain] using h m rfl

theorem isPlain_ofNat {n : Nat} (h : n < 2 ^ 64) : (ofNat n).isPlain = true := by
  simpa [ofNat, isPlain] using h

theorem isPlain_ofList {items : List Tree} (h : ∀ tree ∈ items, tree.isPlain = true) :
    (ofList items).isPlain = true := by
  simpa [ofList, isPlain, allPlain_iff] using h

theorem isPlain_ofMembers {members : List (String × Tree)}
    (h : ∀ member ∈ members, member.2.isPlain = true) : (ofMembers members).isPlain = true := by
  simp only [ofMembers, isPlain, Bool.true_and, allMembersPlain_iff, List.forall_mem_map]
  exact fun member hmember => ⟨rfl, h member hmember⟩

end Json.Tree

theorem Diagnostic.isPlain_toJson {diagnostic : Diagnostic} (h : diagnostic.IsSized) :
    diagnostic.toJson.isPlain = true := by
  apply Tree.isPlain_ofMembers
  simp only [List.forall_mem_cons, Tree.isPlain_ofText?, true_and]
  refine ⟨rfl, rfl, Tree.isPlain_ofNat? h.1, Tree.isPlain_ofNat? h.2, Tree.isPlain_ofList ?_,
    List.forall_mem_nil _⟩
  simp [Tree.ofString, Tree.isPlain]

theorem Report.isPlain_toJson {report : Report} (h : report.IsSized) :
    report.toJson.isPlain = true := by
  apply Tree.isPlain_ofMembers
  unfold jsonMembers
  simp only [List.forall_mem_cons, Tree.isPlain_ofText?, true_and]
  refine ⟨Tree.isPlain_ofList ?_, Tree.isPlain_ofNat h.membersAnalyzed,
    Tree.isPlain_ofNat h.membersExempt, Tree.isPlain_ofNat h.accesses,
    Tree.isPlain_ofNat h.rejectedGuards, List.forall_mem_nil _⟩
  simp only [List.forall_mem_map]
  exact fun diagnostic hdiagnostic =>
    Diagnostic.isPlain_toJson (h.diagnostics diagnostic hdiagnostic)

/-- Reports that are written as a JSON text are read back from it. -/
theorem Report.read_pretty {reports : List Report} (h : ∀ report ∈ reports, report.IsSized) :
    let document := Json.read ((Tree.ofList (reports.map (·.toJson))).pretty ++ "\n")
    document.endsThere = true ∧ listOfJson? document.root = some reports := by
  intro document
  have hplain : (Tree.ofList (reports.map (·.toJson))).isPlain = true := by
    apply Tree.isPlain_ofList
    simp only [List.forall_mem_map]
    exact fun report hreport => Report.isPlain_toJson (h report hreport)
  have hread : document = ⟨Tree.ofList (reports.map (·.toJson)), true⟩ :=
    Json.read_of_writtenAs hplain (Json.writtenAs_pretty _)
  rw [hread]
  exact ⟨rfl, listOfJson?_toJson reports⟩

end LockDiscipline
