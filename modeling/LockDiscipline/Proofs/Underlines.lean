-- Under the line of source text that a diagnostic stands in there is a mark, as long as the span
-- that it is about. Its first caret is in the right column. But a span may go on in further lines, of
-- which only the first is shown, and then the mark is as long as all of them: it stays under its
-- line exactly if the span ends there.
import LockDiscipline.Diagnostic.Basic
import LockDiscipline.Proofs.SourceLines

namespace LockDiscipline

open Text

namespace Diagnostic

/-! ## Marks -/

/-- No caret stands behind the line, but for a single one right behind it. -/
def StaysUnder (underline line : List Char) : Prop :=
  ∀ place, underline[place]? = some '^' →
    place < line.length ∨ place = line.length ∧ underline.count '^' = 1

theorem toList_mark (column length : Nat) :
    (mark column length).toList =
      List.replicate (column - 1) ' ' ++ List.replicate (max length 1) '^' :=
  String.toList_ofList

theorem count_mark (column length : Nat) :
    (mark column length).toList.count '^' = max length 1 := by
  rw [toList_mark, List.count_append, List.count_replicate_self, List.count_replicate]
  simp

theorem getElem?_mark_iff (column length place : Nat) :
    (mark column length).toList[place]? = some '^' ↔
      column - 1 ≤ place ∧ place < column - 1 + max length 1 := by
  rw [toList_mark]
  by_cases hplace : place < column - 1
  · have hblank : (' ' : Char) ≠ '^' := by decide
    rw [List.getElem?_append_left (by rwa [List.length_replicate]), List.getElem?_replicate,
      if_pos hplace, Option.some_inj]
    constructor
    · exact fun h => absurd h hblank
    · omega
  · rw [List.getElem?_append_right (by rw [List.length_replicate]; omega),
      List.length_replicate, List.getElem?_replicate]
    split
    · simp only [true_iff]
      omega
    · simp only [reduceCtorEq, false_iff]
      omega

theorem staysUnder_mark_iff (column length : Nat) (line : List Char) :
    StaysUnder (mark column length).toList line ↔
      column - 1 + max length 1 ≤ line.length ∨ column - 1 = line.length ∧ length ≤ 1 := by
  unfold StaysUnder
  simp only [getElem?_mark_iff, count_mark]
  constructor
  · intro h
    -- The last caret decides.
    have hlast := h (column - 1 + max length 1 - 1) (by omega)
    omega
  · omega

/-! ## Attaching the source -/

variable {diagnostic : Diagnostic} {unit : CompilationUnit} {span : Span} {source : String}
  {number : Nat}

theorem sourceLine_attach (hsource : unit.source = some source)
    (hline : diagnostic.line = some number) :
    (diagnostic.attach unit span).sourceLine = line? source number := by
  unfold attach
  rw [hsource, hline]

theorem underline_attach {line : String} (hsource : unit.source = some source)
    (hline : diagnostic.line = some number) (hsome : line? source number = some line) :
    (diagnostic.attach unit span).underline =
      some (mark span.column (span.stop - span.start)) := by
  unfold attach
  rw [hsource, hline]
  dsimp only
  rw [hsome]
  rfl

/-- An ASCII source text is attached for a span in it. The line is the one that the span starts in,
if there is any text from its beginning on. The mark has as many blanks as there are columns in
front of the span, and then one caret at least, so the first caret is under the character that the
span starts with. The carets stay under the line exactly if the span ends in the line, or starts at
its end and has at most one character. -/
theorem the_mark_stays_under_its_line_exactly_if_the_span_ends_there (diagnostic : Diagnostic)
    (unit : CompilationUnit) (span : Span) (source : String) (hsource : unit.source = some source)
    (hascii : IsAscii source.toList) (hspan : span.IsIn source)
    (hline : diagnostic.line = some span.line) :
    let attached := diagnostic.attach unit span
    ∃ lineStart, lineStart + (span.column - 1) = span.start ∧
      (attached.sourceLine = none ↔ lineStart = source.toList.length) ∧
      ∀ line, attached.sourceLine = some line → ∃ underline carets,
        attached.underline = some underline ∧ IsLineAt source.toList line.toList lineStart ∧
        underline.toList =
          List.replicate (span.column - 1) ' ' ++ List.replicate (carets + 1) '^' ∧
        (span.column - 1 < line.toList.length →
          line.toList[span.column - 1]? = source.toList[span.start]?) ∧
        let lineEnd := lineStart + line.toList.length
        (StaysUnder underline.toList line.toList ↔
          span.start < lineEnd ∧ span.stop ≤ lineEnd ∨
            span.start = lineEnd ∧ span.stop ≤ lineEnd + 1) := by
  intro attached
  obtain ⟨hordered, hwithin, hnumber, hcolumn⟩ := hspan
  rw [← String.ofList_toList (s := source), utf8ByteSize_eq_length hascii] at hwithin
  obtain ⟨lineStart, hstart, hnone, hlineAt⟩ :=
    exists_lineStart hascii (Nat.le_trans hordered hwithin)
  rw [← hnumber] at hnone hlineAt
  rw [← hcolumn] at hstart
  have hshown : attached.sourceLine = line? source span.line := sourceLine_attach hsource hline
  refine ⟨lineStart, hstart, by rw [hshown]; exact hnone, ?_⟩
  intro line hsome
  rw [hshown] at hsome
  have hat := hlineAt line hsome
  refine ⟨_, max (span.stop - span.start) 1 - 1, underline_attach hsource hline hsome, hat,
    ?_, ?_, ?_⟩
  · rw [toList_mark, Nat.sub_add_cancel (Nat.le_max_right _ _)]
  · intro hplace
    rw [hat.getElem? hplace, hstart]
  · rw [staysUnder_mark_iff]
    omega

end Diagnostic

namespace Counter

/-- A unit of which only the source text matters: an access to `x` that goes on in a second line. -/
def overTwoLines : CompilationUnit where
  path := some "Counter.java"
  source := some "return a\n    .x;\n"
  classes := []

/-- Where `a` stands in it. -/
def spanOfA : Span := ⟨7, 8, 1, 8⟩

/-- Where all of the access stands in it. -/
def spanOfAccess : Span := ⟨7, 15, 1, 8⟩

def unguardedAt (span : Span) : Diagnostic := .errorAt (some "E0700") "unguarded" span

theorem the_mark_of_a_stays_under_its_line :
    let source := "return a\n    .x;\n"
    let attached := (unguardedAt spanOfA).attach overTwoLines spanOfA
    overTwoLines.source = some source ∧ IsAscii source.toList ∧ spanOfA.IsIn source ∧
      (unguardedAt spanOfA).line = some spanOfA.line ∧
      attached.sourceLine = some "return a" ∧ attached.underline = some "       ^" ∧
      Diagnostic.StaysUnder "       ^".toList "return a".toList := by
  intro source attached
  have hascii : IsAscii source.toList := by decide
  have hspan : spanOfA.IsIn source := ⟨by decide, by decide, by decide, by decide⟩
  have hsome : attached.sourceLine = some "return a" := by decide
  have hmark : attached.underline = some "       ^" := by decide
  obtain ⟨lineStart, hstart, -, hline⟩ :=
    Diagnostic.the_mark_stays_under_its_line_exactly_if_the_span_ends_there
      (unguardedAt spanOfA) overTwoLines spanOfA source rfl hascii hspan rfl
  obtain ⟨underline, carets, hunderline, -, -, -, hstays⟩ := hline "return a" hsome
  cases hmark.symm.trans hunderline
  refine ⟨rfl, hascii, hspan, rfl, hsome, hmark, hstays.mpr (Or.inl ?_)⟩
  have hzero : lineStart = 0 := Nat.add_right_cancel (hstart.trans (by decide : 7 = 0 + 7))
  subst hzero
  decide

/-- The mark has eight carets, as many as the access has characters, though only one is left in the
line that is shown. -/
theorem the_mark_of_an_access_over_two_lines_leaves_its_line :
    let source := "return a\n    .x;\n"
    let attached := (unguardedAt spanOfAccess).attach overTwoLines spanOfAccess
    IsAscii source.toList ∧ spanOfAccess.IsIn source ∧
      attached.sourceLine = some "return a" ∧
      attached.underline = some "       ^^^^^^^^" ∧
      ¬ Diagnostic.StaysUnder "       ^^^^^^^^".toList "return a".toList := by
  refine ⟨by decide, ⟨by decide, by decide, by decide, by decide⟩, by decide, by decide, ?_⟩
  intro h
  have hlast := h 14 (by decide)
  revert hlast
  decide

end Counter

end LockDiscipline
