-- A place in a source text is told by its offset in bytes, or by its line and its column. The line
-- feeds in front of the place number its line, and behind the last of them this line begins. What
-- is cut out as the line goes from there to the next line feed, without a carriage return before
-- that.
import LockDiscipline.Program.Span
import LockDiscipline.Text.Lines
import Mathlib.Data.List.Induction

namespace LockDiscipline

namespace Text

/-! ## Places in a text -/

/-- Every character is one byte. -/
def IsAscii (text : List Char) : Prop := ∀ c ∈ text, c.val ≤ 127

instance (text : List Char) : Decidable (IsAscii text) :=
  List.decidableBAll (fun c : Char => c.val ≤ 127) text

/-- The characters in front of a place, which is given by its offset in bytes. -/
def inFront : Nat → List Char → List Char
  | _, [] => []
  | offset, c :: rest =>
    if c.utf8Size ≤ offset then c :: inFront (offset - c.utf8Size) rest else []

/-- The characters behind the last line feed. -/
def lastLine (text : List Char) : List Char := (text.reverse.takeWhile (· ≠ '\n')).reverse

/-- The number of the line that a place stands in, counted from one. -/
def lineNumber (text : List Char) (offset : Nat) : Nat := (inFront offset text).count '\n' + 1

/-- The number of the column that a place stands in, counted from one. -/
def columnNumber (text : List Char) (offset : Nat) : Nat :=
  (lastLine (inFront offset text)).length + 1

end Text

/-- The span is a stretch of the source text, with the line and the column of its start. -/
structure Span.IsIn (span : Span) (source : String) : Prop where
  start_le_stop : span.start ≤ span.stop
  stop_le_size : span.stop ≤ source.utf8ByteSize
  line_eq : span.line = Text.lineNumber source.toList span.start
  column_eq : span.column = Text.columnNumber source.toList span.start

namespace Text

variable {text earlier rest line : List Char}

theorem utf8Size_of_isAscii (h : IsAscii text) : ∀ c ∈ text, c.utf8Size = 1 :=
  fun c hc => Char.utf8Size_eq_one_iff.mpr (h c hc)

theorem inFront_eq_take (h : IsAscii text) (offset : Nat) :
    inFront offset text = text.take offset := by
  induction text generalizing offset with
  | nil => rw [inFront, List.take_nil]
  | cons c text ih =>
    have hsize := utf8Size_of_isAscii h c List.mem_cons_self
    rw [inFront, hsize]
    cases offset with
    | zero => rfl
    | succ offset =>
      rw [if_pos (by omega), Nat.add_sub_cancel, ih fun d hd => h d (List.mem_cons_of_mem c hd),
        List.take_succ_cons]

theorem utf8ByteSize_eq_length (h : IsAscii text) :
    (String.ofList text).utf8ByteSize = text.length := by
  induction text with
  | nil => rfl
  | cons c text ih =>
    have htext := ih fun d hd => h d (List.mem_cons_of_mem c hd)
    rw [String.ofList_cons, String.utf8ByteSize_append, String.utf8ByteSize_singleton, htext,
      utf8Size_of_isAscii h c List.mem_cons_self, List.length_cons, Nat.add_comm]

/-! ## Where a line begins -/

/-- Behind the text a line begins. -/
def BeginsLine (earlier : List Char) : Prop := earlier = [] ∨ ∃ before, earlier = before ++ ['\n']

theorem lastLine_concat (text : List Char) (c : Char) :
    lastLine (text ++ [c]) = if c = '\n' then [] else lastLine text ++ [c] := by
  unfold lastLine
  rw [List.reverse_concat, List.takeWhile_cons]
  by_cases hc : c = '\n'
  · simp [hc]
  · simp [hc]

/-- What is in front of the last line of a text has all its line feeds. -/
theorem exists_earlier (text : List Char) :
    ∃ earlier, text = earlier ++ lastLine text ∧ BeginsLine earlier ∧
      text.count '\n' = earlier.count '\n' := by
  induction text using List.reverseRecOn with
  | nil => exact ⟨[], rfl, Or.inl rfl, rfl⟩
  | append_singleton text c ih =>
    rw [lastLine_concat]
    by_cases hc : c = '\n'
    · rw [if_pos hc]
      exact ⟨text ++ [c], (List.append_nil _).symm, Or.inr ⟨text, hc ▸ rfl⟩, rfl⟩
    · rw [if_neg hc]
      obtain ⟨earlier, htext, hbegins, hcount⟩ := ih
      refine ⟨earlier, ?_, hbegins, ?_⟩
      · rw [← List.append_assoc, ← htext]
      · rw [List.count_append, hcount, List.count_singleton, if_neg (by simpa using hc)]
        rfl

theorem drop_linesAfter (before read rest : List Char) :
    (linesAfter read (before ++ '\n' :: rest)).drop (before.count '\n' + 1) = lines rest := by
  induction before generalizing read with
  | nil => rfl
  | cons c before ih =>
    by_cases hc : c = '\n'
    · rw [hc, List.cons_append, linesAfter, List.count_cons_self, List.drop_succ_cons]
      exact ih []
    · rw [List.cons_append, linesAfter, List.count_cons_of_ne hc]
      · exact ih (c :: read)
      · exact hc

/-- The line feeds in front of a line number it. -/
theorem drop_lines (h : BeginsLine earlier) (rest : List Char) :
    (lines (earlier ++ rest)).drop (earlier.count '\n') = lines rest := by
  rcases h with rfl | ⟨before, rfl⟩
  · rfl
  · have hdrop := drop_linesAfter before [] rest
    rw [List.count_append, List.append_assoc]
    exact hdrop

/-! ## Where a line ends -/

/-- A line ends in front of the text: at the end of all text, at a line feed, or at a carriage
return with a line feed, of which neither belongs to the line. -/
inductive EndsLine (line : List Char) : List Char → Prop
  | textEnd : EndsLine line []
  | feed (rest : List Char) : line.getLast? ≠ some '\r' → EndsLine line ('\n' :: rest)
  | returnAndFeed (rest : List Char) : EndsLine line ('\r' :: '\n' :: rest)

theorem linesAfter_of_no_feed (h : '\n' ∉ text) (read : List Char) :
    linesAfter read text =
      if (read.reverse ++ text).isEmpty then [] else [read.reverse ++ text] := by
  induction text generalizing read with
  | nil => simp [linesAfter]
  | cons c text ih =>
    rw [List.mem_cons, not_or] at h
    rw [linesAfter, ih h.2]
    · simp
    · exact Ne.symm h.1

theorem linesAfter_feed (h : '\n' ∉ text) (read rest : List Char) :
    linesAfter read (text ++ '\n' :: rest) =
      (dropReturn (text.reverse ++ read)).reverse :: lines rest := by
  induction text generalizing read with
  | nil => rfl
  | cons c text ih =>
    rw [List.mem_cons, not_or] at h
    rw [List.cons_append, linesAfter, ih h.2]
    · simp
    · exact Ne.symm h.1

/-- A carriage return at the end of a line is not taken for a part of it. -/
theorem endsLine_dropReturn (text rest : List Char) :
    ∃ behind, text ++ '\n' :: rest = (dropReturn text.reverse).reverse ++ behind ∧
      EndsLine (dropReturn text.reverse).reverse behind := by
  induction text using List.reverseRecOn with
  | nil => exact ⟨'\n' :: rest, rfl, .feed rest nofun⟩
  | append_singleton text c _ =>
    rw [List.reverse_concat]
    by_cases hc : c = '\r'
    · rw [hc, dropReturn, List.reverse_reverse]
      exact ⟨'\r' :: '\n' :: rest, by simp, .returnAndFeed rest⟩
    · have hkept : dropReturn (c :: text.reverse) = c :: text.reverse := by
        rw [dropReturn]
        intro _ heq
        exact hc (List.cons.inj heq).1
      rw [hkept, List.reverse_cons, List.reverse_reverse]
      exact ⟨'\n' :: rest, rfl, .feed rest (by simpa using hc)⟩

theorem mem_of_mem_dropReturn {c : Char} (h : c ∈ dropReturn text) : c ∈ text := by
  unfold dropReturn at h
  split at h
  · exact List.mem_cons_of_mem _ h
  · exact h

/-- The first line of a text that is not empty. -/
theorem exists_first_line (h : text ≠ []) :
    ∃ line behind, (lines text).head? = some line ∧ text = line ++ behind ∧ '\n' ∉ line ∧
      EndsLine line behind := by
  by_cases hfeed : '\n' ∈ text
  · obtain ⟨before, rest, rfl, hbefore⟩ := List.eq_append_cons_of_mem hfeed
    obtain ⟨behind, htext, hends⟩ := endsLine_dropReturn before rest
    refine ⟨(dropReturn before.reverse).reverse, behind, ?_, htext, ?_, hends⟩
    · rw [lines, linesAfter_feed hbefore, List.append_nil, List.head?_cons]
    · rw [List.mem_reverse]
      intro hmem
      exact hbefore (List.mem_reverse.mp (mem_of_mem_dropReturn hmem))
  · refine ⟨text, [], ?_, (List.append_nil _).symm, hfeed, .textEnd⟩
    rw [lines, linesAfter_of_no_feed hfeed, if_neg (by simpa using h)]
    rfl

/-! ## The line of a place -/

/-- The line of a text that begins at an offset. -/
def IsLineAt (text line : List Char) (start : Nat) : Prop :=
  ∃ earlier behind, text = earlier ++ line ++ behind ∧ earlier.length = start ∧
    BeginsLine earlier ∧ '\n' ∉ line ∧ EndsLine line behind

theorem IsLineAt.getElem? {cut : List Char} {start place : Nat} (h : IsLineAt text cut start)
    (hplace : place < cut.length) : cut[place]? = text[start + place]? := by
  obtain ⟨earlier, behind, rfl, rfl, -⟩ := h
  rw [List.append_assoc, List.getElem?_append_right (Nat.le_add_right _ _), Nat.add_sub_cancel_left,
    List.getElem?_append_left hplace]

/-- Where a place of a text is on none of its lines, the text ends and a line would begin. Elsewhere
its line is the one that begins so many characters before it as it has columns in front of it. -/
theorem exists_lineStart {source : String} {offset : Nat} (hascii : IsAscii source.toList)
    (hoffset : offset ≤ source.toList.length) :
    ∃ start, start + (columnNumber source.toList offset - 1) = offset ∧
      (line? source (lineNumber source.toList offset) = none ↔ start = source.toList.length) ∧
      ∀ line, line? source (lineNumber source.toList offset) = some line →
        IsLineAt source.toList line.toList start := by
  obtain ⟨earlier, hfront, hbegins, hcount⟩ := exists_earlier (source.toList.take offset)
  have hlength := congrArg List.length hfront
  rw [List.length_take, Nat.min_eq_left hoffset, List.length_append] at hlength
  have hearlier : earlier <+: source.toList.take offset := ⟨_, hfront.symm⟩
  obtain ⟨rest, hsource⟩ := hearlier.trans (List.take_prefix offset source.toList)
  have hline : line? source (lineNumber source.toList offset) =
      (lines rest).head?.map String.ofList := by
    rw [line?, lineNumber, inFront_eq_take hascii, hcount, Nat.add_sub_cancel, ← hsource,
      ← List.head?_drop, drop_lines hbegins]
  refine ⟨earlier.length, ?_, ?_, ?_⟩
  · rw [columnNumber, inFront_eq_take hascii, Nat.add_sub_cancel]
    exact hlength.symm
  · rw [hline, ← hsource, List.length_append]
    by_cases hrest : rest = []
    · simp [hrest, lines, linesAfter]
    · obtain ⟨line, behind, hfirst, -⟩ := exists_first_line hrest
      have hpos : 0 < rest.length := List.length_pos_iff.mpr hrest
      rw [hfirst]
      constructor
      · intro hnone
        cases hnone
      · omega
  · intro line hsome
    rw [hline] at hsome
    have hrest : rest ≠ [] := by
      rintro rfl
      cases hsome
    obtain ⟨first, behind, hfirst, htext, hfeed, hends⟩ := exists_first_line hrest
    rw [hfirst] at hsome
    cases hsome
    rw [String.toList_ofList, ← hsource, htext, ← List.append_assoc]
    exact ⟨earlier, behind, rfl, rfl, hbegins, hfeed, hends⟩

end Text

end LockDiscipline
