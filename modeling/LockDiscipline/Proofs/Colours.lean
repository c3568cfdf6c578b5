-- A terminal is told the colours of a diagnostic by codes in its text. Without the codes it is the
-- text without colours, but for the number of the source line. This is to be moved to the right
-- until it takes three places, and there the codes of its colour are counted as places, so it is
-- never moved.
import LockDiscipline.Diagnostic.Rendering

namespace LockDiscipline

/-! ## Texts without colour codes -/

namespace Text

/-- What stands behind a colour code, after its opening: numbers between semicolons, and an `m`. -/
def behindCode? : List Char → Option (List Char)
  | [] => none
  | c :: rest =>
    if c = 'm' then some rest
    else if c.isDigit || c = ';' then behindCode? rest
    else none

theorem length_lt_of_behindCode? {text behind : List Char} (h : behindCode? text = some behind) :
    behind.length < text.length := by
  fun_induction behindCode? text with
  | case1 => cases h
  | case2 rest =>
    cases h
    exact Nat.lt_succ_self _
  | case3 c rest _ _ ih => exact Nat.lt_succ_of_lt (ih h)
  | case4 => cases h

/-- A text without its colour codes. An escape character that opens no such code stays. -/
def withoutCodes : List Char → List Char
  | [] => []
  | '\x1b' :: '[' :: rest =>
    match _hbehind : behindCode? rest with
    | some behind => withoutCodes behind
    | none => '\x1b' :: '[' :: withoutCodes rest
  | c :: rest => c :: withoutCodes rest
termination_by text => text.length
decreasing_by
  · have hshorter := length_lt_of_behindCode? _hbehind
    simp only [List.length_cons]
    omega
  · simp only [List.length_cons]
    omega
  · simp only [List.length_cons]
    omega

/-- A text as it reads without its colour codes. -/
def uncoloured (text : String) : String := String.ofList (withoutCodes text.toList)

/-- No code can start in the text. -/
def EscapeFree (text : String) : Prop := '\x1b' ∉ text.toList

instance (text : String) : Decidable (EscapeFree text) := inferInstanceAs (Decidable (_ ∉ _))

theorem withoutCodes_cons {c : Char} (h : c ≠ '\x1b') (rest : List Char) :
    withoutCodes (c :: rest) = c :: withoutCodes rest := by
  rw [withoutCodes]
  intro _ hc
  exact absurd hc h

theorem withoutCodes_append {text : List Char} (h : '\x1b' ∉ text) (rest : List Char) :
    withoutCodes (text ++ rest) = text ++ withoutCodes rest := by
  induction text with
  | nil => rfl
  | cons c text ih =>
    rw [List.mem_cons, not_or] at h
    rw [List.cons_append, withoutCodes_cons (Ne.symm h.1), ih h.2, List.cons_append]

theorem behindCode?_append {numbers : List Char} (h : numbers.all Char.isDigit = true)
    (rest : List Char) : behindCode? (numbers ++ 'm' :: rest) = some rest := by
  induction numbers with
  | nil => rfl
  | cons c numbers ih =>
    rw [List.all_cons, Bool.and_eq_true] at h
    have hc : c ≠ 'm' := by
      rintro rfl
      cases h.1
    rw [List.cons_append, behindCode?, if_neg hc, h.1]
    exact ih h.2

theorem withoutCodes_code {numbers : List Char} (h : numbers.all Char.isDigit = true)
    (rest : List Char) :
    withoutCodes ('\x1b' :: '[' :: (numbers ++ 'm' :: rest)) = withoutCodes rest := by
  rw [withoutCodes]
  split
  · rename_i behind hbehind
    rw [behindCode?_append h] at hbehind
    cases hbehind
    rfl
  · rename_i hnone
    rw [behindCode?_append h] at hnone
    cases hnone

/-! ## Texts that differ in colours only -/

/-- In front of any text, the first text without its codes is the second. -/
def FadesTo (shown plain : String) : Prop :=
  ∀ rest, withoutCodes (shown.toList ++ rest) = plain.toList ++ withoutCodes rest

namespace FadesTo

variable {shown plain shown' plain' : String}

theorem uncoloured_eq (h : FadesTo shown plain) : uncoloured shown = plain := by
  have hnothing := h []
  rw [List.append_nil, withoutCodes, List.append_nil] at hnothing
  rw [uncoloured, hnothing, String.ofList_toList]

theorem nothing : FadesTo "" "" := fun _ => rfl

theorem of_escapeFree {text : String} (h : EscapeFree text) : FadesTo text text :=
  fun rest => withoutCodes_append h rest

theorem append (h : FadesTo shown plain) (h' : FadesTo shown' plain') :
    FadesTo (shown ++ shown') (plain ++ plain') := by
  intro rest
  rw [String.toList_append, List.append_assoc, h, h', String.toList_append, List.append_assoc]

theorem coloured {colour text : String} (hcolour : colour.toList.all Char.isDigit = true)
    (htext : EscapeFree text) : FadesTo (Paint.coloured colour text) text := by
  intro rest
  have hopening : (Paint.coloured colour text).toList ++ rest =
      '\x1b' :: '[' :: (colour.toList ++ 'm' :: (text.toList ++
        '\x1b' :: '[' :: (['0'] ++ 'm' :: rest))) := by
    simp [Paint.coloured]
  rw [hopening, withoutCodes_code hcolour, withoutCodes_append htext,
    withoutCodes_code (by decide)]

theorem indent : FadesTo "   " "   " := of_escapeFree (by decide)

theorem blank : FadesTo " " " " := of_escapeFree (by decide)

theorem colon : FadesTo ": " ": " := of_escapeFree (by decide)

theorem lineEnd : FadesTo "\n" "\n" := of_escapeFree (by decide)

/-- Items that are put one behind the other differ in colours only, if each of them does. -/
theorem join {Item : Type} {showsAs readsAs : Item → String} {items : List Item}
    (h : ∀ item ∈ items, FadesTo (showsAs item) (readsAs item)) :
    FadesTo (String.join (items.map showsAs)) (String.join (items.map readsAs)) := by
  induction items with
  | nil => exact nothing
  | cons item items ih =>
    have hitems := ih fun other hother => h other (List.mem_cons_of_mem item hother)
    rw [List.map_cons, List.map_cons, String.join_cons, String.join_cons]
    exact (h item List.mem_cons_self).append hitems

end FadesTo

theorem escapeFree_toString (n : Nat) : EscapeFree (toString n) := by
  intro hmem
  have hdigits : (toString n).toList = Nat.toDigits 10 n := Nat.toList_repr
  rw [hdigits] at hmem
  have hdigit := Nat.isDigit_of_mem_toDigits (by decide) (by decide) hmem
  cases hdigit

theorem EscapeFree.append {first second : String} (hfirst : EscapeFree first)
    (hsecond : EscapeFree second) : EscapeFree (first ++ second) := by
  intro hmem
  rw [String.toList_append, List.mem_append] at hmem
  exact hmem.elim hfirst hsecond

/-- A number takes three places by itself exactly from one hundred on. -/
theorem padLeft_toString_eq_iff (n : Nat) : padLeft 3 (toString n) = toString n ↔ 100 ≤ n := by
  have hdigits := Nat.length_toDigits_le_iff (b := 10) (n := n) (k := 2) (by decide) (by decide)
  have hlength : (toString n).length = (Nat.toDigits 10 n).length := by
    rw [← String.length_toList]
    exact congrArg List.length Nat.toList_repr
  rw [padLeft, ← String.toList_inj, String.toList_append, String.toList_ofList,
    List.append_left_eq_self, List.replicate_eq_nil_iff, hlength]
  omega

end Text

open Text

/-! ## Paint that fades -/

/-- Painted texts without their colour codes are the texts. -/
structure Paint.Fades (paint : Paint) : Prop where
  red {text : String} : EscapeFree text → FadesTo (paint.red text) text
  cyan {text : String} : EscapeFree text → FadesTo (paint.cyan text) text
  bold {text : String} : EscapeFree text → FadesTo (paint.bold text) text

theorem Paint.fades_ansi : Paint.ansi.Fades where
  red := FadesTo.coloured (by decide)
  cyan := FadesTo.coloured (by decide)
  bold := FadesTo.coloured (by decide)

/-- The codes of a colour alone take more than three places. -/
theorem Paint.padLeft_cyan_ansi (text : String) :
    padLeft 3 (Paint.ansi.cyan text) = Paint.ansi.cyan text := by
  have hlong : 3 - (Paint.ansi.cyan text).length = 0 := by
    simp only [Paint.ansi, Paint.coloured, String.length_append]
    have hopening : "\x1b[".length = 2 := rfl
    have hcolour : "36".length = 2 := rfl
    omega
  rw [padLeft, hlong, List.replicate_zero]
  exact String.empty_append

/-! ## The parts of a shown diagnostic -/

/-- What is shown of the source text: a line with its number, and the mark under it. -/
structure Snippet where
  number : Nat
  sourceLine : String
  underline : String

/-- The snippet with its number as it is written in the given text. -/
def Snippet.framed (snippet : Snippet) (paint : Paint) (number : String) : String :=
  "   " ++ paint.cyan "|" ++ "\n" ++ number ++ " " ++ paint.cyan "|" ++ " " ++ snippet.sourceLine
    ++ "\n" ++ "   " ++ paint.cyan "|" ++ " " ++ paint.red snippet.underline ++ "\n"

theorem Snippet.framed_injective (snippet : Snippet) (paint : Paint) :
    Function.Injective (snippet.framed paint) := by
  intro number number' h
  unfold framed at h
  simp only [String.append_left_inj] at h
  exact (String.append_right_inj _).mp h

theorem Snippet.framed_fadesTo {snippet : Snippet} {paint : Paint} {shown plain : String}
    (hpaint : paint.Fades) (hnumber : FadesTo shown plain)
    (hsourceLine : EscapeFree snippet.sourceLine) (hunderline : EscapeFree snippet.underline) :
    FadesTo (snippet.framed paint shown) (snippet.framed .plain plain) := by
  have hbar : FadesTo (paint.cyan "|") (Paint.plain.cyan "|") := hpaint.cyan (by decide)
  have hmark : FadesTo (paint.red snippet.underline) (Paint.plain.red snippet.underline) :=
    hpaint.red hunderline
  have hedge := (FadesTo.indent.append hbar).append .lineEnd
  have hnumbered := (((hedge.append hnumber).append .blank).append hbar).append .blank
  have hsource := (hnumbered.append (.of_escapeFree hsourceLine)).append .lineEnd
  unfold framed
  exact ((((hsource.append .indent).append hbar).append .blank).append hmark).append .lineEnd

namespace Diagnostic

variable {paint : Paint} {diagnostic : Diagnostic}

/-- The texts that a diagnostic is made of. -/
def texts (diagnostic : Diagnostic) : List String :=
  diagnostic.message :: diagnostic.code.toList ++ diagnostic.file.toList
    ++ diagnostic.sourceLine.toList ++ diagnostic.underline.toList ++ diagnostic.suggestions

/-- The snippet that a diagnostic shows, if it has all of it. -/
def snippet? (diagnostic : Diagnostic) : Option Snippet :=
  match diagnostic.line, diagnostic.sourceLine, diagnostic.underline with
  | some line, some sourceLine, some underline => some ⟨line, sourceLine, underline⟩
  | _, _, _ => none

theorem snippetText_eq (paint : Paint) (diagnostic : Diagnostic) :
    diagnostic.snippetText paint =
      match diagnostic.snippet? with
      | some snippet => snippet.framed paint (padLeft 3 (paint.cyan (toString snippet.number)))
      | none => "" := by
  obtain ⟨_, _, _, _, line, _, sourceLine, underline, _⟩ := diagnostic
  cases line <;> cases sourceLine <;> cases underline <;> rfl

/-- The snippet without colours, with its number at the left edge. -/
def snippetAtEdge (diagnostic : Diagnostic) : String :=
  match diagnostic.snippet? with
  | some snippet => snippet.framed .plain (toString snippet.number)
  | none => ""

theorem mem_texts_of_snippet? {snippet : Snippet} (h : diagnostic.snippet? = some snippet) :
    snippet.sourceLine ∈ diagnostic.texts ∧ snippet.underline ∈ diagnostic.texts := by
  unfold snippet? at h
  split at h
  · rename_i hsourceLine hunderline
    cases h
    simp [texts, hsourceLine, hunderline]
  · cases h

section

variable (hpaint : paint.Fades) (h : ∀ text ∈ diagnostic.texts, EscapeFree text)

include hpaint h

theorem headerText_fadesTo :
    FadesTo (diagnostic.headerText paint) (diagnostic.headerText .plain) := by
  have hlabel : FadesTo (paint.red diagnostic.severity.text) diagnostic.severity.text := by
    cases diagnostic.severity
    exact hpaint.red (by decide)
  have hopen : FadesTo "[" "[" := .of_escapeFree (by decide)
  have hclose : FadesTo "]: " "]: " := .of_escapeFree (by decide)
  have hmessage : EscapeFree diagnostic.message := h _ (by simp [texts])
  unfold headerText
  apply FadesTo.append _ .lineEnd
  apply FadesTo.append _ (hpaint.bold hmessage)
  cases hcode : diagnostic.code with
  | none => exact hlabel.append .colon
  | some code =>
    have hfree : EscapeFree code := h code (by simp [texts, hcode])
    exact ((hlabel.append hopen).append (hpaint.bold hfree)).append hclose

omit hpaint in
theorem escapeFree_location {place : String} (hplace : diagnostic.location = some place) :
    EscapeFree place := by
  have hcolon : EscapeFree ":" := by decide
  have hfile : EscapeFree (diagnostic.file.getD "<unit>") := by
    cases hfile : diagnostic.file with
    | none => decide
    | some file => exact h file (by simp [texts, hfile])
  unfold location at hplace
  dsimp only at hplace
  split at hplace
  · cases hplace
    exact (((hfile.append hcolon).append (escapeFree_toString _)).append hcolon).append
      (escapeFree_toString _)
  · cases hplace
    exact (hfile.append hcolon).append (escapeFree_toString _)
  · exact h place (by simp [texts, hplace])

theorem locationText_fadesTo :
    FadesTo (diagnostic.locationText paint) (diagnostic.locationText .plain) := by
  have hindent : FadesTo "  " "  " := .of_escapeFree (by decide)
  have harrow : FadesTo (paint.cyan "-->") "-->" := hpaint.cyan (by decide)
  unfold locationText
  cases hplace : diagnostic.location with
  | none => exact .nothing
  | some place =>
    have hfree : FadesTo place place := .of_escapeFree (escapeFree_location h hplace)
    exact (((hindent.append harrow).append .blank).append hfree).append .lineEnd

theorem helpText_fadesTo :
    FadesTo (diagnostic.helpText paint) (diagnostic.helpText .plain) := by
  have hbar : FadesTo (paint.cyan "|") "|" := hpaint.cyan (by decide)
  have hequals : FadesTo (paint.cyan "=") "=" := hpaint.cyan (by decide)
  have hhelp : FadesTo (paint.cyan "help") "help" := hpaint.cyan (by decide)
  unfold helpText
  split
  · exact .nothing
  · apply ((FadesTo.indent.append hbar).append .lineEnd).append
    apply FadesTo.join
    intro suggestion hmem
    have hfree : FadesTo suggestion suggestion :=
      .of_escapeFree (h suggestion (by simp [texts, hmem]))
    exact (((((FadesTo.indent.append hequals).append .blank).append hhelp).append .colon).append
      hfree).append .lineEnd

end

/-- The codes around the number make it too long to be moved to the right. -/
theorem snippetText_fadesTo (h : ∀ text ∈ diagnostic.texts, EscapeFree text) :
    FadesTo (diagnostic.snippetText .ansi) diagnostic.snippetAtEdge := by
  rw [snippetText_eq, snippetAtEdge]
  cases hsnippet : diagnostic.snippet? with
  | none => exact .nothing
  | some snippet =>
    obtain ⟨hsourceLine, hunderline⟩ := mem_texts_of_snippet? hsnippet
    have hnumber := Paint.fades_ansi.cyan (escapeFree_toString snippet.number)
    dsimp only
    rw [Paint.padLeft_cyan_ansi]
    exact Snippet.framed_fadesTo Paint.fades_ansi hnumber (h _ hsourceLine) (h _ hunderline)

/-- Without its colours, a rendering has every line number at the left edge. -/
theorem uncoloured_render_ansi (h : ∀ text ∈ diagnostic.texts, EscapeFree text) :
    uncoloured (diagnostic.render .ansi) =
      diagnostic.headerText .plain ++ diagnostic.locationText .plain ++ diagnostic.snippetAtEdge
        ++ diagnostic.helpText .plain := by
  have hheader := headerText_fadesTo Paint.fades_ansi h
  have hlocation := locationText_fadesTo Paint.fades_ansi h
  have hhelp := helpText_fadesTo Paint.fades_ansi h
  exact (((hheader.append hlocation).append (snippetText_fadesTo h)).append hhelp).uncoloured_eq

theorem snippetAtEdge_eq_iff :
    diagnostic.snippetAtEdge = diagnostic.snippetText .plain ↔
      ∀ snippet ∈ diagnostic.snippet?, 100 ≤ snippet.number := by
  rw [snippetText_eq, snippetAtEdge]
  cases diagnostic.snippet? with
  | none => simp
  | some snippet =>
    simp only [Option.mem_def, Option.some.injEq, forall_eq']
    rw [(snippet.framed_injective .plain).eq_iff, eq_comm]
    exact padLeft_toString_eq_iff snippet.number

/-- The rendering in colours is, without its colour codes, the plain one with the number of the
source line at the left edge. The plain rendering moves that number to the right until it takes
three places. So the two differ in colours only exactly if no number below one hundred is shown. -/
theorem colour_is_the_only_difference_from_line_one_hundred_on (diagnostic : Diagnostic)
    (h : ∀ text ∈ diagnostic.texts, EscapeFree text) :
    uncoloured (diagnostic.render .ansi) =
        diagnostic.headerText .plain ++ diagnostic.locationText .plain ++ diagnostic.snippetAtEdge
          ++ diagnostic.helpText .plain ∧
      (uncoloured (diagnostic.render .ansi) = diagnostic.render .plain ↔
        ∀ snippet ∈ diagnostic.snippet?, 100 ≤ snippet.number) := by
  have huncoloured := uncoloured_render_ansi h
  refine ⟨huncoloured, ?_⟩
  rw [huncoloured, render, String.append_left_inj, String.append_right_inj]
  exact snippetAtEdge_eq_iff

end Diagnostic

namespace Counter

/-- A misspelled lock of the field `x`, in the line of the given number. -/
def misspelledAt (line : Nat) : Diagnostic where
  severity := .error
  code := some "E0711"
  message := "Invalid guard expression 'mx' on 'x': could not resolve guard"
  file := some "Counter.java"
  line := some line
  column := some 3
  sourceLine := some "  @GuardedBy(\"mx\") int x;"
  underline := some "  ^^^^^^^^^^^^^^^^"
  suggestions := ["did you mean 'mu'?"]

theorem the_number_of_line_one_hundred_is_at_the_edge_anyway :
    let diagnostic := misspelledAt 100
    (∀ text ∈ diagnostic.texts, EscapeFree text) ∧
      (∀ snippet ∈ diagnostic.snippet?, 100 ≤ snippet.number) ∧
      diagnostic.snippetAtEdge =
        "   |\n100 |   @GuardedBy(\"mx\") int x;\n   |   ^^^^^^^^^^^^^^^^\n" ∧
      uncoloured (diagnostic.render .ansi) = diagnostic.render .plain := by
  intro diagnostic
  have hfree : ∀ text ∈ diagnostic.texts, EscapeFree text := by decide
  have hwide : ∀ snippet ∈ diagnostic.snippet?, 100 ≤ snippet.number := by
    intro snippet hsnippet
    cases hsnippet
    exact Nat.le_refl _
  obtain ⟨-, hsame⟩ :=
    Diagnostic.colour_is_the_only_difference_from_line_one_hundred_on diagnostic hfree
  exact ⟨hfree, hwide, by decide, hsame.mpr hwide⟩

/-- The number of line seven is moved to the right only where there are no colours. -/
theorem the_number_of_line_seven_is_at_the_edge_in_colours :
    let diagnostic := misspelledAt 7
    (∀ text ∈ diagnostic.texts, EscapeFree text) ∧
      diagnostic.snippetText .plain =
        "   |\n  7 |   @GuardedBy(\"mx\") int x;\n   |   ^^^^^^^^^^^^^^^^\n" ∧
      uncoloured (diagnostic.snippetText .ansi) =
        "   |\n7 |   @GuardedBy(\"mx\") int x;\n   |   ^^^^^^^^^^^^^^^^\n" ∧
      uncoloured (diagnostic.render .ansi) ≠ diagnostic.render .plain := by
  intro diagnostic
  have hfree : ∀ text ∈ diagnostic.texts, EscapeFree text := by decide
  refine ⟨hfree, by decide, ?_, ?_⟩
  · rw [(Diagnostic.snippetText_fadesTo hfree).uncoloured_eq]
    decide
  · rw [Diagnostic.uncoloured_render_ansi hfree]
    decide

end Counter

end LockDiscipline
