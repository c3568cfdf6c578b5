-- The texts that name a guard are a small language: chains of names, which may go out from `this` or
-- from the `this` of a class that a chain names, and the class objects of such classes. The reader
-- takes exactly these, and what it reads is written as it was read.
import LockDiscipline.Guard.Note
import LockDiscipline.Proofs.Parts
import LockDiscipline.Proofs.ReceiverPaths

namespace LockDiscipline

/-! ## Texts and their pieces -/

namespace Text

/-- The pieces of a text are the lists between its dots. -/
theorem segments_eq_splitOn (text : List Char) : segments text = text.splitOn '.' := by
  induction text with
  | nil => rfl
  | cons c cs ih =>
    rw [segments, ih, List.splitOn_cons_eq_if_modifyHead]
    by_cases h : c = '.'
    · simp [h]
    · cases hrest : cs.splitOn '.' with
      | nil => exact absurd hrest (List.splitOn_ne_nil _ _)
      | cons piece pieces => simp [h, pushFirst]

/-- A text without blanks has none at its ends. -/
theorem trim_eq_self {text : List Char} (h : ∀ c ∈ text, isBlank c = false) : trim text = text := by
  have hdrop : ∀ cs : List Char, (∀ c ∈ cs, isBlank c = false) → cs.dropWhile isBlank = cs := by
    intro cs hcs
    cases cs with
    | nil => rfl
    | cons c rest => rw [List.dropWhile_cons_of_neg (by simp [hcs c List.mem_cons_self])]
  unfold trim
  rw [hdrop text h, hdrop text.reverse (fun c hc => h c (List.mem_reverse.mp hc)),
    List.reverse_reverse]

end Text

/-- The first two pieces may be joined before the others. -/
theorem intercalate_join_cons {α : Type} (sep x y : List α) (rest : List (List α)) :
    sep.intercalate ((x ++ sep ++ y) :: rest) = sep.intercalate (x :: y :: rest) := by
  rw [List.intercalate_cons_cons]
  cases rest with
  | nil => simp
  | cons z rest => simp [List.intercalate_cons_cons]

/-- Pieces may be joined in two parts. -/
theorem intercalate_append_cons {α : Type} (sep : List α) {xs : List (List α)} (h : xs ≠ [])
    (y : List α) (ys : List (List α)) :
    sep.intercalate (xs ++ y :: ys) = sep.intercalate ((sep.intercalate xs ++ sep ++ y) :: ys) := by
  induction xs with
  | nil => exact absurd rfl h
  | cons x xs ih =>
    cases xs with
    | nil =>
      rw [List.intercalate_singleton]
      exact (intercalate_join_cons sep x y ys).symm
    | cons x' xs =>
      calc sep.intercalate (x :: x' :: xs ++ y :: ys)
        _ = x ++ sep ++ sep.intercalate (x' :: xs ++ y :: ys) := List.intercalate_cons_cons
        _ = x ++ sep ++ sep.intercalate ((sep.intercalate (x' :: xs) ++ sep ++ y) :: ys) := by
          rw [ih (List.cons_ne_nil _ _)]
        _ = sep.intercalate (x :: (sep.intercalate (x' :: xs) ++ sep ++ y) :: ys) :=
          List.intercalate_cons_cons.symm
        _ = sep.intercalate ((x ++ sep ++ (sep.intercalate (x' :: xs) ++ sep ++ y)) :: ys) :=
          (intercalate_join_cons ..).symm
        _ = sep.intercalate ((sep.intercalate (x :: x' :: xs) ++ sep ++ y) :: ys) := by
          rw [List.intercalate_cons_cons]
          simp only [List.append_assoc]

theorem mem_of_mem_intercalate {α : Type} {sep : List α} {pieces : List (List α)} {a : α}
    (h : a ∈ sep.intercalate pieces) : a ∈ sep ∨ ∃ piece ∈ pieces, a ∈ piece := by
  induction pieces with
  | nil => cases h
  | cons piece rest ih =>
    cases rest with
    | nil =>
      rw [List.intercalate_singleton] at h
      exact Or.inr ⟨piece, List.mem_cons_self, h⟩
    | cons next rest =>
      rw [List.intercalate_cons_cons, List.mem_append, List.mem_append] at h
      rcases h with (h | h) | h
      · exact Or.inr ⟨piece, List.mem_cons_self, h⟩
      · exact Or.inl h
      · exact (ih h).imp_right fun ⟨other, hmem, ha⟩ => ⟨other, List.mem_cons_of_mem _ hmem, ha⟩

namespace Guard

/-! ## Words -/

/-- No blank stands in an identifier. -/
theorem insideIdentifier_of_isBlank {c : Char} (h : Text.isBlank c = true) :
    insideIdentifier c = false := by
  have hblanks : ∀ code ∈ [0x9, 0xA, 0xB, 0xC, 0xD, 0x20, 0x85, 0xA0, 0x1680, 0x2000, 0x2001,
      0x2002, 0x2003, 0x2004, 0x2005, 0x2006, 0x2007, 0x2008, 0x2009, 0x200A, 0x2028, 0x2029,
      0x202F, 0x205F, 0x3000], insideIdentifier (Char.ofNat code) = false := by
    decide +kernel
  rw [← Char.ofNat_toNat c]
  apply hblanks
  simp only [Text.isBlank, Bool.or_eq_true, Bool.and_eq_true, decide_eq_true_eq, beq_iff_eq] at h
  simp only [List.mem_cons, List.not_mem_nil, or_false]
  omega

/-- A piece that the reader of a text leaves as it is: no dot cuts it, and no blank is cut off. -/
structure IsWhole (piece : List Char) : Prop where
  ne_nil : piece ≠ []
  noDot : '.' ∉ piece
  noBlank : ∀ c ∈ piece, Text.isBlank c = false

theorem isWhole_of_isIdentifier {piece : List Char} (h : isIdentifier piece = true) :
    IsWhole piece := by
  cases piece with
  | nil => cases h
  | cons c rest =>
    have hinside : ∀ d ∈ c :: rest, insideIdentifier d = true := by
      rw [isIdentifier, Bool.and_eq_true, List.all_eq_true] at h
      intro d hd
      rcases List.mem_cons.mp hd with rfl | hd
      · rw [insideIdentifier, h.1, Bool.true_or]
      · exact h.2 d hd
    refine ⟨List.cons_ne_nil _ _, ?_, ?_⟩
    · intro hdot
      have hno : insideIdentifier '.' = false := by decide +kernel
      exact absurd (hinside '.' hdot) (by simp [hno])
    · intro d hd
      by_contra hblank
      have hno := insideIdentifier_of_isBlank (by simpa using hblank)
      exact absurd (hinside d hd) (by simp [hno])

/-- An identifier that is no keyword. -/
structure Word where
  chars : List Char
  isIdentifier : isIdentifier chars = true
  ne_this : chars ≠ "this".toList
  ne_class : chars ≠ "class".toList

/-- The word as a text. -/
def Word.text (word : Word) : String := String.ofList word.chars

/-- A text of the given pieces, with dots between them. -/
def joined (pieces : List (List Char)) : String := String.ofList (['.'].intercalate pieces)

/-! ## Phrases -/

/-- A text of the language of guards, word by word. -/
inductive Phrase
  /-- A chain of names: `a.b.c`. -/
  | names (first : Word) (rest : List Word)
  /-- A chain that goes out from the current object: `this.a.b`. -/
  | this (fields : List Word)
  /-- A chain that goes out from an object around the current one: `Outer.Inner.this.a`. -/
  | around (first : Word) (rest fields : List Word)
  /-- A class object: `Outer.Inner.class`. -/
  | classObject (first : Word) (rest : List Word)

namespace Phrase

/-- The pieces of the text. -/
def pieces : Phrase → List (List Char)
  | names first rest => (first :: rest).map (·.chars)
  | this fields => "this".toList :: fields.map (·.chars)
  | around first rest fields =>
    (first :: rest).map (·.chars) ++ "this".toList :: fields.map (·.chars)
  | classObject first rest => (first :: rest).map (·.chars) ++ ["class".toList]

/-- Fields to be selected one after the other, all at one place. -/
def steps (span : Span) (fields : List Word) : List (String × Span) :=
  fields.map fun field => (field.text, span)

/-- The expression that the text stands for, with every node at one place. -/
def expr (span : Span) : Phrase → Expr
  | names first rest => (Expr.name first.text span).along (steps span rest)
  | this fields => (Expr.this span).along (steps span fields)
  | around first rest fields =>
    (Expr.qualifiedThis (joined ((first :: rest).map (·.chars))) span).along (steps span fields)
  | classObject first rest => .classLit (joined ((first :: rest).map (·.chars))) span

end Phrase

/-! ## What a phrase reads as -/

theorem isWhole_of_mem_pieces {phrase : Phrase} {piece : List Char} (h : piece ∈ phrase.pieces) :
    IsWhole piece := by
  have hword : ∀ words : List Word, piece ∈ words.map (·.chars) → IsWhole piece := by
    intro words hmem
    obtain ⟨word, -, rfl⟩ := List.mem_map.mp hmem
    exact isWhole_of_isIdentifier word.isIdentifier
  have hthis : IsWhole "this".toList := isWhole_of_isIdentifier (by decide +kernel)
  have hclass : IsWhole "class".toList := isWhole_of_isIdentifier (by decide +kernel)
  cases phrase with
  | names first rest => exact hword _ h
  | this fields =>
    rcases List.mem_cons.mp h with rfl | h
    · exact hthis
    · exact hword _ h
  | around first rest fields =>
    rcases List.mem_append.mp h with h | h
    · exact hword _ h
    · rcases List.mem_cons.mp h with rfl | h
      · exact hthis
      · exact hword _ h
  | classObject first rest =>
    rcases List.mem_append.mp h with h | h
    · exact hword _ h
    · cases List.mem_singleton.mp h
      exact hclass

theorem pieces_ne_nil (phrase : Phrase) : phrase.pieces ≠ [] := by
  cases phrase <;> simp [Phrase.pieces]

/-- A text of whole pieces is cut into these pieces. -/
theorem pieces_joined {parts : List (List Char)} (hne : parts ≠ [])
    (h : ∀ piece ∈ parts, IsWhole piece) : pieces (joined parts).toList = parts := by
  have hblank : ∀ c ∈ ['.'].intercalate parts, Text.isBlank c = false := by
    intro c hc
    rcases mem_of_mem_intercalate hc with hc | ⟨piece, hpiece, hc⟩
    · cases List.mem_singleton.mp hc
      rfl
    · exact (h piece hpiece).noBlank c hc
  have htrim : parts.map Text.trim = parts := by
    refine (List.map_congr_left fun piece hpiece => ?_).trans (List.map_id parts)
    exact Text.trim_eq_self (h piece hpiece).noBlank
  have hcut : (['.'].intercalate parts).splitOn '.' = parts :=
    List.splitOn_intercalate '.' (fun piece hpiece => (h piece hpiece).noDot) hne
  rw [pieces, joined, String.toList_ofList, Text.trim_eq_self hblank, Text.segments_eq_splitOn, hcut,
    htrim]

/-- A chain of fields reads as its pieces with dots between them. -/
theorem toList_text_along (e : Expr) (span : Span) (fields : List Word) :
    (e.along (Phrase.steps span fields)).text.toList =
      ['.'].intercalate (e.text.toList :: fields.map (·.chars)) := by
  induction fields generalizing e with
  | nil => rw [List.map_nil, List.intercalate_singleton]; rfl
  | cons field rest ih =>
    have hselect : (Expr.select e field.text span).text.toList =
        e.text.toList ++ ['.'] ++ field.chars := by
      simp [Expr.text, Word.text]
    rw [List.map_cons, ← intercalate_join_cons, ← hselect]
    exact ih (.select e field.text span)

/-- The expression of a phrase reads as the phrase. -/
theorem text_expr (span : Span) (phrase : Phrase) :
    (phrase.expr span).text = joined phrase.pieces := by
  have htoList : ∀ e : Expr, ∀ parts, e.text.toList = ['.'].intercalate parts →
      e.text = joined parts := by
    intro e parts h
    rw [joined, ← h, String.ofList_toList]
  apply htoList
  cases phrase with
  | names first rest =>
    rw [Phrase.expr, toList_text_along, Phrase.pieces, List.map_cons, Expr.text, Word.text,
      String.toList_ofList]
  | this fields =>
    rw [Phrase.expr, toList_text_along]
    rfl
  | around first rest fields =>
    rw [Phrase.expr, toList_text_along, Phrase.pieces,
      intercalate_append_cons _ (by simp)]
    simp [Expr.text, joined]
  | classObject first rest =>
    rw [Phrase.expr, Phrase.pieces, intercalate_append_cons _ (by simp)]
    simp [Expr.text, joined, List.intercalate_singleton]

/-- Whatever has been read of a chain of names is the dotted name that it reads as. -/
theorem dottedName?_names (span : Span) (first : Word) (rest : List Word) :
    ((Phrase.names first rest).expr span).dottedName? =
      some (joined ((first :: rest).map (·.chars))) := by
  have halong : ∀ (fields : List Word) (e : Expr), e.dottedName? = some e.text →
      (e.along (Phrase.steps span fields)).dottedName? =
        some (e.along (Phrase.steps span fields)).text := by
    intro fields
    induction fields with
    | nil => exact fun e h => h
    | cons field fields ih =>
      intro e h
      apply ih (.select e field.text span)
      rw [Expr.dottedName?, h, Expr.text]
      rfl
  have hname := halong rest (.name first.text span) rfl
  have htext := text_expr span (.names first rest)
  unfold Phrase.expr at htext ⊢
  rw [hname, htext, Phrase.pieces]

/-! ## Reading piece by piece -/

section

variable (span : Span)

/-- A piece is a keyword, a word, or nothing that the language has. -/
theorem piece_cases (piece : List Char) :
    piece = "this".toList ∨ piece = "class".toList ∨ (∃ word : Word, word.chars = piece) ∨
      (piece ≠ "this".toList ∧ piece ≠ "class".toList ∧ isIdentifier piece = false) := by
  by_cases hthis : piece = "this".toList
  · exact Or.inl hthis
  · by_cases hclass : piece = "class".toList
    · exact Or.inr (Or.inl hclass)
    · cases hid : isIdentifier piece with
      | true => exact Or.inr (Or.inr (Or.inl ⟨⟨piece, hid, hthis, hclass⟩, rfl⟩))
      | false => exact Or.inr (Or.inr (Or.inr ⟨hthis, hclass, rfl⟩))

theorem readPieces_this (chain : Chain) (rest : List (List Char)) :
    readPieces span chain ("this".toList :: rest) =
      match chain with
      | .nothing => readPieces span (.object (.this span)) rest
      | .names e => readPieces span (.object (.qualifiedThis (e.dottedName?.getD "") span)) rest
      | .object _ => .error .misplacedThis := by
  cases chain <;> rw [readPieces, if_pos rfl]

theorem readPieces_class (chain : Chain) (rest : List (List Char)) :
    readPieces span chain ("class".toList :: rest) =
      match chain with
      | .names e =>
        if rest.isEmpty then .ok (.classLit (e.dottedName?.getD "") span) else .error .afterClass
      | _ => .error .misplacedClass := by
  cases chain <;> rw [readPieces, if_neg (by decide), if_pos rfl]

theorem readPieces_word (chain : Chain) (word : Word) (rest : List (List Char)) :
    readPieces span chain (word.chars :: rest) =
      readPieces span (chain.push word.text span) rest := by
  cases chain <;>
    rw [readPieces, if_neg word.ne_this, if_neg word.ne_class, if_pos word.isIdentifier] <;> rfl

theorem readPieces_other (chain : Chain) {piece : List Char} (hthis : piece ≠ "this".toList)
    (hclass : piece ≠ "class".toList) (hid : isIdentifier piece = false) (rest : List (List Char)) :
    readPieces span chain (piece :: rest) = .error (.unexpected (String.ofList piece)) := by
  cases chain <;> rw [readPieces, if_neg hthis, if_neg hclass, if_neg (by simp [hid])]

theorem readPieces_names_words (e : Expr) (words : List Word) (rest : List (List Char)) :
    readPieces span (.names e) (words.map (·.chars) ++ rest) =
      readPieces span (.names (e.along (Phrase.steps span words))) rest := by
  induction words generalizing e with
  | nil => rfl
  | cons word words ih =>
    rw [List.map_cons, List.cons_append, readPieces_word]
    exact ih (.select e word.text span)

theorem readPieces_object_words (e : Expr) (words : List Word) :
    readPieces span (.object e) (words.map (·.chars)) =
      .ok (e.along (Phrase.steps span words)) := by
  induction words generalizing e with
  | nil => rfl
  | cons word words ih =>
    rw [List.map_cons, readPieces_word]
    exact ih (.select e word.text span)

/-- A chain of names is read as far as it goes. -/
theorem readPieces_words (first : Word) (words : List Word) (rest : List (List Char)) :
    readPieces span .nothing ((first :: words).map (·.chars) ++ rest) =
      readPieces span (.names ((Phrase.names first words).expr span)) rest := by
  rw [List.map_cons, List.cons_append, readPieces_word]
  exact readPieces_names_words span (.name first.text span) words rest

/-- Every phrase is read, as the expression that it stands for. -/
theorem readPieces_phrase (phrase : Phrase) :
    readPieces span .nothing phrase.pieces = .ok (phrase.expr span) := by
  cases phrase with
  | names first rest =>
    have hread := readPieces_words span first rest []
    rw [List.append_nil] at hread
    exact hread
  | this fields =>
    rw [Phrase.pieces, readPieces_this]
    exact readPieces_object_words span (.this span) fields
  | around first rest fields =>
    rw [Phrase.pieces, readPieces_words, readPieces_this]
    dsimp only
    rw [dottedName?_names, Option.getD_some]
    exact readPieces_object_words span _ fields
  | classObject first rest =>
    rw [Phrase.pieces, readPieces_words, readPieces_class]
    dsimp only
    rw [dottedName?_names]
    rfl

variable {span}

/-- Behind `this` only fields can be read. -/
theorem words_of_readPieces_object {e result : Expr} {pieces : List (List Char)}
    (h : readPieces span (.object e) pieces = .ok result) :
    ∃ words : List Word, pieces = words.map (·.chars) ∧
      result = e.along (Phrase.steps span words) := by
  induction pieces generalizing e with
  | nil =>
    cases h
    exact ⟨[], rfl, rfl⟩
  | cons piece rest ih =>
    rcases piece_cases piece with rfl | rfl | ⟨word, rfl⟩ | ⟨hthis, hclass, hid⟩
    · rw [readPieces_this] at h
      cases h
    · rw [readPieces_class] at h
      cases h
    · rw [readPieces_word] at h
      obtain ⟨words, rfl, rfl⟩ := ih h
      exact ⟨word :: words, rfl, rfl⟩
    · rw [readPieces_other span _ hthis hclass hid] at h
      cases h

/-- What is read behind a chain of names makes a phrase with it. The induction is on what is left to
read; the names that have been read grow meanwhile. -/
theorem phrase_of_readPieces_names {first : Word} {words : List Word} {result : Expr}
    {pieces : List (List Char)}
    (h : readPieces span (.names ((Phrase.names first words).expr span)) pieces = .ok result) :
    ∃ phrase : Phrase, (first :: words).map (·.chars) ++ pieces = phrase.pieces ∧
      phrase.expr span = result := by
  induction pieces generalizing words with
  | nil =>
    cases h
    exact ⟨.names first words, List.append_nil _, rfl⟩
  | cons piece rest ih =>
    rcases piece_cases piece with rfl | rfl | ⟨word, rfl⟩ | ⟨hthis, hclass, hid⟩
    · rw [readPieces_this] at h
      dsimp only at h
      rw [dottedName?_names, Option.getD_some] at h
      obtain ⟨fields, rfl, rfl⟩ := words_of_readPieces_object h
      exact ⟨.around first words fields, rfl, rfl⟩
    · rw [readPieces_class] at h
      dsimp only at h
      rw [dottedName?_names, Option.getD_some] at h
      cases rest with
      | nil =>
        cases h
        exact ⟨.classObject first words, rfl, rfl⟩
      | cons next rest => cases h
    · rw [readPieces_word] at h
      have hgrown : (Phrase.names first (words ++ [word])).expr span =
          .select ((Phrase.names first words).expr span) word.text span := by
        simp [Phrase.expr, Phrase.steps]
      rw [Chain.push, ← hgrown] at h
      obtain ⟨phrase, hpieces, hexpr⟩ := ih h
      refine ⟨phrase, ?_, hexpr⟩
      rw [← hpieces]
      simp
    · rw [readPieces_other span _ hthis hclass hid] at h
      cases h

/-- Whatever is read is a phrase. -/
theorem phrase_of_readPieces {result : Expr} {pieces : List (List Char)}
    (h : readPieces span .nothing pieces = .ok result) :
    ∃ phrase : Phrase, pieces = phrase.pieces ∧ phrase.expr span = result := by
  cases pieces with
  | nil => cases h
  | cons piece rest =>
    rcases piece_cases piece with rfl | rfl | ⟨word, rfl⟩ | ⟨hthis, hclass, hid⟩
    · rw [readPieces_this] at h
      obtain ⟨fields, rfl, rfl⟩ := words_of_readPieces_object h
      exact ⟨.this fields, rfl, rfl⟩
    · rw [readPieces_class] at h
      cases h
    · rw [readPieces_word] at h
      have hfirst : readPieces span (.names ((Phrase.names word []).expr span)) rest = .ok result :=
        h
      exact phrase_of_readPieces_names hfirst
    · rw [readPieces_other span _ hthis hclass hid] at h
      cases h

end

/-! ## The nodes of what is read -/

/-- What holds of every node of an expression that is read from pieces. It stands at the place of the
text. If it names a class, the name is what stands in front of its keyword: one word or more, with
dots between them. -/
structure ReadFrom (span : Span) (pieces : List (List Char)) (node : Expr) : Prop where
  span_eq : node.span = span
  qualifiedThis : ∀ cls place, node = .qualifiedThis cls place →
    ∃ (names : List Word) (later : List (List Char)), names ≠ [] ∧
      pieces = names.map (·.chars) ++ "this".toList :: later ∧
      cls = joined (names.map (·.chars))
  classLit : ∀ cls place, node = .classLit cls place →
    ∃ names : List Word, names ≠ [] ∧ pieces = names.map (·.chars) ++ ["class".toList] ∧
      cls = joined (names.map (·.chars))

theorem occurrences_select (receiver : Expr) (name : String) (span : Span) (path : Path) :
    (Piece.expr (.select receiver name span)).occurrences path =
      (Piece.expr receiver).occurrences (.within :: path) ++ [⟨path, .select receiver name span⟩] := by
  rw [Piece.occurrences_eq]
  simp [Piece.parts, Piece.ofExpr, Piece.exprs, Piece.itself]

/-- What holds of every node of an expression and of every selection holds of every node of a chain
of fields behind the expression. -/
theorem forall_occurrences_along {holds : Expr → Prop} {span : Span}
    (hselect : ∀ receiver name, holds (.select receiver name span)) {e : Expr}
    (he : ∀ path, ∀ node ∈ (Piece.expr e).occurrences path, holds node.expr)
    (fields : List Word) (path : Path) :
    ∀ node ∈ (Piece.expr (e.along (Phrase.steps span fields))).occurrences path,
      holds node.expr := by
  induction fields generalizing e with
  | nil => exact he path
  | cons field fields ih =>
    apply ih (e := .select e field.text span)
    intro path node hnode
    rw [occurrences_select, List.mem_append, List.mem_singleton] at hnode
    rcases hnode with hnode | rfl
    · exact he _ node hnode
    · exact hselect e field.text

/-- A node that names no class only has to stand at the place of the text. -/
theorem readFrom_of_ne {span : Span} {pieces : List (List Char)} {node : Expr}
    (hspan : node.span = span) (hthis : ∀ cls place, node ≠ .qualifiedThis cls place)
    (hclass : ∀ cls place, node ≠ .classLit cls place) : ReadFrom span pieces node where
  span_eq := hspan
  qualifiedThis cls place h := absurd h (hthis cls place)
  classLit cls place h := absurd h (hclass cls place)

theorem readFrom_of_mem_occurrences (span : Span) (phrase : Phrase) (path : Path) :
    ∀ node ∈ (Piece.expr (phrase.expr span)).occurrences path,
      ReadFrom span phrase.pieces node.expr := by
  have hselect : ∀ receiver name, ReadFrom span phrase.pieces (.select receiver name span) :=
    fun _ _ => readFrom_of_ne rfl nofun nofun
  -- A node without parts is all that there is of it.
  have hleaf : ∀ e : Expr, Piece.ofExpr e = [] → ReadFrom span phrase.pieces e →
      ∀ path, ∀ node ∈ (Piece.expr e).occurrences path, ReadFrom span phrase.pieces node.expr := by
    intro e hparts he path node hnode
    rw [Piece.occurrences_eq, Piece.parts, hparts] at hnode
    cases List.mem_singleton.mp hnode
    exact he
  cases phrase with
  | names first rest =>
    have hstart : ReadFrom span (Phrase.names first rest).pieces (.name first.text span) :=
      readFrom_of_ne rfl nofun nofun
    exact forall_occurrences_along hselect (hleaf _ rfl hstart) rest path
  | this fields =>
    have hstart : ReadFrom span (Phrase.this fields).pieces (.this span) :=
      readFrom_of_ne rfl nofun nofun
    exact forall_occurrences_along hselect (hleaf _ rfl hstart) fields path
  | around first rest fields =>
    have hstart : ReadFrom span (Phrase.around first rest fields).pieces
        (.qualifiedThis (joined ((first :: rest).map (·.chars))) span) := by
      refine ⟨rfl, ?_, nofun⟩
      rintro cls place ⟨⟩
      exact ⟨first :: rest, _, List.cons_ne_nil _ _, rfl, rfl⟩
    exact forall_occurrences_along hselect (hleaf _ rfl hstart) fields path
  | classObject first rest =>
    have hstart : ReadFrom span (Phrase.classObject first rest).pieces
        (.classLit (joined ((first :: rest).map (·.chars))) span) := by
      refine ⟨rfl, nofun, ?_⟩
      rintro cls place ⟨⟩
      exact ⟨first :: rest, List.cons_ne_nil _ _, rfl, rfl⟩
    exact hleaf _ rfl hstart path

/-! ## Reading a text -/

/-- A text of nothing but blanks is one empty piece, which is no word, so it needs no rule of its
own. -/
theorem read_eq_ok_iff {text : String} {span : Span} {e : Expr} :
    read text span = .ok e ↔ readPieces span .nothing (pieces text.toList) = .ok e := by
  unfold read
  dsimp only
  by_cases hempty : (Text.trim text.toList).isEmpty = true
  · have hpieces : pieces text.toList = [[]] := by
      rw [pieces, List.isEmpty_iff.mp hempty]
      rfl
    rw [if_pos hempty, hpieces]
    constructor
    · intro h
      cases h
    · intro h
      cases h
  · rw [if_neg hempty]
    cases readPieces span .nothing (pieces text.toList) with
    | ok result =>
      constructor
      · intro h
        cases h
        rfl
      · intro h
        cases h
        rfl
    | error why =>
      constructor
      · intro h
        cases h
      · intro h
        cases h

theorem exists_malformation_of_read {text : String} {span : Span} {error : GuardError}
    (h : read text span = .error error) : ∃ why, error = .malformed text why span := by
  unfold read at h
  dsimp only at h
  split at h
  · cases h
    exact ⟨_, rfl⟩
  · cases hread : readPieces span .nothing (pieces text.toList) with
    | ok result =>
      rw [hread] at h
      cases h
    | error why =>
      rw [hread] at h
      cases h
      exact ⟨why, rfl⟩

theorem read_eq_ok_iff_phrase {text : String} {span : Span} {e : Expr} :
    read text span = .ok e ↔
      ∃ phrase : Phrase, pieces text.toList = phrase.pieces ∧ phrase.expr span = e := by
  rw [read_eq_ok_iff]
  constructor
  · exact phrase_of_readPieces
  · rintro ⟨phrase, hpieces, rfl⟩
    rw [hpieces]
    exact readPieces_phrase span phrase

/-- A text is read as an expression exactly if its pieces, between the dots and without the blanks
around the text and around each of them, are those of a phrase, and then as the expression that the
phrase stands for; any other text is malformed. What is read is written as the pieces with dots
between them, every node of it stands at the place of the text and names no class but the one in
front of its keyword, and what is written is read as the same expression again. -/
theorem the_reader_takes_the_language_of_guards (text : String) (span : Span) :
    let parts := ((Text.trim text.toList).splitOn '.').map Text.trim
    (∀ e, read text span = .ok e ↔
        ∃ phrase : Phrase, parts = phrase.pieces ∧ phrase.expr span = e) ∧
      ((¬ ∃ phrase : Phrase, parts = phrase.pieces) ↔
        ∃ why, read text span = .error (.malformed text why span)) ∧
      ∀ e, read text span = .ok e →
        e.text = joined parts ∧
        (∀ node ∈ (Piece.expr e).occurrences [], ReadFrom span parts node.expr) ∧
        read e.text span = .ok e := by
  intro parts
  have hparts : pieces text.toList = parts := by
    rw [pieces, Text.segments_eq_splitOn]
  have hread : ∀ e, read text span = .ok e ↔
      ∃ phrase : Phrase, parts = phrase.pieces ∧ phrase.expr span = e := by
    intro e
    rw [← hparts]
    exact read_eq_ok_iff_phrase
  refine ⟨hread, ?_, ?_⟩
  · constructor
    · intro hno
      cases h : read text span with
      | ok e =>
        obtain ⟨phrase, hphrase, -⟩ := (hread e).mp h
        exact absurd ⟨phrase, hphrase⟩ hno
      | error error =>
        obtain ⟨why, rfl⟩ := exists_malformation_of_read h
        exact ⟨why, rfl⟩
    · rintro ⟨why, herror⟩ ⟨phrase, hphrase⟩
      rw [(hread (phrase.expr span)).mpr ⟨phrase, hphrase, rfl⟩] at herror
      cases herror
  · intro e he
    obtain ⟨phrase, hphrase, rfl⟩ := (hread e).mp he
    rw [hphrase, text_expr]
    refine ⟨rfl, readFrom_of_mem_occurrences span phrase [], ?_⟩
    rw [read_eq_ok_iff_phrase,
      pieces_joined (pieces_ne_nil phrase) (fun piece => isWhole_of_mem_pieces)]
    exact ⟨phrase, rfl, rfl⟩

end Guard

namespace Nested

/-- The word `Outer`. -/
def outerWord : Guard.Word := ⟨"Outer".toList, by decide +kernel, by decide, by decide⟩

def muWord : Guard.Word := ⟨"mu".toList, by decide +kernel, by decide, by decide⟩

/-- The field `mu` of the object of `Outer` around the current one. -/
def theMuAround : Guard.Phrase := .around outerWord [] [muWord]

theorem the_mu_of_the_outer_object_is_read_and_read_again :
    let text := " Outer. this .mu "
    let e : Expr := .select (.qualifiedThis "Outer" Span.unknown) "mu" Span.unknown
    ((Text.trim text.toList).splitOn '.').map Text.trim = theMuAround.pieces ∧
      Guard.read text Span.unknown = .ok e ∧ e.text = "Outer.this.mu" ∧
      Guard.read e.text Span.unknown = .ok e := by
  intro text e
  have hparts : ((Text.trim text.toList).splitOn '.').map Text.trim = theMuAround.pieces := by
    decide +kernel
  obtain ⟨hread, -, hback⟩ := Guard.the_reader_takes_the_language_of_guards text Span.unknown
  have he : Guard.read text Span.unknown = .ok e := (hread e).mpr ⟨theMuAround, hparts, rfl⟩
  obtain ⟨-, -, hagain⟩ := hback e he
  exact ⟨hparts, he, by decide +kernel, hagain⟩

end Nested

end LockDiscipline
