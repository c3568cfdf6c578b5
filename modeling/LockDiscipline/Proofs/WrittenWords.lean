-- The words of a text come back one by one if the text holds them as the writer writes them, with
-- any gaps around them. A string may hold any characters, and a number ends where its digits end,
-- so only two numbers need a gap between them.
import LockDiscipline.Json.Token
import LockDiscipline.Json.Writer
import Mathlib.Algebra.Group.Nat.Defs
import Mathlib.Data.List.Basic

namespace LockDiscipline.Json

/-! ## Strings -/

namespace Piece

/-- The piece stands for a character, whatever is next to it. -/
def StandsFor (piece : Piece) (c : Char) : Prop :=
  ∀ pieces, chars? (piece :: pieces) = (chars? pieces).map (c :: ·)

theorem standsFor_char (c : Char) : (char c).StandsFor c := by
  intro pieces
  rw [chars?]

/-- A control character is no half of a character. -/
theorem standsFor_unit {c : Char} (h : c.toNat < 0x20) : (unit c.toNat).StandsFor c := by
  have hhigh : isHigh c.toNat = false := by
    unfold isHigh
    simp only [Bool.and_eq_false_iff, decide_eq_false_iff_not]
    omega
  have hlow : isLow c.toNat = false := by
    unfold isLow
    simp only [Bool.and_eq_false_iff, decide_eq_false_iff_not]
    omega
  intro pieces
  cases pieces with
  | nil => simp [chars?, hhigh, hlow]
  | cons piece rest => cases piece <;> simp [chars?, hhigh, hlow]

theorem hexUnit?_control : ∀ n < 0x20,
    hexUnit? '0' '0' (Nat.digitChar (n / 16)) (Nat.digitChar (n % 16)) = some n := by
  decide

end Piece

/-- A character is escaped by a letter, or by its digits if it is a control character, or it stands
for itself. -/
theorem escapedChar_cases (c : Char) :
    (∃ letter, letter ≠ 'u' ∧ Piece.escaped? letter = some c ∧ escapedChar c = ['\\', letter]) ∨
      (c.toNat < 0x20 ∧ escapedChar c =
        ['\\', 'u', '0', '0', Nat.digitChar (c.toNat / 16), Nat.digitChar (c.toNat % 16)]) ∨
      (0x20 ≤ c.toNat ∧ c ≠ '"' ∧ c ≠ '\\' ∧ escapedChar c = [c]) := by
  unfold escapedChar
  split_ifs with hquote hslash hb hf hn hr ht hcontrol
  · exact Or.inl ⟨'"', by decide, hquote.symm ▸ rfl, rfl⟩
  · exact Or.inl ⟨'\\', by decide, hslash.symm ▸ rfl, rfl⟩
  · exact Or.inl ⟨'b', by decide, hb ▸ rfl, rfl⟩
  · exact Or.inl ⟨'f', by decide, hf ▸ rfl, rfl⟩
  · exact Or.inl ⟨'n', by decide, hn ▸ rfl, rfl⟩
  · exact Or.inl ⟨'r', by decide, hr ▸ rfl, rfl⟩
  · exact Or.inl ⟨'t', by decide, ht ▸ rfl, rfl⟩
  · exact Or.inr (Or.inl ⟨hcontrol, rfl⟩)
  · exact Or.inr (Or.inr ⟨Nat.le_of_not_lt hcontrol, hquote, hslash, rfl⟩)

/-- A character as the writer writes it is read as one piece that stands for it. -/
theorem exists_piece (c : Char) :
    ∃ piece : Piece, piece.StandsFor c ∧
      ∀ read rest, scanString read (escapedChar c ++ rest) = scanString (piece :: read) rest := by
  rcases escapedChar_cases c with ⟨letter, hu, hletter, htext⟩ | ⟨hcontrol, htext⟩ |
    ⟨hplain, hquote, hslash, htext⟩
  · refine ⟨.char c, Piece.standsFor_char c, ?_⟩
    intro read rest
    rw [htext]
    simp [scanString, hletter, hu]
  · refine ⟨.unit c.toNat, Piece.standsFor_unit hcontrol, ?_⟩
    intro read rest
    rw [htext]
    simp [scanString, Piece.hexUnit?_control c.toNat hcontrol]
  · refine ⟨.char c, Piece.standsFor_char c, ?_⟩
    intro read rest
    rw [htext]
    simp [scanString, hslash, Nat.not_lt.mpr hplain]

/-- The characters of a string are read as pieces that stand for them. -/
theorem exists_pieces (chars : List Char) :
    ∃ pieces : List Piece, Piece.chars? pieces = some chars ∧
      ∀ read rest, scanString read (chars.flatMap escapedChar ++ rest) =
        scanString (pieces.reverse ++ read) rest := by
  induction chars with
  | nil => exact ⟨[], rfl, fun _ _ => rfl⟩
  | cons c chars ih =>
    obtain ⟨piece, hstands, hscan⟩ := exists_piece c
    obtain ⟨pieces, hchars, hrest⟩ := ih
    refine ⟨piece :: pieces, ?_, ?_⟩
    · rw [hstands, hchars]
      rfl
    · intro read rest
      rw [List.flatMap_cons, List.append_assoc, hscan, hrest]
      simp

theorem scanString_chars (chars rest : List Char) :
    ∃ pieces, Piece.chars? pieces = some chars ∧
      scanString [] (chars.flatMap escapedChar ++ '"' :: rest) = some (pieces, rest) := by
  obtain ⟨pieces, hchars, hscan⟩ := exists_pieces chars
  refine ⟨pieces, hchars, ?_⟩
  rw [hscan, scanString]
  simp

/-! ## Numbers -/

/-- A digit, a point or an exponent would go on with a number. -/
def continuesNumber (c : Char) : Bool := c.isDigit || c == '.' || c == 'e' || c == 'E'

/-- The text does not go on with a number before it. -/
def EndsNumber (text : List Char) : Prop := ∀ c ∈ text.head?, continuesNumber c = false

namespace Numeral

theorem digitsValue_toDigits (n : Nat) : digitsValue (Nat.toDigits 10 n) = n := by
  have hdigits := Nat.ofDigitChars_ten_toDigits (n := n)
  rw [Nat.ofDigitChars_eq_foldl] at hdigits
  unfold digitsValue digitValue
  simpa [Nat.mul_comm] using hdigits

theorem isDigit_of_mem_toDigits {n : Nat} {c : Char} (h : c ∈ Nat.toDigits 10 n) :
    c.isDigit = true := Nat.isDigit_of_mem_toDigits (by decide) (by decide) h

theorem toDigits_eq_cons (n : Nat) :
    ∃ first digits, Nat.toDigits 10 n = first :: digits ∧ first.isDigit = true := by
  obtain ⟨first, digits, hdigits⟩ :=
    List.exists_cons_of_ne_nil (Nat.toDigits_ne_nil (b := 10) (n := n))
  refine ⟨first, digits, hdigits, isDigit_of_mem_toDigits (n := n) ?_⟩
  rw [hdigits]
  exact List.mem_cons_self

/-- Only the number zero begins with a zero. -/
theorem toDigits_eq_zero_cons {n : Nat} {rest : List Char} (h : Nat.toDigits 10 n = '0' :: rest) :
    rest = [] := by
  induction n using Nat.strongRecOn generalizing rest with
  | ind n ih =>
    by_cases hsmall : n < 10
    · rw [Nat.toDigits_of_lt_base hsmall] at h
      exact (List.cons.inj h).2.symm
    · rw [Nat.toDigits_of_base_le (by decide) (Nat.le_of_not_lt hsmall)] at h
      cases hfront : Nat.toDigits 10 (n / 10) with
      | nil => exact absurd hfront Nat.toDigits_ne_nil
      | cons c front =>
        -- The digits before the last one would be a zero alone.
        rw [hfront, List.cons_append, List.cons.injEq] at h
        rw [h.1] at hfront
        have hzero := digitsValue_toDigits (n / 10)
        rw [hfront, ih (n / 10) (by omega) hfront] at hzero
        have : n / 10 = 0 := hzero.symm
        omega

theorem scanDigits_toDigits (n : Nat) {rest : List Char} (h : EndsNumber rest) :
    scanDigits (Nat.toDigits 10 n ++ rest) = (Nat.toDigits 10 n, rest) := by
  have hall : ∀ c ∈ Nat.toDigits 10 n, c.isDigit = true := fun c hc => isDigit_of_mem_toDigits hc
  have hrest : rest.takeWhile Char.isDigit = [] ∧ rest.dropWhile Char.isDigit = rest := by
    cases rest with
    | nil => exact ⟨rfl, rfl⟩
    | cons c rest =>
      have hc : c.isDigit = false := by
        have hends := h c rfl
        unfold continuesNumber at hends
        simp only [Bool.or_eq_false_iff] at hends
        exact hends.1.1.1
      simp [hc]
  unfold scanDigits
  rw [List.takeWhile_append_of_pos hall, List.dropWhile_append_of_pos hall, hrest.1, hrest.2,
    List.append_nil]

/-- A written number is read to its end. -/
theorem scan_toDigits (n : Nat) {rest : List Char} (h : EndsNumber rest) :
    scan (Nat.toDigits 10 n ++ rest) =
      some (⟨false, Nat.toDigits 10 n, [], false, false, []⟩, rest) := by
  have hwhole : scanWhole (Nat.toDigits 10 n ++ rest) = some (Nat.toDigits 10 n, rest) := by
    unfold scanWhole
    rw [scanDigits_toDigits n h]
    split
    · rename_i hnil
      exact absurd (Prod.mk.inj hnil).1 Nat.toDigits_ne_nil
    · rename_i hzero
      cases toDigits_eq_zero_cons (Prod.mk.inj hzero).1
    · rfl
  have hnext : ∀ c more, rest = c :: more → c ≠ '.' ∧ c ≠ 'e' ∧ c ≠ 'E' := by
    rintro c more rfl
    have hc := h c rfl
    refine ⟨?_, ?_, ?_⟩ <;>
      · rintro rfl
        cases hc
  have hplaces : scanPlaces rest = some ([], rest) := by
    unfold scanPlaces
    split
    · exact absurd rfl (hnext _ _ rfl).1
    · rfl
  have hexponent : scanExponent rest = some (false, [], rest) := by
    unfold scanExponent
    split
    all_goals first
      | exact absurd rfl (hnext _ _ rfl).2.1
      | exact absurd rfl (hnext _ _ rfl).2.2
      | rfl
  obtain ⟨first, digits, hdigits, hfirst⟩ := toDigits_eq_cons n
  have hminus : first ≠ '-' := by
    rintro rfl
    cases hfirst
  rw [hdigits] at hwhole ⊢
  rw [List.cons_append] at hwhole ⊢
  unfold scan
  simp [hminus, hwhole, hplaces, hexponent]

end Numeral

/-! ## Words -/

namespace Token

/-- The word as the writer writes it. -/
def chars : Token → List Char
  | openArray => ['[']
  | closeArray => [']']
  | openObject => ['\x7b']
  | closeObject => ['\x7d']
  | comma => [',']
  | colon => [':']
  | null => ['n', 'u', 'l', 'l']
  | bool true => ['t', 'r', 'u', 'e']
  | bool false => ['f', 'a', 'l', 's', 'e']
  | number value => value.text.toList
  | string value => (stringText value).toList
  | fault => []

def isNumber : Token → Bool
  | number _ => true
  | _ => false

/-- The word is a word, its text has all its characters, and its number is a natural one below
`2 ^ 64`. -/
def IsPlain : Token → Prop
  | number (.natural n) => n < 2 ^ 64
  | number _ | fault | string none => False
  | _ => True

theorem chars_natural (n : Nat) : (number (.natural n)).chars = Nat.toDigits 10 n := by
  change (toString n).toList = _
  rw [Nat.toString_eq_ofList_toDigits, String.toList_ofList]

theorem chars_string (s : String) :
    (string (some s)).chars = '"' :: s.toList.flatMap escapedChar ++ ['"'] := by
  change (stringText (some s)).toList = _
  rw [stringText, String.toList_ofList]

/-- A word begins with a character that is no gap, and does not go on with a number before it unless
it is one. -/
theorem chars_eq_cons {word : Token} (h : word.IsPlain) :
    ∃ c more, word.chars = c :: more ∧ isGap c = false ∧
      (word.isNumber = false → continuesNumber c = false) := by
  cases word with
  | number value =>
    cases value with
    | natural n =>
      obtain ⟨first, digits, hdigits, hfirst⟩ := Numeral.toDigits_eq_cons n
      refine ⟨first, digits, by rw [chars_natural, hdigits], ?_, nofun⟩
      unfold isGap
      simp only [Bool.or_eq_false_iff, beq_eq_false_iff_ne]
      refine ⟨⟨⟨?_, ?_⟩, ?_⟩, ?_⟩ <;>
        · rintro rfl
          cases hfirst
    | _ => cases h
  | string value =>
    cases value with
    | none => cases h
    | some s => exact ⟨'"', _, chars_string s, rfl, fun _ => rfl⟩
  | fault => cases h
  | bool value => cases value <;> exact ⟨_, _, rfl, rfl, fun _ => rfl⟩
  | _ => exact ⟨_, _, rfl, rfl, fun _ => rfl⟩

end Token

theorem scanToken_digit {c : Char} (h : c.isDigit = true) (rest : List Char) :
    scanToken (c :: rest) =
      match Numeral.scan (c :: rest) with
      | some (numeral, rest) => (.number numeral.value, rest)
      | none => (.fault, []) := by
  unfold scanToken
  split
  all_goals first
    | rfl
    | rename_i heq
      rw [(List.cons.inj heq).1] at h
      cases h

/-- A word as the writer writes it is read as that word. -/
theorem scanToken_chars {word : Token} (h : word.IsPlain) {rest : List Char}
    (hrest : word.isNumber = true → EndsNumber rest) :
    scanToken (word.chars ++ rest) = (word, rest) := by
  cases word with
  | number value =>
    cases value with
    | natural n =>
      have hscan := Numeral.scan_toDigits n (hrest rfl)
      obtain ⟨first, digits, hdigits, hfirst⟩ := Numeral.toDigits_eq_cons n
      have hvalue := Numeral.digitsValue_toDigits n
      rw [Token.chars_natural]
      rw [hdigits] at hscan hvalue ⊢
      rw [List.cons_append] at hscan ⊢
      rw [scanToken_digit hfirst, hscan]
      have hlt : ¬ 18446744073709551616 ≤ n := Nat.not_le.mpr h
      simp [Numeral.value, hvalue, hlt]
    | _ => cases h
  | string value =>
    cases value with
    | none => cases h
    | some s =>
      obtain ⟨pieces, hpieces, hscan⟩ := scanString_chars s.toList rest
      rw [Token.chars_string, List.cons_append, List.cons_append, List.append_assoc,
        List.singleton_append]
      unfold scanToken
      simp [hscan, hpieces]
  | fault => cases h
  | bool value => cases value <;> rfl
  | _ => rfl

/-! ## Layouts -/

/-- The text holds the words with gaps around them. Two numbers do not stand next to one another. -/
inductive Layout : List Token → List Char → Prop
  | ending {gap : List Char} : (∀ c ∈ gap, isGap c = true) → Layout [] gap
  | word {gap : List Char} {word : Token} {words : List Token} {text : List Char} :
      (∀ c ∈ gap, isGap c = true) →
      (word.isNumber = true → ∀ next ∈ words.head?, next.isNumber = false) →
      Layout words text → Layout (word :: words) (gap ++ (word.chars ++ text))

namespace Layout

theorem endsNumber {words : List Token} {text : List Char} (h : Layout words text)
    (hplain : ∀ word ∈ words, word.IsPlain)
    (hnext : ∀ next ∈ words.head?, next.isNumber = false) : EndsNumber text := by
  have hgap : ∀ c, isGap c = true → continuesNumber c = false := by
    intro c hc
    unfold isGap at hc
    simp only [Bool.or_eq_true, beq_iff_eq] at hc
    rcases hc with ((rfl | rfl) | rfl) | rfl <;> rfl
  intro c hc
  cases h with
  | ending hall => exact hgap c (hall c (List.mem_of_mem_head? hc))
  | @word gap word words text hall _ _ =>
    cases gap with
    | cons first gap =>
      cases hc
      exact hgap c (hall c List.mem_cons_self)
    | nil =>
      obtain ⟨first, more, hchars, -, hfirst⟩ :=
        Token.chars_eq_cons (hplain word List.mem_cons_self)
      rw [List.nil_append, hchars] at hc
      cases hc
      exact hfirst (hnext word rfl)

theorem tokensWithin_eq {words : List Token} {text : List Char} (h : Layout words text)
    (hplain : ∀ word ∈ words, word.IsPlain) {fuel : Nat} (hfuel : text.length ≤ fuel) :
    tokensWithin fuel text = words := by
  induction h generalizing fuel with
  | @ending gap hall =>
    cases fuel with
    | zero => rfl
    | succ fuel =>
      have hdrop : (gap ++ []).dropWhile isGap = [] := List.dropWhile_append_of_pos hall
      rw [List.append_nil] at hdrop
      rw [tokensWithin, hdrop]
  | @word gap word words text hall hnext hrest ih =>
    obtain ⟨first, more, hchars, hfirst, -⟩ := Token.chars_eq_cons (hplain word List.mem_cons_self)
    have hwords : ∀ word ∈ words, word.IsPlain := fun w hw => hplain w (List.mem_cons_of_mem _ hw)
    have hdrop : (gap ++ (word.chars ++ text)).dropWhile isGap = first :: (more ++ text) := by
      rw [List.dropWhile_append_of_pos hall, hchars, List.cons_append, List.dropWhile_cons_of_neg]
      simp [hfirst]
    have hscan : scanToken (word.chars ++ text) = (word, text) :=
      scanToken_chars (hplain word List.mem_cons_self) fun hnumber =>
        hrest.endsNumber hwords (hnext hnumber)
    rw [hchars, List.cons_append] at hscan
    rw [List.length_append, List.length_append, hchars, List.length_cons] at hfuel
    cases fuel with
    | zero => omega
    | succ fuel =>
      rw [tokensWithin, hdrop]
      dsimp only
      rw [hscan]
      dsimp only
      rw [ih hwords (by omega)]

end Layout

/-- A text that holds words is read as these words. -/
theorem tokens_of_layout {words : List Token} {text : String} (h : Layout words text.toList)
    (hplain : ∀ word ∈ words, word.IsPlain) : tokens text = words :=
  h.tokensWithin_eq hplain (Nat.le_refl _)

end LockDiscipline.Json
