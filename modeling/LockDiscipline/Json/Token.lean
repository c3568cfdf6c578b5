-- The words of a JSON text: brackets, separators, and the values without parts.
import LockDiscipline.Json.Tree

namespace LockDiscipline.Json

/-! ## Tokens -/

/-- A word of a JSON text. -/
inductive Token
  | openArray
  | closeArray
  | openObject
  | closeObject
  | comma
  | colon
  | null
  | bool (value : Bool)
  | number (value : Number)
  | string (value : Text)
  /-- What is no word; nothing behind it is read. -/
  | fault
  deriving DecidableEq, Repr, Inhabited

/-! ## Strings -/

/-- A piece of a string: a character that stands for itself or is escaped by a letter, or a unit of
sixteen bits that is escaped by its digits. -/
inductive Piece
  | char (c : Char)
  | unit (n : Nat)
  deriving DecidableEq, Repr

namespace Piece

/-- The value of a hexadecimal digit. -/
def hexValue? (c : Char) : Option Nat :=
  if '0' ≤ c && c ≤ '9' then some (c.toNat - '0'.toNat)
  else if 'a' ≤ c && c ≤ 'f' then some (c.toNat - 'a'.toNat + 10)
  else if 'A' ≤ c && c ≤ 'F' then some (c.toNat - 'A'.toNat + 10)
  else none

/-- The unit that four hexadecimal digits give. -/
def hexUnit? (a b c d : Char) : Option Nat := do
  let first := (← hexValue? a) * 16 + (← hexValue? b)
  let last := (← hexValue? c) * 16 + (← hexValue? d)
  return first * 256 + last

/-- The character that a letter behind a backslash stands for. -/
def escaped? (c : Char) : Option Char :=
  match c with
  | '"' => some '"'
  | '\\' => some '\\'
  | '/' => some '/'
  | 'b' => some '\x08'
  | 'f' => some '\x0c'
  | 'n' => some '\n'
  | 'r' => some '\r'
  | 't' => some '\t'
  | _ => none

/-- Whether a unit is the first half of a character. -/
def isHigh (n : Nat) : Bool := 0xD800 ≤ n && n ≤ 0xDBFF

/-- Whether a unit is the second half of a character. -/
def isLow (n : Nat) : Bool := 0xDC00 ≤ n && n ≤ 0xDFFF

/-- The characters of pieces. A half of a character needs its other half next to it. -/
def chars? : List Piece → Option (List Char)
  | [] => some []
  | char c :: rest => (chars? rest).map (c :: ·)
  | unit m :: unit n :: rest =>
    if isHigh m then
      if isLow n then
        (chars? rest).map (Char.ofNat (0x10000 + (m - 0xD800) * 0x400 + (n - 0xDC00)) :: ·)
      else none
    else if isLow m then none
    else (chars? (unit n :: rest)).map (Char.ofNat m :: ·)
  | unit m :: rest =>
    if isHigh m || isLow m then none else (chars? rest).map (Char.ofNat m :: ·)

end Piece

/-- Reads a string behind its opening quote, given the pieces already read, the latest first. Gives
the pieces and the text behind the closing quote. -/
def scanString (read : List Piece) : List Char → Option (List Piece × List Char)
  | [] => none
  | '"' :: rest => some (read.reverse, rest)
  | '\\' :: 'u' :: a :: b :: c :: d :: rest =>
    match Piece.hexUnit? a b c d with
    | some n => scanString (.unit n :: read) rest
    | none => none
  | '\\' :: c :: rest =>
    match Piece.escaped? c with
    | some c => scanString (.char c :: read) rest
    | none => none
  | c :: rest => if c.toNat < 0x20 then none else scanString (.char c :: read) rest

/-! ## Numbers -/

/-- The parts of a written number: the digits before the point, those behind it, and the exponent
of ten with its sign. -/
structure Numeral where
  minus : Bool
  whole : List Char
  places : List Char
  /-- Whether there is a point or an exponent. -/
  isFraction : Bool
  exponentMinus : Bool
  exponent : List Char
  deriving DecidableEq, Repr

namespace Numeral

/-- Digits at the front of a text, and the rest of it. -/
def scanDigits (text : List Char) : List Char × List Char :=
  (text.takeWhile Char.isDigit, text.dropWhile Char.isDigit)

/-- Reads the digits before the point: a zero alone, or digits that begin with another one. -/
def scanWhole (text : List Char) : Option (List Char × List Char) :=
  match scanDigits text with
  | ([], _) => none
  | ('0' :: _ :: _, _) => none
  | digits => some digits

/-- Reads the point with the digits behind it, if there is a point. -/
def scanPlaces : List Char → Option (List Char × List Char)
  | '.' :: rest =>
    match scanDigits rest with
    | ([], _) => none
    | digits => some digits
  | text => some ([], text)

/-- Reads the digits of an exponent behind its sign. -/
def scanExponentDigits (minus : Bool) (text : List Char) :
    Option (Bool × List Char × List Char) :=
  match scanDigits text with
  | ([], _) => none
  | (digits, rest) => some (minus, digits, rest)

/-- Reads an exponent, if there is one. -/
def scanExponent : List Char → Option (Bool × List Char × List Char)
  | 'e' :: '+' :: rest | 'E' :: '+' :: rest => scanExponentDigits false rest
  | 'e' :: '-' :: rest | 'E' :: '-' :: rest => scanExponentDigits true rest
  | 'e' :: rest | 'E' :: rest => scanExponentDigits false rest
  | text => some (false, [], text)

/-- Reads a number. -/
def scan (text : List Char) : Option (Numeral × List Char) := do
  let (minus, unsigned) :=
    match text with
    | '-' :: rest => (true, rest)
    | _ => (false, text)
  let (whole, behindWhole) ← scanWhole unsigned
  let (places, behindPlaces) ← scanPlaces behindWhole
  let (exponentMinus, exponent, rest) ← scanExponent behindPlaces
  let isFraction := !(places.isEmpty && exponent.isEmpty)
  return (⟨minus, whole, places, isFraction, exponentMinus, exponent⟩, rest)

/-- The value of a digit. -/
def digitValue (c : Char) : Nat := c.toNat - '0'.toNat

/-- Takes digits into a significand while it stays below `2 ^ 64`. Gives the significand and how
many digits were left out. -/
def gather : Nat → List Char → Nat × Nat
  | significand, [] => (significand, 0)
  | significand, c :: rest =>
    let more := significand * 10 + digitValue c
    if more < Nat.pow 2 64 then gather more rest else (significand, rest.length + 1)

/-- The digits of the number that count, as one integer, and the exponent of ten of the last of
them. On either side of the point the first digit that does not fit ends the reading; behind the
point it goes on with what still fits. -/
def significand (numeral : Numeral) : Nat × Int :=
  let (whole, leftWhole) := gather 0 numeral.whole
  let (significand, leftPlaces) := gather whole numeral.places
  (significand, (leftWhole : Int) + leftPlaces - numeral.places.length)

/-- The number ten to a power, rounded. -/
def powerOfTen (n : Nat) : Binary64 := (Binary64.nearest (Nat.pow 10 n) 1).getD default

/-- A number times ten to an exponent that is below zero. A great exponent is taken in steps. -/
def shiftDown : Nat → Binary64 → Nat → Option Binary64
  | 0, x, _ => some x
  | fuel + 1, x, n =>
    if n ≤ 308 then x.div (powerOfTen n)
    else if x.significand = 0 then some x
    else
      match x.div (powerOfTen 308) with
      | some y => shiftDown fuel y (n - 308)
      | none => none

/-- A significand times ten to an exponent, rounded after each step; there is none beyond the
greatest number. -/
def shift (significand : Nat) (exponent : Int) : Option Binary64 :=
  (Binary64.nearest significand 1).bind fun x =>
    if exponent < 0 then shiftDown (exponent.natAbs / 308 + 1) x exponent.natAbs
    else if exponent.natAbs ≤ 308 then x.mul (powerOfTen exponent.natAbs)
    else if x.significand = 0 then some x
    else none

/-- Digits as a natural number. -/
def digitsValue (digits : List Char) : Nat :=
  digits.foldl (fun n c => n * 10 + digitValue c) 0

/-- The size of a number that is written with a point or an exponent, or has too many digits for an
integer. -/
def size (numeral : Numeral) : Option Binary64 :=
  let (significand, last) := numeral.significand
  let exponent := digitsValue numeral.exponent
  if exponent < Nat.pow 2 31 then
    shift significand (if numeral.exponentMinus then last - exponent else last + exponent)
  else if significand != 0 && !numeral.exponentMinus then none
  else some ⟨0, Binary64.leastExponent⟩

/-- The number that is written. -/
def value (numeral : Numeral) : Number :=
  let n := digitsValue numeral.whole
  if !numeral.isFraction && !numeral.minus && n < Nat.pow 2 64 then .natural n
  else if !numeral.isFraction && numeral.minus && n ≤ Nat.pow 2 63 && n != 0 then .negative n
  else
    match numeral.size with
    | some size => .fraction numeral.minus size
    | none => .tooLarge

end Numeral

/-! ## The words of a text -/

/-- Whether a character may stand between words. -/
def isGap (c : Char) : Bool := c == ' ' || c == '\n' || c == '\t' || c == '\r'

/-- The first word of a text that starts with one, and the text behind it. -/
def scanToken : List Char → Token × List Char
  | '[' :: rest => (.openArray, rest)
  | ']' :: rest => (.closeArray, rest)
  | '\x7b' :: rest => (.openObject, rest)
  | '\x7d' :: rest => (.closeObject, rest)
  | ',' :: rest => (.comma, rest)
  | ':' :: rest => (.colon, rest)
  | 'n' :: 'u' :: 'l' :: 'l' :: rest => (.null, rest)
  | 't' :: 'r' :: 'u' :: 'e' :: rest => (.bool true, rest)
  | 'f' :: 'a' :: 'l' :: 's' :: 'e' :: rest => (.bool false, rest)
  | '"' :: rest =>
    match scanString [] rest with
    | some (pieces, rest) => (.string ((Piece.chars? pieces).map String.ofList), rest)
    | none => (.fault, [])
  | text =>
    match Numeral.scan text with
    | some (numeral, rest) => (.number numeral.value, rest)
    | none => (.fault, [])

/-- The words of a text, where the text has no more characters than the number given. -/
def tokensWithin : Nat → List Char → List Token
  | 0, _ => []
  | fuel + 1, text =>
    match text.dropWhile isGap with
    | [] => []
    | start =>
      let (token, rest) := scanToken start
      token :: tokensWithin fuel rest

/-- The words of a text up to the first fault. Every word takes a character, so the length of the
text is a bound for their number. -/
def tokens (text : String) : List Token :=
  let chars := text.toList
  tokensWithin chars.length chars

end LockDiscipline.Json
