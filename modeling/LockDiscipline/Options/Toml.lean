-- The configuration file is a TOML text that sets options by their names. Only lists of strings
-- and one number can be set, so no more of TOML is read than can be right; everything else is
-- refused.
import LockDiscipline.Options

namespace LockDiscipline.Options.Toml

/-! ## Between the words -/

/-- Whether a character may stand in a comment, and unescaped in a string. -/
def isShown (c : Char) : Bool := c == '\t' || (c.toNat ≥ 0x20 && c.toNat != 0x7F)

/-- Whether a character is blank within a line. -/
def isGap (c : Char) : Bool := c == ' ' || c == '\t'

/-- The text without the blanks at its front. -/
def skipGap (text : List Char) : List Char := text.dropWhile isGap

/-- Goes past blanks, line ends and comments. There is no text behind a character that no comment
may hold. -/
def skipLines (inComment : Bool) : List Char → Option (List Char)
  | [] => some []
  | '\n' :: rest => skipLines false rest
  | '\r' :: '\n' :: rest => skipLines false rest
  | c :: rest =>
    if inComment then
      if isShown c then skipLines true rest else none
    else if isGap c then skipLines false rest
    else if c = '#' then skipLines true rest
    else some (c :: rest)

/-- Goes to the end of a line on which nothing but a comment may follow. -/
def endLine (inComment : Bool) : List Char → Option (List Char)
  | [] => some []
  | '\n' :: rest => some rest
  | '\r' :: '\n' :: rest => some rest
  | c :: rest =>
    if inComment then
      if isShown c then endLine true rest else none
    else if isGap c then endLine false rest
    else if c = '#' then endLine true rest
    else none

/-! ## Strings -/

/-- The value of a digit in a base up to sixteen. -/
def digit? (base : Nat) (c : Char) : Option Nat :=
  let value :=
    if '0' ≤ c && c ≤ '9' then c.toNat - '0'.toNat
    else if 'a' ≤ c && c ≤ 'f' then c.toNat - 'a'.toNat + 10
    else if 'A' ≤ c && c ≤ 'F' then c.toNat - 'A'.toNat + 10
    else base
  if value < base then some value else none

/-- The number that digits give, all of which must be digits of the base. -/
def digits? (base : Nat) (digits : List Char) : Option Nat :=
  digits.foldlM (fun n c => (digit? base c).map (n * base + ·)) 0

/-- The character of a code that is written in hexadecimal digits. -/
def charOfHex? (digits : List Char) : Option Char := do
  let code ← digits? 16 digits
  if code.isValidChar then some (Char.ofNat code) else none

/-- The character that a letter behind a backslash stands for. -/
def escaped? (c : Char) : Option Char :=
  match c with
  | 'b' => some '\x08'
  | 't' => some '\t'
  | 'n' => some '\n'
  | 'f' => some '\x0c'
  | 'r' => some '\r'
  | '"' => some '"'
  | '\\' => some '\\'
  | _ => none

/-- Reads a string on one line behind its opening quote. The characters already read are given
with the latest first. -/
def scanBasic (read : List Char) : List Char → Option (List Char × List Char)
  | [] => none
  | '"' :: rest => some (read.reverse, rest)
  | '\\' :: 'u' :: a :: b :: c :: d :: rest =>
    match charOfHex? [a, b, c, d] with
    | some char => scanBasic (char :: read) rest
    | none => none
  | '\\' :: 'U' :: a :: b :: c :: d :: e :: f :: g :: h :: rest =>
    match charOfHex? [a, b, c, d, e, f, g, h] with
    | some char => scanBasic (char :: read) rest
    | none => none
  | '\\' :: c :: rest =>
    match escaped? c with
    | some char => scanBasic (char :: read) rest
    | none => none
  | c :: rest => if isShown c then scanBasic (c :: read) rest else none

/-- Reads a string without escapes on one line behind its opening quote. -/
def scanLiteral (text : List Char) : Option (List Char × List Char) :=
  match text.dropWhile (fun c => isShown c && c != '\'') with
  | '\'' :: rest => some (text.takeWhile (fun c => isShown c && c != '\''), rest)
  | _ => none

/-- Goes past blanks and line ends. -/
def skipBreaks : List Char → List Char
  | '\n' :: rest => skipBreaks rest
  | '\r' :: '\n' :: rest => skipBreaks rest
  | c :: rest => if isGap c then skipBreaks rest else c :: rest
  | [] => []

/-- The text behind a backslash at the end of a line: blanks and line ends do not count up to the
next other character. -/
def continued? (text : List Char) : Option (List Char) :=
  match skipGap text with
  | '\n' :: rest => some (skipBreaks rest)
  | '\r' :: '\n' :: rest => some (skipBreaks rest)
  | _ => none

/-- Reads a string over several lines up to its closing quotes. Up to two quotes may stand just
before these. A line break counts as one line feed. -/
def scanLines (quote : Char) (escapes : Bool) :
    Nat → List Char → List Char → Option (List Char × List Char)
  | 0, _, _ => none
  | fuel + 1, read, text =>
    match text with
    | [] => none
    | '\r' :: '\n' :: rest => scanLines quote escapes fuel ('\n' :: read) rest
    | c :: rest =>
      if c = quote then
        let run := text.takeWhile (· == quote)
        let behind := text.dropWhile (· == quote)
        if run.length < 3 then scanLines quote escapes fuel (run ++ read) behind
        else if run.length ≤ 5 then
          some ((List.replicate (run.length - 3) quote ++ read).reverse, behind)
        else none
      else if c = '\\' && escapes then
        match continued? rest with
        | some behind => scanLines quote escapes fuel read behind
        | none =>
          match rest with
          | 'u' :: more =>
            match charOfHex? (more.take 4) with
            | some char =>
              if more.length < 4 then none
              else scanLines quote escapes fuel (char :: read) (more.drop 4)
            | none => none
          | 'U' :: more =>
            match charOfHex? (more.take 8) with
            | some char =>
              if more.length < 8 then none
              else scanLines quote escapes fuel (char :: read) (more.drop 8)
            | none => none
          | e :: more =>
            match escaped? e with
            | some char => scanLines quote escapes fuel (char :: read) more
            | none => none
          | [] => none
      else if isShown c || c = '\n' then scanLines quote escapes fuel (c :: read) rest
      else none

/-- Reads a string over several lines behind its opening quotes. A line break just behind these
does not count. -/
def scanMultiline (quote : Char) (escapes : Bool) (text : List Char) :
    Option (List Char × List Char) :=
  let start :=
    match text with
    | '\n' :: rest => rest
    | '\r' :: '\n' :: rest => rest
    | _ => text
  scanLines quote escapes (start.length + 1) [] start

/-- Reads a string of any of the four kinds. -/
def scanString : List Char → Option (List Char × List Char)
  | '"' :: '"' :: '"' :: rest => scanMultiline '"' true rest
  | '\'' :: '\'' :: '\'' :: rest => scanMultiline '\'' false rest
  | '"' :: rest => scanBasic [] rest
  | '\'' :: rest => scanLiteral rest
  | _ => none

/-! ## Numbers -/

/-- The digits of a number in which single underscores may stand between digits. -/
def withoutUnderscores? (text : List Char) : Option (List Char) :=
  match text with
  | [] => none
  | '_' :: _ => none
  | [c] => some [c]
  | c :: '_' :: rest => (withoutUnderscores? rest).map (c :: ·)
  | c :: rest => (withoutUnderscores? rest).map (c :: ·)

/-- The natural number that a word is. A decimal one may have a plus sign, and a zero also a
minus sign; it does not begin with a zero unless it is zero. A number above `2 ^ 63 - 1` is
refused. -/
def natural? (word : List Char) : Option Nat := do
  let n ←
    match word with
    | '0' :: 'x' :: rest => digits? 16 (← withoutUnderscores? rest)
    | '0' :: 'o' :: rest => digits? 8 (← withoutUnderscores? rest)
    | '0' :: 'b' :: rest => digits? 2 (← withoutUnderscores? rest)
    | '+' :: rest => decimal? rest
    | '-' :: rest => (decimal? rest).filter (· == 0)
    | _ => decimal? word
  if n < Nat.pow 2 63 then some n else none
where
  decimal? (word : List Char) : Option Nat := do
    let digits ← withoutUnderscores? word
    match digits with
    | '0' :: _ :: _ => none
    | _ => digits? 10 digits

/-- Whether a character may stand inside a word. -/
def isWordChar (c : Char) : Bool := c.isAlphanum || c == '_' || c == '-' || c == '+'

/-- Reads a natural number. -/
def scanNatural (text : List Char) : Option (Nat × List Char) := do
  let n ← natural? (text.takeWhile isWordChar)
  return (n, text.dropWhile isWordChar)

/-! ## Lists -/

/-- Reads the rest of a list of strings, behind its bracket or behind a comma. -/
def scanItems : Nat → List String → List Char → Option (List String × List Char)
  | 0, _, _ => none
  | fuel + 1, read, text => do
    match ← skipLines false text with
    | ']' :: rest => return (read.reverse, rest)
    | start =>
      let (item, behind) ← scanString start
      let items := String.ofList item :: read
      match ← skipLines false behind with
      | ']' :: rest => return (items.reverse, rest)
      | ',' :: rest => scanItems fuel items rest
      | _ => none

/-- Reads a list of strings. -/
def scanList : List Char → Option (List String × List Char)
  | '[' :: rest => scanItems (rest.length + 1) [] rest
  | _ => none

/-! ## Settings -/

/-- Reads a name: bare or in quotes. -/
def scanName (text : List Char) : Option (String × List Char) :=
  match text with
  | '"' :: rest => (scanBasic [] rest).map fun (name, rest) => (String.ofList name, rest)
  | '\'' :: rest => (scanLiteral rest).map fun (name, rest) => (String.ofList name, rest)
  | _ =>
    let isBare (c : Char) : Bool := c.isAlphanum || c == '_' || c == '-'
    match text.takeWhile isBare with
    | [] => none
    | name => some (String.ofList name, text.dropWhile isBare)

/-- Reads the value of a named option into the options. -/
def scanValue (options : Options) (name : String) (text : List Char) :
    Option (Options × List Char) :=
  match name with
  | "read_write_lock_types" =>
    (scanList text).map fun (types, rest) => ({ options with readWriteLockTypes := types }, rest)
  | "lock_types" =>
    (scanList text).map fun (types, rest) => ({ options with lockTypes := types }, rest)
  | "acquire_methods" =>
    (scanList text).map fun (names, rest) => ({ options with acquireMethods := names }, rest)
  | "release_methods" =>
    (scanList text).map fun (names, rest) => ({ options with releaseMethods := names }, rest)
  | "jobs" => (scanNatural text).map fun (n, rest) => ({ options with jobs := n }, rest)
  | _ => none

/-- Reads one setting, whose name must be new, and goes to the end of its line. -/
def scanSetting (options : Options) (seen : List String) (text : List Char) :
    Option (Options × String × List Char) := do
  let (name, behindName) ← scanName text
  if seen.contains name then none
  match skipGap behindName with
  | '=' :: rest =>
    let (options, behind) ← scanValue options name (skipGap rest)
    return (options, name, ← endLine false behind)
  | _ => none

/-- Reads settings up to the end of the text. -/
def scanSettings : Nat → Options → List String → List Char → Option Options
  | 0, _, _, _ => none
  | fuel + 1, options, seen, text => do
    match ← skipLines false text with
    | [] => return options
    | start =>
      let (options, name, rest) ← scanSetting options seen start
      scanSettings fuel options (name :: seen) rest

end LockDiscipline.Options.Toml

namespace LockDiscipline.Options

/-- Reads the options that a configuration file sets; all others keep their defaults. A mark of
the byte order at the front does not count. -/
def ofToml? (text : String) : Option Options :=
  let chars :=
    match text.toList with
    | '\ufeff' :: rest => rest
    | chars => chars
  Toml.scanSettings (chars.length + 1) .default [] chars

/-- A configuration file that sets every option to its default. -/
def template : String :=
  "# lockcheck configuration\n\n"
    ++ "# Guards of these types (and their subtypes) are not enforced.\n"
    ++ "read_write_lock_types = [\"java.util.concurrent.locks.ReadWriteLock\"]\n\n"
    ++ "# Explicit lock()/unlock() pairs are only credited on receivers of these types.\n"
    ++ "lock_types = [\"java.util.concurrent.locks.Lock\"]\n"
    ++ "acquire_methods = [\"lock\", \"lockInterruptibly\"]\n"
    ++ "release_methods = [\"unlock\"]\n\n"
    ++ "# Worker threads; 0 = one per CPU.\n"
    ++ "jobs = 0\n"

end LockDiscipline.Options
