-- The words of a command line say what to do. A word that begins with a dash is a flag, one that
-- follows a flag with a value is that value, and behind `--` every word stands for itself.

namespace LockDiscipline.CommandLine

/-! ## Commands -/

/-- How findings are shown. -/
inductive Format
  | plain
  | ansi
  | json
  deriving DecidableEq, Repr, Inhabited

/-- What the program is asked to do. -/
inductive Command
  /-- To check units. The number of workers, if it is given, comes before the configured one. -/
  | check (files : List String) (config : Option String) (format : Format) (jobs : Option Nat)
  /-- To write a configuration file, or to show what would be written. -/
  | init (toOutput : Bool)
  /-- To explain a code, or all of them. -/
  | explain (code : Option String)
  deriving DecidableEq, Repr

/-- Why no command is carried out. -/
inductive Stop
  /-- The words make no command. -/
  | usage
  | help
  | version
  deriving DecidableEq, Repr

/-! ## Flags -/

/-- What a flag means. -/
inductive Flag
  | verbose
  | help
  | version
  | config
  | format
  | jobs
  | toOutput
  deriving DecidableEq, Repr

/-- Whose flags and words are read: the program's own or those of one of its commands. -/
inductive Part
  | program
  | check
  | init
  | explain
  deriving DecidableEq, Repr

namespace Flag

/-- The flags that are known in a part. -/
def known : Part → List Flag
  | .program => [verbose, help, version]
  | .check => [verbose, help, config, format, jobs]
  | .init => [verbose, help, toOutput]
  | .explain => [verbose, help]

/-- The name of a flag behind two dashes. -/
def longName : Flag → String
  | verbose => "verbose"
  | help => "help"
  | version => "version"
  | config => "config"
  | format => "format"
  | jobs => "jobs"
  | toOutput => "stdout"

/-- The letter of a flag behind one dash, if it has one. -/
def letter? : Flag → Option Char
  | verbose => some 'v'
  | help => some 'h'
  | version => some 'V'
  | jobs => some 'j'
  | _ => none

/-- Whether a value follows the flag. -/
def hasValue : Flag → Bool
  | config | format | jobs => true
  | _ => false

end Flag

/-! ## Values -/

/-- A natural number below `2 ^ 64`: digits, with a plus sign or without. -/
def size? (word : String) : Option Nat :=
  let digits :=
    match word.toList with
    | '+' :: rest => rest
    | chars => chars
  if digits.isEmpty || !digits.all Char.isDigit then none
  else
    let n := digits.foldl (fun n c => n * 10 + (c.toNat - '0'.toNat)) 0
    if n < Nat.pow 2 64 then some n else none

def format? (word : String) : Option Format :=
  match word with
  | "plain" => some .plain
  | "ansi" => some .ansi
  | "json" => some .json
  | _ => none

/-- What the words read so far have given. -/
structure Given where
  words : List String
  config : Option String
  format : Option Format
  jobs : Option Nat
  toOutput : Bool
  deriving Repr

namespace Given

def nothing : Given := ⟨[], none, none, none, false⟩

/-- Notes a flag without a value. Only the one for more messages may stand there twice. -/
def raise (given : Given) : Flag → Except Stop Given
  | .verbose => .ok given
  | .help => .error .help
  | .version => .error .version
  | .toOutput => if given.toOutput then .error .usage else .ok { given with toOutput := true }
  | _ => .error .usage

/-- Notes the value of a flag, which must be a right one and the first. -/
def set (given : Given) (flag : Flag) (word : String) : Except Stop Given :=
  match flag with
  | .config =>
    if given.config.isSome || word.isEmpty then .error .usage
    else .ok { given with config := some word }
  | .format =>
    match given.format, format? word with
    | none, some format => .ok { given with format := some format }
    | _, _ => .error .usage
  | .jobs =>
    match given.jobs, size? word with
    | none, some jobs => .ok { given with jobs := some jobs }
    | _, _ => .error .usage
  | _ => .error .usage

/-- Notes a word that is no flag. Files have names, no word follows the set-up, and only one code
is explained. -/
def add (part : Part) (given : Given) (word : String) : Except Stop Given :=
  let fits :=
    match part with
    | .program | .init => false
    | .check => !word.isEmpty
    | .explain => given.words.isEmpty
  if fits then .ok { given with words := given.words ++ [word] } else .error .usage

end Given

/-! ## Reading the words -/

/-- What is read of a flag word: what is given by it, and a flag whose value is still to come. -/
abbrev Step := Except Stop (Given × Option Flag)

/-- Reads a flag behind two dashes, which may carry its value behind an equals sign. -/
def readLong (part : Part) (given : Given) (word : List Char) : Step :=
  let name := String.ofList (word.takeWhile (· != '='))
  match (Flag.known part).find? (·.longName == name), word.dropWhile (· != '=') with
  | none, _ => .error .usage
  | some flag, [] =>
    if flag.hasValue then .ok (given, some flag) else (given.raise flag).map (·, none)
  | some flag, _ :: value =>
    if flag.hasValue then (given.set flag (String.ofList value)).map (·, none)
    else .error .usage

/-- Reads letters behind one dash. Behind a letter whose flag has a value, the rest is the value. -/
def readLetters (part : Part) (given : Given) : List Char → Step
  | [] => .ok (given, none)
  | c :: rest =>
    match (Flag.known part).find? (·.letter? == some c) with
    | none => .error .usage
    | some flag =>
      if flag.hasValue then
        match rest with
        | [] => .ok (given, some flag)
        | '=' :: value => (given.set flag (String.ofList value)).map (·, none)
        | value => (given.set flag (String.ofList value)).map (·, none)
      else
        match given.raise flag with
        | .ok given => readLetters part given rest
        | .error stop => .error stop

/-- Whether a word is a flag by its form. A dash alone is none. -/
def isFlag (word : String) : Bool :=
  match word.toList with
  | '-' :: _ :: _ => true
  | _ => false

/-- Reads the words of a part, where `due` is a flag whose value comes next. -/
def readWords (part : Part) (given : Given) (due : Option Flag) : List String → Except Stop Given
  | [] => if due.isSome then .error .usage else .ok given
  | word :: rest =>
    match due with
    | some flag =>
      if isFlag word then .error .usage
      else
        match given.set flag word with
        | .ok given => readWords part given none rest
        | .error stop => .error stop
    | none =>
      if word = "--" then rest.foldlM (·.add part) given
      else if isFlag word then
        let step :=
          match word.toList with
          | '-' :: '-' :: name => readLong part given name
          | letters => readLetters part given (letters.drop 1)
        match step with
        | .ok (given, due) => readWords part given due rest
        | .error stop => .error stop
      else
        match given.add part word with
        | .ok given => readWords part given none rest
        | .error stop => .error stop

/-! ## Commands from words -/

namespace Command

/-- The command to check what the words of its part name. -/
def checkOf (given : Given) : Except Stop Command :=
  if given.words.isEmpty then .error .usage
  else .ok (.check given.words given.config (given.format.getD .ansi) given.jobs)

/-- The command to set up a configuration. -/
def initOf (given : Given) : Command := .init given.toOutput

/-- The command to explain the code that is given, or all. -/
def explainOf (given : Given) : Command := .explain given.words.head?

/-- The command that words behind the flags of the program itself make. -/
def ofWords? : List String → Except Stop Command
  | "check" :: rest => readWords .check .nothing none rest >>= checkOf
  | "init" :: rest => (readWords .init .nothing none rest).map initOf
  | "explain" :: rest => (readWords .explain .nothing none rest).map explainOf
  | ["help"] | ["help", "check"] | ["help", "init"] | ["help", "explain"] | ["help", "help"] =>
    .error .help
  | _ => .error .usage

/-- Reads a command line. The flags of the program itself stand before the command. -/
def parse (args : List String) : Except Stop Command := do
  let _ ← readWords .program .nothing none (args.takeWhile isFlag)
  if (args.takeWhile isFlag).contains "--" then .error .usage
  else ofWords? (args.dropWhile isFlag)

end Command

end LockDiscipline.CommandLine
