-- What a command does, given what stands in the files around it. A run is all or nothing: if one
-- file cannot be read or is no unit, nothing is reported but that.
import LockDiscipline.Check.Log
import LockDiscipline.Check.ToJson
import LockDiscipline.CommandLine.Arguments
import LockDiscipline.Diagnostic.Rendering
import LockDiscipline.Json.Writer
import LockDiscipline.Options.Toml
import LockDiscipline.Program.FromJson

namespace LockDiscipline.CommandLine

/-! ## The files around a run -/

/-- The name of a configuration file. -/
def configName : String := "lockcheck.toml"

/-- The names on the way to a file or a folder. -/
abbrev Path := List String

/-- A folder and those around it, the nearest first. The way to the folder is given by its names,
the last first. -/
def upward : List String → List Path
  | [] => [[]]
  | name :: above => (name :: above).reverse :: upward above

/-- Where the configuration file of a run in a folder may be, the nearest place first. -/
def configPaths (here : Path) : List Path := (upward here.reverse).map (· ++ [configName])

/-- What is said in the words of libraries. -/
structure Wording where
  /-- Why a text gives no options. -/
  noOptions : String → String
  /-- Why a text is not JSON. -/
  noJson : String → String
  /-- Where the reading of a JSON text stopped, as it is told behind what is wrong there. -/
  place : String → String
  /-- All that the log of a run writes, given the warnings in it. How a warning looks, whether it is
  let through, and which finer messages stand beside it is up to the log. -/
  log : List Warning → String

/-- What a run is given: the files around it, and the words of libraries. -/
structure Surroundings where
  /-- The text of the file at a path, or why it cannot be read. -/
  readFile : String → Except String String
  /-- The path and the text of the nearest configuration file, here or in a folder above. -/
  nearestConfig : Option (String × Except String String)
  /-- Whether something here has the name of a configuration file. -/
  hasConfigHere : Bool
  wording : Wording

namespace Wording

/-- Few words, and a line in the log for each warning. -/
def brief : Wording where
  noOptions _ := "no options"
  noJson _ := "not JSON"
  place _ := ""
  log warnings := String.join (warnings.map fun warning => "WARN " ++ warning.text ++ "\n")

/-- Why a text holds no unit. What is wrong with its shape is told by what was found. -/
def noUnit (wording : Wording) (text : String) (error : Json.DecodeError) : String :=
  error.message?.getD (wording.noJson text) ++ wording.place text

end Wording

/-! ## Outcomes -/

/-- Why nothing is checked. Where a file is to blame, its path and what is wrong with it are
told. -/
inductive Failure
  | usage
  | unreadable (path detail : String)
  | badConfig (path detail : String)
  | badUnit (path detail : String)
  deriving DecidableEq, Repr

/-- What a run leaves behind: its exit status, what it prints and what it prints about errors,
and whether it writes the configuration file. What its log writes is told apart from that. -/
structure Outcome where
  status : Nat
  output : String
  errors : String
  writesConfig : Bool
  deriving DecidableEq, Repr

/-- A text in a colour of the terminal. -/
def red (text : String) : String := Paint.coloured "31" text

/-- A text that says what an error is about. -/
def errorLine (text : String) : String := red "error:" ++ " " ++ text

namespace Failure

/-- What is printed about a failure first: what kind it is, and which file is to blame. -/
def message : Failure → String
  | usage =>
    "usage: lockcheck [-v] check FILES [--config FILE] [--format FORMAT] [-j JOBS]"
      ++ " | init [--stdout] | explain [CODE]"
  | unreadable path _ => errorLine ("cannot read '" ++ path ++ "'")
  | badConfig path _ => errorLine ("invalid toml in '" ++ path ++ "'")
  | badUnit path _ => errorLine ("invalid unit '" ++ path ++ "'")

/-- What is wrong with the file that is to blame. -/
def detail? : Failure → Option String
  | usage => none
  | unreadable _ detail | badConfig _ detail | badUnit _ detail => some detail

/-- All that is printed about a failure. -/
def text (failure : Failure) : String :=
  match failure.detail? with
  | some detail => failure.message ++ ": " ++ detail
  | none => failure.message

end Failure

/-- An outcome that only prints. -/
def Outcome.printing (output : String) : Outcome := ⟨0, output, "", false⟩

/-! ## Checking files -/

/-- The options that a configuration file gives. -/
def Wording.optionsOf (wording : Wording) (path : String) (text : Except String String) :
    Except Failure Options :=
  match text with
  | .error detail => .error (.unreadable path detail)
  | .ok text =>
    match Options.ofToml? text with
    | some options => .ok options
    | none => .error (.badConfig path (wording.noOptions text))

/-- The options of a run: those of the named file, else of the nearest configuration file, else the
defaults; and the number of workers that the command line gives. -/
def loadOptions (around : Surroundings) (config : Option String) (jobs : Option Nat) :
    Except Failure Options := do
  let options ←
    match config, around.nearestConfig with
    | some path, _ => around.wording.optionsOf path (around.readFile path)
    | none, some (path, text) => around.wording.optionsOf path text
    | none, none => .ok .default
  return { options with jobs := jobs.getD options.jobs }

/-- The unit in a file, under its own path or, if it has none, under that of the file. -/
def Surroundings.unitIn (around : Surroundings) (path : String) :
    Except Failure CompilationUnit :=
  match around.readFile path with
  | .error detail => .error (.unreadable path detail)
  | .ok text =>
    match CompilationUnit.ofJson text with
    | .ok unit => .ok { unit with path := some (unit.path.getD path) }
    | .error error => .error (.badUnit path (around.wording.noUnit text error))

/-- Checks the unit in a file. -/
def checkFile (around : Surroundings) (options : Options) (path : String) :
    Except Failure Report :=
  (around.unitIn path).map (·.check options)

/-- The warnings in the log of a check of files. It ends at the first file without a unit. -/
def Surroundings.warningsIn (around : Surroundings) : List String → List Warning
  | [] => []
  | path :: rest =>
    match around.unitIn path with
    | .ok unit => unit.warnings ++ around.warningsIn rest
    | .error _ => []

/-! ## What is printed -/

/-- What was gone through for a report. -/
def countsText (report : Report) : String :=
  toString report.membersAnalyzed ++ " members checked, " ++ toString report.membersExempt
    ++ " exempt, " ++ toString report.accesses ++ " guarded accesses"

/-- One line that sums up a report, without colours. -/
def plainSummary (report : Report) : String :=
  let name := report.path.getD "<unit>"
  if report.hasErrors then
    "FAILED " ++ name ++ " (" ++ toString report.errorCount ++ " error(s))\n"
  else
    "ok " ++ name ++ " (" ++ countsText report ++ ")\n"

/-- One line that sums up a report, with colours. -/
def ansiSummary (report : Report) : String :=
  let name := Paint.coloured "1" (report.path.getD "<unit>")
  if report.hasErrors then
    red "✗" ++ " " ++ name ++ " " ++ toString report.errorCount ++ " error(s)\n"
  else
    Paint.coloured "32" "✓" ++ " " ++ name ++ " " ++ Paint.coloured "90" (countsText report)
      ++ "\n"

/-- What a check prints of its reports. -/
def reportsOutput (format : Format) (reports : List Report) : String :=
  match format with
  | .json => (Json.Tree.ofList (reports.map (·.toJson))).pretty ++ "\n"
  | .plain => String.join (reports.map plainSummary)
  | .ansi => String.join (reports.map ansiSummary)

/-- What a check prints about the errors in its reports. -/
def reportsErrors (format : Format) (reports : List Report) : String :=
  let shown (paint : Paint) :=
    String.join (reports.flatMap fun report => report.diagnostics.map (·.render paint))
  match format with
  | .json => ""
  | .plain => shown .plain
  | .ansi => shown .ansi

/-- Checks files. The status says whether anything was found. -/
def check (around : Surroundings) (files : List String) (config : Option String)
    (format : Format) (jobs : Option Nat) : Except Failure Outcome := do
  let options ← loadOptions around config jobs
  let reports ← files.mapM (checkFile around options)
  return {
    status := if reports.any (·.hasErrors) then 1 else 0
    output := reportsOutput format reports
    errors := reportsErrors format reports
    writesConfig := false }

/-- Sets up a configuration file, unless one is there. -/
def init (around : Surroundings) (toOutput : Bool) : Outcome :=
  if toOutput then .printing Options.template
  else if around.hasConfigHere then
    ⟨1, "", errorLine (configName ++ " already exists, not overwriting") ++ "\n", false⟩
  else
    ⟨0, Paint.coloured "1;32" (padLeft 12 "Created") ++ " " ++ configName ++ "\n", "", true⟩

/-- What is printed of a code and its explanation. -/
def explanationLine (code explanation : String) : String :=
  Paint.coloured "1" code ++ ": " ++ explanation ++ "\n"

/-- Explains a code, or all of them one after the other. -/
def explain (code : Option String) : Outcome :=
  match code with
  | some code => .printing (explanationLine code (ErrorCode.explain code))
  | none =>
    .printing <| String.join <|
      ErrorCode.all.map fun code => explanationLine code.text code.explanation ++ "\n"

/-! ## The whole run -/

/-- Carries out a command. -/
def Command.run (around : Surroundings) : Command → Except Failure Outcome
  | .check files config format jobs => CommandLine.check around files config format jobs
  | .init toOutput => .ok (CommandLine.init around toOutput)
  | .explain code => .ok (CommandLine.explain code)

/-- Carries out a command line. -/
def run (around : Surroundings) (args : List String) : Except Failure Outcome :=
  match Command.parse args with
  | .ok command => command.run around
  | .error .help => .ok (.printing (Failure.usage.message ++ "\n"))
  | .error .version => .ok (.printing "lockcheck 0.1.0\n")
  | .error .usage => .error .usage

/-- The outcome of a run with its failure, if it is one, put in words. -/
def Outcome.ofRun : Except Failure Outcome → Outcome
  | .ok outcome => outcome
  | .error failure => ⟨2, "", failure.text ++ "\n", false⟩

/-! ## The log -/

/-- The warnings in the log of a command. Nothing is checked if there are no options. -/
def Command.warnings (around : Surroundings) : Command → List Warning
  | .check files config _ jobs =>
    match loadOptions around config jobs with
    | .ok _ => around.warningsIn files
    | .error _ => []
  | .init _ | .explain _ => []

/-- What the log of a command line writes. -/
def logText (around : Surroundings) (args : List String) : String :=
  match Command.parse args with
  | .ok command => around.wording.log (command.warnings around)
  | .error _ => ""

/-- All that a command writes where errors go. The log is written while files are checked, and what
is printed about errors follows it. -/
def Command.standardError (around : Surroundings) (command : Command) : String :=
  around.wording.log (command.warnings around) ++ (Outcome.ofRun (command.run around)).errors

end LockDiscipline.CommandLine
