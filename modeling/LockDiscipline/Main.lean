-- The program: it looks at the files that a command names, carries the command out, and prints.
import LockDiscipline.CommandLine.Run

namespace LockDiscipline

open CommandLine

/-! ## Looking at files -/

/-- The text of a file, or why it cannot be read. -/
def readText (path : String) : IO (Except String String) := do
  try
    return .ok (← IO.FS.readFile path)
  catch e =>
    return .error (toString e)

/-- Whether a file is at a path, and no folder. -/
def isFile (path : String) : IO Bool := do
  let file := (← IO.currentDir) / path
  try
    return (← file.metadata).type == .file
  catch _ =>
    return false

/-- The first file at one of the places. -/
def findConfig : List CommandLine.Path → IO (Option (String × Except String String))
  | [] => return none
  | place :: further => do
    let path := "/" ++ "/".intercalate place
    if ← isFile path then return some (path, ← readText path) else findConfig further

/-- The files that a command names. -/
def namedFiles : Command → List String
  | .check files config _ _ => files ++ config.toList
  | _ => []

/-- What a command line is given. -/
def lookAround (args : List String) : IO Surroundings := do
  let named :=
    match Command.parse args with
    | .ok command => namedFiles command
    | .error _ => []
  let texts ← named.mapM fun path => return (path, ← readText path)
  let here ← IO.currentDir
  return {
    readFile := fun path => (texts.lookup path).getD (.error "not read")
    nearestConfig := ← findConfig (configPaths ((here.toString.splitOn "/").drop 1))
    hasConfigHere := ← (here / configName).pathExists
    wording := .brief }

end LockDiscipline

open LockDiscipline CommandLine in
/-- Carries out the command line. -/
def main (args : List String) : IO UInt32 := do
  let around ← lookAround args
  let outcome := Outcome.ofRun (run around args)
  IO.eprint (logText around args)
  if outcome.writesConfig then
    try
      IO.FS.writeFile configName Options.template
    catch e =>
      IO.eprintln (errorLine ("writing " ++ configName ++ ": " ++ toString e))
      return 1
  IO.print outcome.output
  IO.eprint outcome.errors
  return outcome.status.toUInt32
