-- A folder whose files are all known, as what a run sees around it. Nothing lies above the folder.
import LockDiscipline.CommandLine.Run

namespace LockDiscipline.CommandLine

/-! ## Folders -/

/-- Files with their texts by the way to each, and the way to the folder in which a run takes
place. -/
structure Folder where
  files : List (Path × String)
  here : Path
  deriving Repr

namespace Folder

/-- The names of a written path between its slashes. -/
def pathOf (text : String) : Path := text.splitOn "/"

/-- The way that a written path stands for which goes down only. -/
def wayOf (text : String) : Path := (pathOf text).filter fun name => name != "" && name != "."

/-- The folder with files at written paths, for a run in a written one. -/
def ofFiles (files : List (String × String)) (here : Option String) : Folder where
  files := files.map fun (path, text) => (wayOf path, text)
  here := (here.map wayOf).getD []

variable (folder : Folder)

/-- Whether a folder is at the end of a way. -/
def hasFolder (path : Path) : Bool :=
  path.isEmpty || path.isPrefixOf folder.here
    || folder.files.any fun (file, _) => path.isPrefixOf file && path != file

/-- The text of the file at the end of a way. -/
def textAt (path : Path) : Option String := folder.files.lookup path

/-- Goes on from a folder by the names of a written path. Every name but the last is gone
through, so it must be that of a folder. -/
def walk (start : Path) : Path → Option Path
  | [] => some start
  | name :: rest =>
    if !folder.hasFolder start then none
    else if name = "" || name = "." then walk start rest
    else if name = ".." then if start.isEmpty then none else walk start.dropLast rest
    else walk (start ++ [name]) rest

/-- The text of the file at a written path. -/
def readFile (path : String) : Option String :=
  if path.startsWith "/" then none
  else (folder.walk folder.here (pathOf path)).bind folder.textAt

/-- The nearest configuration file. -/
def nearestConfig : Option (String × Except String String) :=
  (configPaths folder.here).findSome? fun path =>
    (folder.textAt path).map fun text => ("/".intercalate path, .ok text)

/-- What a run is given there. -/
def surroundings : Surroundings where
  readFile := fun path =>
    match folder.readFile path with
    | some text => .ok text
    | none => .error "No such file or directory (os error 2)"
  nearestConfig := folder.nearestConfig
  hasConfigHere :=
    (folder.textAt (folder.here ++ [configName])).isSome
      || folder.hasFolder (folder.here ++ [configName])
  wording := .brief

/-- The text of the configuration file in the folder of the run after an outcome. -/
def configAfter (outcome : Outcome) : Option String :=
  if outcome.writesConfig then some Options.template
  else folder.textAt (folder.here ++ [configName])

end Folder

end LockDiscipline.CommandLine
