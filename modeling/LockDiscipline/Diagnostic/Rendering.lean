-- A diagnostic is shown with colours on a terminal and without elsewhere. One layout serves
-- both; they differ in how a word is painted.
import LockDiscipline.Diagnostic.Basic

namespace LockDiscipline

/-! ## Paint -/

/-- How the parts of a shown diagnostic are painted. -/
structure Paint where
  red : String → String
  cyan : String → String
  bold : String → String

namespace Paint

/-- A text between the terminal's codes for a colour and for its end. -/
def coloured (colour text : String) : String := "\x1b[" ++ colour ++ "m" ++ text ++ "\x1b[0m"

/-- No colours. -/
def plain : Paint := ⟨id, id, id⟩

/-- The colours of a terminal. -/
def ansi : Paint := ⟨coloured "31", coloured "36", coloured "1"⟩

end Paint

/-- A text with blanks in front until it has the given length, counted before it is shown: the
codes of colours count as well. -/
def padLeft (width : Nat) (text : String) : String :=
  String.ofList (List.replicate (width - text.length) ' ') ++ text

/-! ## The layout -/

namespace Diagnostic

variable (paint : Paint) (diagnostic : Diagnostic)

/-- Where the diagnostic stands, as far as that is known. -/
def location : Option String :=
  let file := diagnostic.file.getD "<unit>"
  match diagnostic.line, diagnostic.column with
  | some line, some column => some (file ++ ":" ++ toString line ++ ":" ++ toString column)
  | some line, none => some (file ++ ":" ++ toString line)
  | none, _ => diagnostic.file

def headerText : String :=
  let label := paint.red diagnostic.severity.text
  (match diagnostic.code with
    | some code => label ++ "[" ++ paint.bold code ++ "]: "
    | none => label ++ ": ")
  ++ paint.bold diagnostic.message ++ "\n"

def locationText : String :=
  match diagnostic.location with
  | some location => "  " ++ paint.cyan "-->" ++ " " ++ location ++ "\n"
  | none => ""

/-- The source line between its number and the mark. -/
def snippetText : String :=
  match diagnostic.line, diagnostic.sourceLine, diagnostic.underline with
  | some line, some sourceLine, some underline =>
    "   " ++ paint.cyan "|" ++ "\n"
      ++ padLeft 3 (paint.cyan (toString line)) ++ " " ++ paint.cyan "|" ++ " " ++ sourceLine
      ++ "\n"
      ++ "   " ++ paint.cyan "|" ++ " " ++ paint.red underline ++ "\n"
  | _, _, _ => ""

def helpText : String :=
  if diagnostic.suggestions.isEmpty then ""
  else
    "   " ++ paint.cyan "|" ++ "\n"
      ++ String.join (diagnostic.suggestions.map fun suggestion =>
        "   " ++ paint.cyan "=" ++ " " ++ paint.cyan "help" ++ ": " ++ suggestion ++ "\n")

/-- The diagnostic as it is shown, one or more whole lines. -/
def render : String :=
  diagnostic.headerText paint ++ diagnostic.locationText paint ++ diagnostic.snippetText paint
    ++ diagnostic.helpText paint

end Diagnostic

end LockDiscipline
