-- A diagnostic is a finding made ready for a reader: what is wrong, where it stands, the line it
-- stands in with a mark under it, and what may help.
import LockDiscipline.Check.Verdict
import LockDiscipline.Diagnostic.Code
import LockDiscipline.Text.Lines

namespace LockDiscipline

/-! ## Diagnostics -/

/-- How grave a diagnostic is. -/
inductive Severity
  | error
  deriving DecidableEq, Repr

namespace Severity

def text : Severity → String
  | error => "error"

end Severity

structure Diagnostic where
  severity : Severity
  code : Option String
  message : String
  file : Option String
  line : Option Nat
  column : Option Nat
  /-- The line of source text that the diagnostic stands in. -/
  sourceLine : Option String
  /-- The mark under that line. -/
  underline : Option String
  suggestions : List String
  deriving DecidableEq, Repr

namespace Diagnostic

/-- An error at a place. A place that is not known gives neither line nor column. -/
def errorAt (code : Option String) (message : String) (span : Span) : Diagnostic where
  severity := .error
  code := code
  message := message
  file := none
  line := if span.isKnown then some span.line else none
  column := if span.isKnown then some span.column else none
  sourceLine := none
  underline := none
  suggestions := []

/-- The diagnostic with one more suggestion. -/
def suggest (diagnostic : Diagnostic) (suggestion : String) : Diagnostic :=
  { diagnostic with suggestions := diagnostic.suggestions ++ [suggestion] }

theorem foldl_suggest (suggestion : String → String) (names : List String)
    (diagnostic : Diagnostic) :
    names.foldl (fun (d : Diagnostic) name => d.suggest (suggestion name)) diagnostic =
      { diagnostic with suggestions := diagnostic.suggestions ++ names.map suggestion } := by
  induction names generalizing diagnostic with
  | nil => simp
  | cons name rest ih =>
    rw [List.foldl_cons, ih]
    simp [suggest]

/-- A mark from a column on, as long as the given length but never of no length. -/
def mark (column length : Nat) : String :=
  String.ofList (List.replicate (column - 1) ' ' ++ List.replicate (max length 1) '^')

/-- The diagnostic with the name of the source file and, where its line and the text are known, with
that line of the text, if there is one, and a mark under it. -/
def attach (diagnostic : Diagnostic) (unit : CompilationUnit) (span : Span) : Diagnostic :=
  match unit.source, diagnostic.line with
  | some source, some line =>
    let sourceLine := Text.line? source line
    { diagnostic with
      file := unit.path
      sourceLine := sourceLine
      underline :=
        if sourceLine.isSome then some (mark span.column (span.stop - span.start))
        else diagnostic.underline }
  | _, _ => { diagnostic with file := unit.path }

def isError (diagnostic : Diagnostic) : Bool := diagnostic.severity == .error

end Diagnostic

/-! ## Diagnostics of findings -/

/-- The diagnostic of an access without its guard. Where no lock is held at all, taking the guard is
suggested. -/
def Violation.diagnostic (violation : Violation) (unit : CompilationUnit) : Diagnostic :=
  let found :=
    Diagnostic.errorAt (some ErrorCode.unguardedAccess.text) violation.message violation.span
  let advised :=
    if violation.held.isEmpty then
      found.suggest
        ("wrap the access in `synchronized (" ++ violation.guard.text ++ ") \x7b ... \x7d`")
    else found
  advised.attach unit violation.span

/-- The diagnostic of a rejected annotation, with the names that may be meant. -/
def GuardError.diagnostic (error : GuardError) (unit : CompilationUnit) : Diagnostic :=
  let found := Diagnostic.errorAt (some error.code.text) error.message error.span
  let advised :=
    match error with
    | .unresolvable _ _ names _ =>
      names.foldl (fun (d : Diagnostic) name => d.suggest ("did you mean '" ++ name ++ "'?")) found
    | _ => found
  advised.attach unit error.span

end LockDiscipline
