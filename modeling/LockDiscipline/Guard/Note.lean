-- The text of an annotation names a lock in a small language: `this`, a chain of names, an object
-- around the current one with fields behind it, or a class object. A text outside the language is
-- malformed; one that names nothing known is rejected when it is resolved.
import LockDiscipline.Guard.Canonical
import LockDiscipline.Program.Unit
import LockDiscipline.Text.Blank
import LockDiscipline.Text.Letter
import LockDiscipline.Text.Segments
import LockDiscipline.Text.Similar

namespace LockDiscipline

/-! ## Why an annotation is rejected -/

/-- What is wrong with a text that is no guard. -/
inductive Malformation
  | empty
  /-- `this` behind something that is not the name of a class. -/
  | misplacedThis
  /-- `class` with no type name before it. -/
  | misplacedClass
  /-- Something behind `class`. -/
  | afterClass
  /-- A piece that is not an identifier. -/
  | unexpected (piece : String)
  deriving DecidableEq, Repr

/-- Why an annotation gives no guard. -/
inductive GuardError
  /-- The text is not in the language of guards. -/
  | malformed (text : String) (why : Malformation) (span : Span)
  /-- The text names no lock that the analysis knows. -/
  | unresolvable (text : String) (member : String) (suggestions : List String) (span : Span)
  /-- A static member under a lock of which every object has its own. -/
  | instanceGuardOnStatic (text : String) (member : String) (span : Span)
  deriving DecidableEq, Repr

namespace Malformation

def message : Malformation → String
  | empty => "empty guard expression"
  | misplacedThis => "'this' must come first or directly after a class name"
  | misplacedClass => "'.class' must follow a type name"
  | afterClass => "nothing may follow '.class'"
  | unexpected piece => "unexpected '" ++ piece ++ "'"

end Malformation

namespace GuardError

/-- Where the annotation stands. -/
def span : GuardError → Span
  | malformed _ _ span => span
  | unresolvable _ _ _ span => span
  | instanceGuardOnStatic _ _ span => span

def message : GuardError → String
  | malformed text why _ => "Invalid guard expression '" ++ text ++ "': " ++ why.message
  | unresolvable text member _ _ =>
    "Invalid guard expression '" ++ text ++ "' on '" ++ member ++ "': could not resolve guard"
  | instanceGuardOnStatic text member _ =>
    "Invalid guard expression '" ++ text ++ "' on static member '" ++ member
      ++ "': instance guards cannot protect static state"

end GuardError

/-! ## The language of guards -/

namespace Guard

/-- Whether a character may stand at the start of an identifier. -/
def startsIdentifier (c : Char) : Bool := Text.isLetter c || c == '_' || c == '$'

/-- Whether a character may stand inside an identifier. -/
def insideIdentifier (c : Char) : Bool := startsIdentifier c || Text.isNumeral c

/-- Whether a piece of a guard is an identifier. -/
def isIdentifier : List Char → Bool
  | [] => false
  | c :: rest => startsIdentifier c && rest.all insideIdentifier

/-- What has been read of a guard: nothing, names only, or something with `this` in it. -/
inductive Chain
  | nothing
  | names (expr : Expr)
  | object (expr : Expr)

/-- One more field behind what has been read. -/
def Chain.push (name : String) (span : Span) : Chain → Chain
  | nothing => names (.name name span)
  | names expr => names (.select expr name span)
  | object expr => object (.select expr name span)

/-- Reads the rest of a guard. Every node stands at the given place. -/
def readPieces (span : Span) : Chain → List (List Char) → Except Malformation Expr
  | .nothing, [] => .error .empty
  | .names expr, [] => .ok expr
  | .object expr, [] => .ok expr
  | chain, piece :: rest =>
    if piece = "this".toList then
      match chain with
      | .nothing => readPieces span (.object (.this span)) rest
      | .names expr =>
        readPieces span (.object (.qualifiedThis (expr.dottedName?.getD "") span)) rest
      | .object _ => .error .misplacedThis
    else if piece = "class".toList then
      match chain with
      | .names expr =>
        if rest.isEmpty then .ok (.classLit (expr.dottedName?.getD "") span)
        else .error .afterClass
      | _ => .error .misplacedClass
    else if isIdentifier piece then
      readPieces span (chain.push (String.ofList piece) span) rest
    else .error (.unexpected (String.ofList piece))

/-- The pieces of an annotation's text. Blanks around the text and around each piece do not
count. -/
def pieces (text : List Char) : List (List Char) :=
  (Text.segments (Text.trim text)).map Text.trim

/-- Reads the text of an annotation as an expression. -/
def read (text : String) (span : Span) : Except GuardError Expr :=
  let wrong (why : Malformation) := GuardError.malformed text why span
  if (Text.trim text.toList).isEmpty then .error (wrong .empty)
  else (readPieces span .nothing (pieces text.toList)).mapError wrong

end Guard

/-! ## The guard of an annotation -/

namespace GuardNote

/-- Field names close to a bare name that was not found. The member itself is never offered. -/
def suggestions (types : TypeLookup) (scope : Scope) (member : String) (expr : Expr) :
    List String :=
  match scope.currentClass, expr with
  | some cls, .name written _ =>
    Text.similar written ((types.fieldNames cls).filter (· != member)) 2
  | _, _ => []

/-- The guard that an annotation on a member names where the member is declared. A guard that is
known only by its text is none; on a static member the error tells whether a member that is not
static could have that guard. -/
def resolve (note : GuardNote) (member : String) (scope : Scope) (types : TypeLookup) :
    Except GuardError Guard := do
  let expr ← Guard.read note.text note.span
  let guard := Context.canonical ⟨types, scope, []⟩ expr
  if !guard.isVerbatim then .ok guard
  else if scope.isStatic
      && !(Context.canonical ⟨types, scope.withStatic false, []⟩ expr).isVerbatim then
    .error (.instanceGuardOnStatic note.text member note.span)
  else
    .error (.unresolvable note.text member (suggestions types scope member expr)
      note.span)

end GuardNote

end LockDiscipline
