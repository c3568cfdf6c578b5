-- Diagnostics and reports as JSON.
import LockDiscipline.Check.Report
import LockDiscipline.Program.ToJson

namespace LockDiscipline

open Json

/-- A number, or null where there is none. -/
def Json.Tree.ofNat? (n : Option Nat) : Tree := .ofOption (n.map .ofNat)

def Diagnostic.toJson (diagnostic : Diagnostic) : Tree :=
  .ofMembers
    [ ("severity", .ofString diagnostic.severity.text), ("code", .ofText? diagnostic.code),
      ("message", .ofString diagnostic.message), ("file", .ofText? diagnostic.file),
      ("line", .ofNat? diagnostic.line), ("col", .ofNat? diagnostic.column),
      ("source_line", .ofText? diagnostic.sourceLine),
      ("underline", .ofText? diagnostic.underline),
      ("suggestions", .ofList (diagnostic.suggestions.map .ofString)) ]

/-- The members of a report as an object. -/
def Report.jsonMembers (report : Report) : List (String × Tree) :=
  [ ("path", .ofText? report.path),
    ("diagnostics", .ofList (report.diagnostics.map (·.toJson))),
    ("members_analyzed", .ofNat report.membersAnalyzed),
    ("members_exempt", .ofNat report.membersExempt), ("accesses", .ofNat report.accesses),
    ("rejected_guards", .ofNat report.rejectedGuards) ]

def Report.toJson (report : Report) : Tree := .ofMembers report.jsonMembers

end LockDiscipline
