-- A check warns in its log of every annotation that it rejects, when it finds it. The diagnostic
-- for the annotation comes later, with the report.
import LockDiscipline.Check.Report

namespace LockDiscipline

/-- Says in a log that the annotation of a member is rejected. -/
structure Warning where
  /-- What the log calls such a member. -/
  kind : String
  member : String
  owner : TypeName
  error : GuardError
  deriving DecidableEq, Repr

namespace Warning

/-- The words of a warning, and behind them which member it is about. -/
def text (warning : Warning) : String :=
  warning.error.message ++ " " ++ warning.kind ++ "=" ++ warning.member ++ " class="
    ++ warning.owner.text

end Warning

namespace ClassSite

variable (types : TypeLookup) (site : ClassSite)

/-- The warning about a member of the class, if it has an annotation that is rejected. -/
def warning? (kind member : String) (isStatic : Bool) (note : Option GuardNote) :
    Option Warning :=
  match note with
  | none => none
  | some note =>
    match note.resolve member (site.scope isStatic) types with
    | .ok _ => none
    | .error error => some ⟨kind, member, site.cls.type, error⟩

def fieldWarning? (field : FieldDecl) : Option Warning :=
  site.warning? types "field" field.name field.isStatic field.guardedBy

def methodWarning? (method : MethodDecl) : Option Warning :=
  site.warning? types "method" method.name method.isStatic method.guardedBy

/-- The warnings about the members of a class, those about its fields first. -/
def warnings : List Warning :=
  site.cls.fields.filterMap (site.fieldWarning? types)
    ++ site.cls.methods.filterMap (site.methodWarning? types)

end ClassSite

/-- The warnings in the log of a check of the unit. -/
def CompilationUnit.warnings (unit : CompilationUnit) : List Warning :=
  unit.sites.flatMap (·.warnings (ClassTable.ofUnit unit).lookup)

end LockDiscipline
