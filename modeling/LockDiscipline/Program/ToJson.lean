-- A compilation unit as JSON, with every field written out.
import LockDiscipline.Json.Tree
import LockDiscipline.Program.Unit

namespace LockDiscipline

open Json

/-! ## Small records -/

/-- A text, or null where there is none. -/
def Json.Tree.ofText? (text : Option String) : Tree := .ofOption (text.map .ofString)

def Span.toJson (span : Span) : Tree :=
  .ofMembers
    [ ("start", .ofNat span.start), ("end", .ofNat span.stop), ("line", .ofNat span.line),
      ("col", .ofNat span.column) ]

def Param.toJson (param : Param) : Tree :=
  .ofMembers [("name", .ofString param.name), ("ty", .ofString param.type)]

def GuardNote.toJson (note : GuardNote) : Tree :=
  .ofMembers [("text", .ofString note.text), ("span", note.span.toJson)]

/-! ## Expressions and statements -/

/-- A node: its kind followed by its fields. -/
def Json.Tree.ofNode (kind : String) (fields : List (String × Tree)) : Tree :=
  .ofMembers (("kind", .ofString kind) :: fields)

mutual

def Expr.toJson : Expr → Tree
  | .this span => .ofNode "this" [("span", span.toJson)]
  | .qualifiedThis cls span =>
    .ofNode "qualified_this" [("class", .ofString cls), ("span", span.toJson)]
  | .name n span => .ofNode "name" [("name", .ofString n), ("span", span.toJson)]
  | .select receiver n span =>
    .ofNode "select"
      [("receiver", receiver.toJson), ("name", .ofString n), ("span", span.toJson)]
  | .classLit cls span => .ofNode "class_lit" [("class", .ofString cls), ("span", span.toJson)]
  | .call receiver method args span =>
    .ofNode "call"
      [ ("receiver", Expr.optionToJson receiver), ("method", .ofString method),
        ("args", .ofList (Expr.listToJson args)), ("span", span.toJson) ]
  | .new cls args span =>
    .ofNode "new"
      [ ("class", .ofString cls), ("args", .ofList (Expr.listToJson args)),
        ("span", span.toJson) ]
  | .assign target value op span =>
    .ofNode "assign"
      [ ("target", target.toJson), ("value", value.toJson), ("op", .ofText? op),
        ("span", span.toJson) ]
  | .unary op operand span =>
    .ofNode "unary" [("op", .ofString op), ("operand", operand.toJson), ("span", span.toJson)]
  | .binary op lhs rhs span =>
    .ofNode "binary"
      [ ("op", .ofString op), ("lhs", lhs.toJson), ("rhs", rhs.toJson),
        ("span", span.toJson) ]
  | .conditional cond thenVal elseVal span =>
    .ofNode "conditional"
      [ ("cond", cond.toJson), ("then_val", thenVal.toJson), ("else_val", elseVal.toJson),
        ("span", span.toJson) ]
  | .index base i span =>
    .ofNode "index" [("base", base.toJson), ("index", i.toJson), ("span", span.toJson)]
  | .cast type expr span =>
    .ofNode "cast" [("ty", .ofString type), ("expr", expr.toJson), ("span", span.toJson)]
  | .lambda params body span =>
    .ofNode "lambda"
      [ ("params", .ofList (params.map (·.toJson))), ("body", .ofList (Stmt.listToJson body)),
        ("span", span.toJson) ]
  | .literal value span =>
    .ofNode "literal" [("value", .ofString value), ("span", span.toJson)]

def Expr.listToJson : List Expr → List Tree
  | [] => []
  | expr :: rest => expr.toJson :: Expr.listToJson rest

def Expr.optionToJson : Option Expr → Tree
  | none => .null
  | some expr => expr.toJson

def Stmt.toJson : Stmt → Tree
  | .evaluate expr => .ofNode "expr" [("expr", expr.toJson)]
  | .declare name type init span =>
    .ofNode "local"
      [ ("name", .ofString name), ("ty", .ofString type), ("init", Expr.optionToJson init),
        ("span", span.toJson) ]
  | .block body span =>
    .ofNode "block" [("body", .ofList (Stmt.listToJson body)), ("span", span.toJson)]
  | .ifElse cond thenBranch elseBranch span =>
    .ofNode "if"
      [ ("cond", cond.toJson), ("then_branch", .ofList (Stmt.listToJson thenBranch)),
        ("else_branch", Stmt.branchToJson elseBranch), ("span", span.toJson) ]
  | .whileLoop cond body span =>
    .ofNode "while"
      [("cond", cond.toJson), ("body", .ofList (Stmt.listToJson body)), ("span", span.toJson)]
  | .doWhile body cond span =>
    .ofNode "do_while"
      [("body", .ofList (Stmt.listToJson body)), ("cond", cond.toJson), ("span", span.toJson)]
  | .forLoop init cond update body span =>
    .ofNode "for"
      [ ("init", .ofList (Stmt.listToJson init)), ("cond", Expr.optionToJson cond),
        ("update", .ofList (Expr.listToJson update)), ("body", .ofList (Stmt.listToJson body)),
        ("span", span.toJson) ]
  | .forEach var type iterable body span =>
    .ofNode "for_each"
      [ ("var", .ofString var), ("ty", .ofString type), ("iterable", iterable.toJson),
        ("body", .ofList (Stmt.listToJson body)), ("span", span.toJson) ]
  | .switch subject cases span =>
    .ofNode "switch"
      [ ("subject", subject.toJson), ("cases", .ofList (Stmt.casesToJson cases)),
        ("span", span.toJson) ]
  | .returns value span =>
    .ofNode "return" [("value", Expr.optionToJson value), ("span", span.toJson)]
  | .throws value span => .ofNode "throw" [("value", value.toJson), ("span", span.toJson)]
  | .breaks span => .ofNode "break" [("span", span.toJson)]
  | .continues span => .ofNode "continue" [("span", span.toJson)]
  | .synchronized lock body span =>
    .ofNode "synchronized"
      [("lock", lock.toJson), ("body", .ofList (Stmt.listToJson body)), ("span", span.toJson)]
  | .tryBlock body catches atEnd span =>
    .ofNode "try"
      [ ("body", .ofList (Stmt.listToJson body)),
        ("catches", .ofList (Stmt.catchesToJson catches)),
        ("finally", Stmt.branchToJson atEnd), ("span", span.toJson) ]

def Stmt.listToJson : List Stmt → List Tree
  | [] => []
  | stmt :: rest => stmt.toJson :: Stmt.listToJson rest

def Stmt.branchToJson : Option (List Stmt) → Tree
  | none => .null
  | some body => .ofList (Stmt.listToJson body)

def Stmt.casesToJson : List SwitchCase → List Tree
  | [] => []
  | .mk labels body :: rest =>
    .ofMembers
        [ ("labels", .ofList (Expr.listToJson labels)),
          ("body", .ofList (Stmt.listToJson body)) ]
      :: Stmt.casesToJson rest

def Stmt.catchesToJson : List CatchClause → List Tree
  | [] => []
  | .mk param type body :: rest =>
    .ofMembers
        [ ("param", .ofString param), ("ty", .ofString type),
          ("body", .ofList (Stmt.listToJson body)) ]
      :: Stmt.catchesToJson rest

end

/-! ## Declarations -/

/-- An annotation, or null where there is none. -/
def GuardNote.optionToJson (note : Option GuardNote) : Tree :=
  .ofOption (note.map (·.toJson))

def FieldDecl.toJson (field : FieldDecl) : Tree :=
  .ofMembers
    [ ("name", .ofString field.name), ("ty", .ofString field.type),
      ("is_static", .bool field.isStatic),
      ("guarded_by", GuardNote.optionToJson field.guardedBy),
      ("initializer", Expr.optionToJson field.initializer), ("span", field.span.toJson) ]

/-- The kind of a method as a word. -/
def MethodKind.word : MethodKind → String
  | method => "method"
  | constructor => "constructor"

def MethodDecl.toJson (method : MethodDecl) : Tree :=
  .ofMembers
    [ ("name", .ofString method.name), ("kind", .ofString method.kind.word),
      ("is_static", .bool method.isStatic), ("is_synchronized", .bool method.isSynchronized),
      ("params", .ofList (method.params.map (·.toJson))),
      ("guarded_by", GuardNote.optionToJson method.guardedBy),
      ("body", .ofList (Stmt.listToJson method.body)), ("span", method.span.toJson) ]

def Initializer.toJson (initializer : Initializer) : Tree :=
  .ofMembers
    [ ("is_static", .bool initializer.isStatic),
      ("body", .ofList (Stmt.listToJson initializer.body)), ("span", initializer.span.toJson) ]

mutual

def ClassDecl.toJson : ClassDecl → Tree
  | .mk name supertypes isStatic fields methods initializers nested span =>
    .ofMembers
      [ ("name", .ofString name), ("supertypes", .ofList (supertypes.map .ofString)),
        ("is_static", .bool isStatic), ("fields", .ofList (fields.map (·.toJson))),
        ("methods", .ofList (methods.map (·.toJson))),
        ("initializers", .ofList (initializers.map (·.toJson))),
        ("nested", .ofList (ClassDecl.listToJson nested)), ("span", span.toJson) ]

def ClassDecl.listToJson : List ClassDecl → List Tree
  | [] => []
  | cls :: rest => cls.toJson :: ClassDecl.listToJson rest

end

def CompilationUnit.toJson (unit : CompilationUnit) : Tree :=
  .ofMembers
    [ ("path", .ofText? unit.path), ("source", .ofText? unit.source),
      ("classes", .ofList (ClassDecl.listToJson unit.classes)) ]

end LockDiscipline
