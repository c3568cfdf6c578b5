-- How a compilation unit is written as JSON. Fields that are often empty may be left out; every
-- statement and expression says by its `kind` what it is.
import LockDiscipline.Json.Decoder
import LockDiscipline.Json.Reader
import LockDiscipline.Program.Unit

namespace LockDiscipline

open Json Json.Decoder Json.Fields

/-! ## Small records -/

namespace Span

def fields : Fields Span :=
  Span.mk <$> required "start" size <*> required "end" size <*> required "line" size
    <*> required "col" size

def decoder : Decoder Span := record "Span" fields false

/-- The place of a piece, which may be left out. -/
def field : Fields Span := defaulted "span" decoder .unknown

end Span

namespace Param

def decoder : Decoder Param :=
  record "Param" (Param.mk <$> required "name" string <*> required "ty" string) false

end Param

namespace GuardNote

def decoder : Decoder GuardNote :=
  record "GuardAnnotation" (GuardNote.mk <$> required "text" string <*> Span.field) false

end GuardNote

/-! ## Expressions and statements -/

/-- The decoders of the two kinds of nodes. -/
structure NodeDecoders where
  expr : Decoder Expr
  stmt : Decoder Stmt

namespace NodeDecoders

variable (inner : NodeDecoders)

/-- A list of statements. -/
def block : Decoder (List Stmt) := list inner.stmt

/-- A list that may be left out. -/
def listField {α : Type} (name : String) (item : Decoder α) : Fields (List α) :=
  defaulted name (list item) []

/-- The kinds of expressions, where `inner` reads what stands inside one. -/
def exprVariants : List (Variant Expr) :=
  [ ⟨"this", "This", Expr.this <$> Span.field⟩,
    ⟨"qualified_this", "QualifiedThis",
      Expr.qualifiedThis <$> required "class" string <*> Span.field⟩,
    ⟨"name", "Name", Expr.name <$> required "name" string <*> Span.field⟩,
    ⟨"select", "Select",
      Expr.select <$> required "receiver" inner.expr <*> required "name" string <*> Span.field⟩,
    ⟨"class_lit", "ClassLit", Expr.classLit <$> required "class" string <*> Span.field⟩,
    ⟨"call", "Call",
      Expr.call <$> optional "receiver" inner.expr <*> required "method" string
        <*> listField "args" inner.expr <*> Span.field⟩,
    ⟨"new", "New",
      Expr.new <$> required "class" string <*> listField "args" inner.expr <*> Span.field⟩,
    ⟨"assign", "Assign",
      Expr.assign <$> required "target" inner.expr <*> required "value" inner.expr
        <*> optional "op" string <*> Span.field⟩,
    ⟨"unary", "Unary",
      Expr.unary <$> required "op" string <*> required "operand" inner.expr <*> Span.field⟩,
    ⟨"binary", "Binary",
      Expr.binary <$> required "op" string <*> required "lhs" inner.expr
        <*> required "rhs" inner.expr <*> Span.field⟩,
    ⟨"conditional", "Conditional",
      Expr.conditional <$> required "cond" inner.expr <*> required "then_val" inner.expr
        <*> required "else_val" inner.expr <*> Span.field⟩,
    ⟨"index", "Index",
      Expr.index <$> required "base" inner.expr <*> required "index" inner.expr <*> Span.field⟩,
    ⟨"cast", "Cast",
      Expr.cast <$> required "ty" string <*> required "expr" inner.expr <*> Span.field⟩,
    ⟨"lambda", "Lambda",
      Expr.lambda <$> listField "params" Param.decoder <*> required "body" inner.block
        <*> Span.field⟩,
    ⟨"literal", "Literal", Expr.literal <$> required "value" string <*> Span.field⟩ ]

/-- A case of a switch. -/
def switchCase : Decoder SwitchCase :=
  record "SwitchCase"
    (SwitchCase.mk <$> listField "labels" inner.expr <*> required "body" inner.block) false

/-- A handler of a try block. -/
def catchClause : Decoder CatchClause :=
  record "CatchClause"
    (CatchClause.mk <$> required "param" string <*> required "ty" string
      <*> required "body" inner.block) false

/-- The kinds of statements, where `inner` reads what stands inside one. -/
def stmtVariants : List (Variant Stmt) :=
  [ ⟨"expr", "Expr", Stmt.evaluate <$> required "expr" inner.expr⟩,
    ⟨"local", "Local",
      Stmt.declare <$> required "name" string <*> required "ty" string
        <*> optional "init" inner.expr <*> Span.field⟩,
    ⟨"block", "Block", Stmt.block <$> required "body" inner.block <*> Span.field⟩,
    ⟨"if", "If",
      Stmt.ifElse <$> required "cond" inner.expr <*> required "then_branch" inner.block
        <*> optional "else_branch" inner.block <*> Span.field⟩,
    ⟨"while", "While",
      Stmt.whileLoop <$> required "cond" inner.expr <*> required "body" inner.block
        <*> Span.field⟩,
    ⟨"do_while", "DoWhile",
      Stmt.doWhile <$> required "body" inner.block <*> required "cond" inner.expr
        <*> Span.field⟩,
    ⟨"for", "For",
      Stmt.forLoop <$> listField "init" inner.stmt <*> optional "cond" inner.expr
        <*> listField "update" inner.expr <*> required "body" inner.block <*> Span.field⟩,
    ⟨"for_each", "ForEach",
      Stmt.forEach <$> required "var" string <*> required "ty" string
        <*> required "iterable" inner.expr <*> required "body" inner.block <*> Span.field⟩,
    ⟨"switch", "Switch",
      Stmt.switch <$> required "subject" inner.expr <*> required "cases" (list inner.switchCase)
        <*> Span.field⟩,
    ⟨"return", "Return", Stmt.returns <$> optional "value" inner.expr <*> Span.field⟩,
    ⟨"throw", "Throw", Stmt.throws <$> required "value" inner.expr <*> Span.field⟩,
    ⟨"break", "Break", Stmt.breaks <$> Span.field⟩,
    ⟨"continue", "Continue", Stmt.continues <$> Span.field⟩,
    ⟨"synchronized", "Synchronized",
      Stmt.synchronized <$> required "lock" inner.expr <*> required "body" inner.block
        <*> Span.field⟩,
    ⟨"try", "Try",
      Stmt.tryBlock <$> required "body" inner.block <*> listField "catches" inner.catchClause
        <*> optional "finally" inner.block <*> Span.field⟩ ]

/-- The decoders of nodes inside one another at most the given number of times. -/
def within : Nat → NodeDecoders
  | 0 => ⟨never, never⟩
  | depth + 1 =>
    let inner := within depth
    ⟨tagged "Expr" inner.exprVariants, tagged "Stmt" inner.stmtVariants⟩

end NodeDecoders

/-- How many containers may stand inside one another in a text. -/
def greatestDepth : Nat := 127

/-- The decoders of nodes. Every node is a container, so no more of them stand inside one another
than containers may. -/
def nodeDecoders : NodeDecoders := .within (greatestDepth + 1)

namespace Expr

def decoder : Decoder Expr := nodeDecoders.expr

end Expr

namespace Stmt

def decoder : Decoder Stmt := nodeDecoders.stmt

end Stmt

/-! ## Declarations -/

/-- Whether a member is static, which it is not where nothing is said. -/
def staticField : Fields Bool := defaulted "is_static" flag false

/-- The annotation of a member, if it has one. -/
def guardField : Fields (Option GuardNote) := optional "guarded_by" GuardNote.decoder

/-- The statements of a body, which may be left out. -/
def bodyField : Fields (List Stmt) := NodeDecoders.listField "body" Stmt.decoder

namespace FieldDecl

def decoder : Decoder FieldDecl :=
  record "FieldDecl"
    (FieldDecl.mk <$> required "name" string <*> required "ty" string <*> staticField <*> guardField
      <*> optional "initializer" Expr.decoder <*> Span.field) false

end FieldDecl

namespace MethodDecl

def decoder : Decoder MethodDecl :=
  record "MethodDecl"
    (MethodDecl.mk <$> required "name" string
      <*> defaulted "kind" (word [("method", .method), ("constructor", .constructor)]) .method
      <*> staticField <*> defaulted "is_synchronized" flag false
      <*> NodeDecoders.listField "params" Param.decoder <*> guardField <*> bodyField
      <*> Span.field) false

end MethodDecl

namespace Initializer

def decoder : Decoder Initializer :=
  record "Initializer" (Initializer.mk <$> staticField <*> bodyField <*> Span.field) false

end Initializer

namespace ClassDecl

/-- Reads a class with others inside one another at most the given number of times. -/
def decoderWithin : Nat → Decoder ClassDecl
  | 0 => never
  | depth + 1 =>
    record "ClassDecl"
      (ClassDecl.mk <$> required "name" string <*> NodeDecoders.listField "supertypes" string
        <*> staticField <*> NodeDecoders.listField "fields" FieldDecl.decoder
        <*> NodeDecoders.listField "methods" MethodDecl.decoder
        <*> NodeDecoders.listField "initializers" Initializer.decoder
        <*> NodeDecoders.listField "nested" (decoderWithin depth) <*> Span.field) false

/-- Reads a class. Every class is a container, so the bound on containers bounds the classes
inside one another. -/
def decoder : Decoder ClassDecl := decoderWithin (greatestDepth + 1)

end ClassDecl

namespace CompilationUnit

def decoder : Decoder CompilationUnit :=
  record "CompilationUnit"
    (CompilationUnit.mk <$> optional "path" string <*> optional "source" string
      <*> NodeDecoders.listField "classes" ClassDecl.decoder) false

end CompilationUnit

/-! ## Texts -/

/-- Reads a value from a whole tree. -/
def Json.Decoder.run {α : Type} (decoder : Decoder α) (tree : Tree) : Except DecodeError α :=
  decoder ⟨greatestDepth, false⟩ tree

/-- Reads a value from a document, behind which nothing may stand. -/
def Json.Decoder.runDocument {α : Type} (decoder : Decoder α) (document : Document) :
    Except DecodeError α := do
  let value ← decoder.run document.root
  if document.endsThere then .ok value else .error .malformed

/-- Reads a compilation unit from a JSON text. -/
def CompilationUnit.ofJson (text : String) : Except DecodeError CompilationUnit :=
  CompilationUnit.decoder.runDocument (Json.read text)

end LockDiscipline
