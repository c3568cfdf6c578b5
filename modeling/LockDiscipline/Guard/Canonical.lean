-- Two expressions for one lock have one canonical form: `mu` and `this.mu`, or `Outer.this.mu` and
-- `mu` in an inner class. The form exists for every expression; one that no rule takes apart stands
-- for itself, by its text.
import LockDiscipline.Guard.Scope
import LockDiscipline.Program.Printed

namespace LockDiscipline

namespace Context

variable (ctx : Context)

/-- How many frames out the class stands that a qualified `this` names: the frame of the type that
the text stands for or, if it stands for none, the first one of that simple name. -/
def levelOf (written : String) : Option Nat :=
  match ctx.types.resolve written with
  | some type => ctx.scope.frames.findIdx? (·.name == type)
  | none => ctx.scope.frames.findIdx? (·.name.simple == written)

/-- The field that a bare name means: the one of the innermost class that has it. An instance field
needs an object of that class at hand. -/
def fieldNamed (name : String) : Option Guard :=
  (ctx.scope.frames.zipIdx.findSome? fun (frame, level) =>
    (ctx.types.field frame.name name).map (·, level)).bind fun (field, level) =>
      if field.isStatic then some (.staticField field)
      else (ctx.scope.instanceAt level).map (.field · field)

/-- What a bare name means: a local, else a field. -/
def named (name : String) : Option Guard :=
  match ctx.locals.lookup name with
  | some type => some (.verbatim name (some type))
  | none => ctx.fieldNamed name

/-- A field of a guard's object, where its type has one of that name. -/
def fieldOf (base : Guard) (name : String) : Option Guard := do
  let owner ← base.type
  let field ← ctx.types.field owner name
  if field.isStatic then some (.staticField field) else some (.field base field)

/-- A static field of a type that is written as a dotted name. -/
def staticFieldOf (receiver : Expr) (name : String) : Option Guard := do
  let owner ← ctx.types.resolve (← receiver.dottedName?)
  let field ← ctx.types.field owner name
  if field.isStatic then some (.staticField field) else none

/-- A field selected from a receiver. A receiver that is not a value, because it is known by its
text only and has no type, may be the name of a type. -/
def selected (receiver : Expr) (base : Guard) (name : String) : Option Guard :=
  if base.isVerbatim && base.type.isNone then ctx.staticFieldOf receiver name
  else ctx.fieldOf base name

/-- The canonical form of an expression, where some rule takes the expression apart. -/
def decompose : Expr → Option Guard
  | .this _ => ctx.scope.instanceAt 0
  | .qualifiedThis cls _ => (ctx.levelOf cls).bind ctx.scope.instanceAt
  | .name name _ => ctx.named name
  | .select receiver name _ =>
    ctx.selected receiver ((decompose receiver).getD (.verbatim receiver.text none)) name
  | .classLit cls _ => some (.classLit (ctx.types.written cls))
  | _ => none

/-- The canonical form of an expression. -/
def canonical (expr : Expr) : Guard :=
  (ctx.decompose expr).getD (.verbatim expr.text none)

end Context

end LockDiscipline
