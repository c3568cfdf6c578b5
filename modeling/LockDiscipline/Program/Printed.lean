-- Expressions as they read in source. What the analysis cannot take apart is compared by this text,
-- so an expression has exactly one.
import LockDiscipline.Program.Expr

namespace LockDiscipline

/-! ## The text of an expression -/

mutual

/-- The source text of an expression. The body of a lambda is not written out. -/
def Expr.text : Expr → String
  | .this _ => "this"
  | .qualifiedThis cls _ => cls ++ ".this"
  | .name n _ => n
  | .select receiver n _ => receiver.text ++ "." ++ n
  | .classLit cls _ => cls ++ ".class"
  | .call none method args _ => method ++ "(" ++ ", ".intercalate (Expr.texts args) ++ ")"
  | .call (some receiver) method args _ =>
    receiver.text ++ "." ++ method ++ "(" ++ ", ".intercalate (Expr.texts args) ++ ")"
  | .new cls args _ => "new " ++ cls ++ "(" ++ ", ".intercalate (Expr.texts args) ++ ")"
  | .assign target value none _ => target.text ++ " = " ++ value.text
  | .assign target value (some op) _ => target.text ++ " " ++ op ++ "= " ++ value.text
  | .unary op operand _ =>
    if op = "post++" then operand.text ++ "++"
    else if op = "post--" then operand.text ++ "--"
    else op ++ operand.text
  | .binary op lhs rhs _ => lhs.text ++ " " ++ op ++ " " ++ rhs.text
  | .conditional cond thenVal elseVal _ =>
    cond.text ++ " ? " ++ thenVal.text ++ " : " ++ elseVal.text
  | .index base i _ => base.text ++ "[" ++ i.text ++ "]"
  | .cast type expr _ => "((" ++ type ++ ") " ++ expr.text ++ ")"
  | .lambda params _ _ => "(" ++ ", ".intercalate (params.map (·.name)) ++ ") -> \x7b...\x7d"
  | .literal value _ => value

/-- The source texts of a list of expressions. -/
def Expr.texts : List Expr → List String
  | [] => []
  | expr :: rest => expr.text :: Expr.texts rest

end

end LockDiscipline
