import Flowgraph.Json.Text

/-! Expressions over the data of a run: their trees, and the ways in which reading or
evaluating one can fail. -/

namespace Flowgraph

/-- What kind of value a JSON value is, as messages name it. -/
inductive Json.Kind where
  | null | boolean | number | string | array | object
  deriving DecidableEq, Repr

def Json.kind : Json → Json.Kind
  | .null => .null
  | .bool _ => .boolean
  | .number _ => .number
  | .string _ => .string
  | .array _ => .array
  | .object _ => .object

def Json.Kind.name : Json.Kind → String
  | .null => "null"
  | .boolean => "boolean"
  | .number => "number"
  | .string => "string"
  | .array => "array"
  | .object => "object"

inductive UnaryOp where
  | not | neg
  deriving DecidableEq, Repr

/-- The operators that may leave their right operand unevaluated. -/
inductive Connective where
  | or | and
  deriving DecidableEq, Repr

/-- The operators that need both operands. -/
inductive Operator where
  | eq | ne | gt | ge | lt | le | add | sub | mul | div | rem
  deriving DecidableEq, Repr

inductive BinaryOp where
  | connective (op : Connective)
  | operator (op : Operator)
  deriving DecidableEq, Repr

def UnaryOp.name : UnaryOp → String
  | .not => "Not"
  | .neg => "Neg"

def Operator.name : Operator → String
  | .eq => "Eq"
  | .ne => "Ne"
  | .gt => "Gt"
  | .ge => "Ge"
  | .lt => "Lt"
  | .le => "Le"
  | .add => "Add"
  | .sub => "Sub"
  | .mul => "Mul"
  | .div => "Div"
  | .rem => "Rem"

def BinaryOp.name : BinaryOp → String
  | .connective .or => "Or"
  | .connective .and => "And"
  | .operator op => op.name

inductive Expr where
  | literal (value : Json)
  | ident (name : String)
  | member (target : Expr) (field : String)
  | index (target key : Expr)
  | unary (op : UnaryOp) (operand : Expr)
  | binary (op : BinaryOp) (left right : Expr)
  | call (name : String) (args : List Expr)
  deriving Repr, Inhabited

namespace Expr

mutual

def outline : Expr → String
  | .literal value => value.compact
  | .ident name => "(ident " ++ name ++ ")"
  | .member target field => "(member " ++ outline target ++ " " ++ field ++ ")"
  | .index target key => "(index " ++ outline target ++ " " ++ outline key ++ ")"
  | .unary op operand => "(" ++ op.name ++ " " ++ outline operand ++ ")"
  | .binary op left right => "(" ++ op.name ++ " " ++ outline left ++ " " ++ outline right ++ ")"
  | .call name args => "(call " ++ name ++ outlineAll args ++ ")"

def outlineAll : List Expr → String
  | [] => ""
  | arg :: rest => " " ++ outline arg ++ outlineAll rest

end

inductive TypeFault where
  | cannotNegate (operand : Json.Kind)
  | needsNumbers (op : Operator) (left right : Json.Kind)
  | cannotCompare (left right : Json.Kind)
  | needsNumber (function : String) (operand : Json.Kind)
  | noLength (operand : Json.Kind)
  | notFinite
  deriving DecidableEq, Repr

inductive Excess where
  | nesting | operators
  deriving DecidableEq, Repr

inductive Error where
  | malformed (near : String)
  | unknownIdentifier (name : String)
  | unknownFunction (name : String)
  | arity (name : String) (expected got : Nat)
  | mistyped (fault : TypeFault)
  | divisionByZero
  | tooComplex (excess : Excess)
  deriving DecidableEq, Repr

def maxNesting : Nat := 32

/-- The most operator, bracket and separator characters in an expression text. -/
def maxOperators : Nat := 128

def TypeFault.message : TypeFault → String
  | .cannotNegate k => s!"cannot negate {k.name}"
  | .needsNumbers op l r => s!"operator {op.name} needs numbers, got {l.name} and {r.name}"
  | .cannotCompare l r => s!"cannot compare {l.name} with {r.name}"
  | .needsNumber f k => s!"{f}() needs a number, got {k.name}"
  | .noLength k => s!"len() of {k.name}"
  | .notFinite => "result is not a finite number"

def Excess.message : Excess → String
  | .nesting => s!"nested deeper than {maxNesting} levels"
  | .operators => s!"more than {maxOperators} operators"

def Error.message : Error → String
  | .malformed near => s!"syntax error near `{near}`"
  | .unknownIdentifier name => s!"unknown identifier '{name}'"
  | .unknownFunction name => s!"unknown function '{name}'"
  | .arity name expected got => s!"function '{name}' expects {expected} argument(s), got {got}"
  | .mistyped fault => "type error: " ++ fault.message
  | .divisionByZero => "division by zero"
  | .tooComplex excess => "expression too complex: " ++ excess.message

end Expr
end Flowgraph
