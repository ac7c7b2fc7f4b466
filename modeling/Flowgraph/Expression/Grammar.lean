import Flowgraph.Expression.Basic
import Flowgraph.Number.Literal

/-! The grammar of expressions. Binary operators associate to the left and bind in six levels,
tighter in each: or, and, equality, comparison, sums, products; unary operators bind tighter
still, and member access and indexing tightest. Blanks are the ASCII space, tab and line ends;
they may stand around operators, brackets and whole operands, but not everywhere: none is taken
after a field name. A reader either misses, so that an alternative may be tried, or fails for good. -/

namespace Flowgraph.Expr.Grammar

inductive Parsed (α : Type) where
  | ok (value : α) (rest : List Char)
  | miss (near : List Char)
  | fail (near : List Char)

abbrev Parser (α : Type) := List Char → Parsed α

def isSpace (c : Char) : Bool := c == ' ' || c == '\t' || c == '\r' || c == '\n'
def skipSpace (s : List Char) : List Char := s.dropWhile isSpace

/-- Makes a miss final. -/
def committed (p : Parser α) : Parser α := fun s =>
  match p s with
  | .miss near => .fail near
  | result => result

/-- Blanks may stand on either side. -/
def spaced (p : Parser α) : Parser α := fun s =>
  match p (skipSpace s) with
  | .ok value rest => .ok value (skipSpace rest)
  | result => result

def char (c : Char) : Parser Unit
  | d :: rest => if c = d then .ok () rest else .miss (d :: rest)
  | [] => .miss []

/-- The text after the given start, if it starts so. -/
def after? : List Char → List Char → Option (List Char)
  | [], s => some s
  | c :: cs, d :: s => if c = d then after? cs s else none
  | _ :: _, [] => none

/-- The spellings of the operators of one level; of two that fit the first is taken. -/
abbrev Spellings := List (String × BinaryOp)

def spelled (table : Spellings) : Parser BinaryOp := fun s =>
  match table.findSome? fun (text, op) => (after? text.toList s).map (op, ·) with
  | some (op, rest) => .ok op rest
  | none => .miss s

def orOps : Spellings := [("||", .connective .or)]
def andOps : Spellings := [("&&", .connective .and)]
def equalityOps : Spellings :=
  [("===", .operator .eq), ("==", .operator .eq), ("!==", .operator .ne), ("!=", .operator .ne)]
def comparisonOps : Spellings :=
  [(">=", .operator .ge), ("<=", .operator .le), (">", .operator .gt), ("<", .operator .lt)]
def sumOps : Spellings := [("+", .operator .add), ("-", .operator .sub)]
def productOps : Spellings := [("*", .operator .mul), ("/", .operator .div), ("%", .operator .rem)]

/-- The levels of binary operators, the loosest first. -/
def levels : List Spellings := [orOps, andOps, equalityOps, comparisonOps, sumOps, productOps]

/-- Further operands of one level, at most `n`; after an operator its operand must follow. -/
def chainRest (table : Spellings) (operand : Parser Expr) : Nat → Expr → Parser Expr
  | 0, left, s => .ok left s
  | n + 1, left, s => match spaced (spelled table) s with
    | .ok op rest => match committed operand rest with
      | .ok right rest => chainRest table operand n (.binary op left right) rest
      | result => result
    | _ => .ok left s

def chain (n : Nat) (table : Spellings) (operand : Parser Expr) : Parser Expr := fun s =>
  match operand s with
  | .ok left rest => chainRest table operand n left rest
  | result => result

def isNameStart (c : Char) : Bool := c.isAlpha || c == '_' || c == '$'
def isNameChar (c : Char) : Bool := c.isAlphanum || c == '_' || c == '$'

def identifier : Parser String
  | c :: rest =>
    if isNameStart c then .ok (.ofList (c :: rest.takeWhile isNameChar)) (rest.dropWhile isNameChar)
    else .miss (c :: rest)
  | [] => .miss []

def digits : Parser (List Char) := fun s =>
  if (s.takeWhile Char.isDigit).isEmpty then .miss s
  else .ok (s.takeWhile Char.isDigit) (s.dropWhile Char.isDigit)

/-- A name, or digits, after a dot. -/
def fieldName : Parser String := fun s =>
  match identifier s with
  | .ok name rest => .ok name rest
  | _ => match digits s with
    | .ok ds rest => .ok (.ofList ds) rest
    | _ => .miss s

def memberAccess : Parser String := fun s =>
  match spaced (char '.') s with
  | .ok _ rest => fieldName rest
  | _ => .miss s

def indexAccess (expression : Parser Expr) : Parser Expr := fun s =>
  match spaced (char '[') s with
  | .ok _ rest => match expression rest with
    | .ok key rest => match spaced (char ']') rest with
      | .ok _ rest => .ok key rest
      | _ => .fail rest
    | result => result
  | _ => .miss s

/-- Accesses after an operand, at most `n`. What is no complete access is left unread. -/
def accesses (expression : Parser Expr) : Nat → Expr → Parser Expr
  | 0, target, s => .ok target s
  | n + 1, target, s => match memberAccess s with
    | .ok field rest => accesses expression n (.member target field) rest
    | _ => match indexAccess expression s with
      | .ok key rest => accesses expression n (.index target key) rest
      | _ => .ok target s

/-- The digits of an exponent with its letter and sign; nothing where they are incomplete. -/
def exponentPart : List Char → Option (Int × List Char)
  | c :: rest =>
    if c == 'e' || c == 'E' then
      let (negative, ds) := match rest with
        | '-' :: more => (true, more)
        | '+' :: more => (false, more)
        | more => (false, more)
      match digits ds with
      | .ok e rest => some (if negative then -(Literal.ofDigits e : Int) else Literal.ofDigits e, rest)
      | _ => none
    else none
  | [] => none

/-- Digits with an optional fraction and exponent. Digits alone are exact up to `2^63 - 1`. -/
def numberLiteral : Parser Expr := fun s =>
  match digits s with
  | .ok whole rest =>
    let (fraction, rest) := match rest with
      | '.' :: more => match digits more with
        | .ok ds rest => (ds, rest)
        | _ => ([], rest)
      | _ => ([], rest)
    let (exponent, rest) := match exponentPart rest with
      | some (e, rest) => (some e, rest)
      | none => (none, rest)
    if fraction.isEmpty && exponent.isNone && Literal.ofDigits whole < 0x8000000000000000 then
      .ok (.literal (.number (.int (Literal.ofDigits whole)))) rest
    else
      let x := Literal.nearest (Literal.ofDigits (whole ++ fraction)) (exponent.getD 0 - fraction.length)
      if Binary64.isFinite x then .ok (.literal (.ofFloat x)) rest else .fail s
  | .miss near => .miss near
  | .fail near => .fail near

def unescape (c : Char) : Char :=
  if c == 'n' then '\n' else if c == 't' then '\t' else if c == 'r' then '\r' else c

/-- The characters of a string up to its closing quote. -/
def quotedRest (quote : Char) : List Char → Option (List Char × List Char)
  | [] => none
  | '\\' :: c :: rest => (quotedRest quote rest).map fun (cs, rest) => (unescape c :: cs, rest)
  | c :: rest =>
    if c = quote then some ([], rest)
    else if c = '\\' then none
    else (quotedRest quote rest).map fun (cs, rest) => (c :: cs, rest)

def stringLiteral : Parser Expr
  | [] => .miss []
  | q :: rest =>
    if q == '"' || q == '\'' then
      match quotedRest q rest with
      | some (cs, rest) => .ok (.literal (.string (.ofList cs))) rest
      | none => .fail (q :: rest)
    else .miss (q :: rest)

/-- Arguments after the first, at most `n`; a comma that no argument follows is left unread. -/
def argumentsRest (expression : Parser Expr) : Nat → List Expr → Parser (List Expr)
  | 0, done, s => .ok done.reverse s
  | n + 1, done, s => match char ',' s with
    | .ok _ rest => match expression rest with
      | .ok arg rest => argumentsRest expression n (arg :: done) rest
      | .fail near => .fail near
      | .miss _ => .ok done.reverse s
    | _ => .ok done.reverse s

def argumentList (n : Nat) (expression : Parser Expr) : Parser (List Expr) := fun s =>
  match expression s with
  | .ok arg rest => argumentsRest expression n [arg] rest
  | .fail near => .fail near
  | .miss _ => .ok [] s

/-- Arguments in parentheses; once the opening one is read the closing one must follow. -/
def callArguments (n : Nat) (expression : Parser Expr) : Parser (List Expr) := fun s =>
  match spaced (char '(') s with
  | .ok _ rest => match argumentList n expression rest with
    | .ok args rest => match committed (char ')') (skipSpace rest) with
      | .ok _ rest => .ok args rest
      | .fail near => .fail near
      | .miss near => .miss near
    | result => result
  | _ => .miss s

/-- The values that names stand for by themselves. -/
def reserved? : String → Option Json
  | "true" => some (.bool true)
  | "false" => some (.bool false)
  | "null" => some .null
  | "undefined" => some .null
  | _ => none

def named (n : Nat) (expression : Parser Expr) : Parser Expr := fun s =>
  match identifier s with
  | .ok name rest => match reserved? name with
    | some value => .ok (.literal value) rest
    | none => match callArguments n expression rest with
      | .ok args rest => .ok (.call name args) rest
      | .fail near => .fail near
      | .miss _ => .ok (.ident name) rest
  | .miss near => .miss near
  | .fail near => .fail near

def parenthesized (expression : Parser Expr) : Parser Expr := fun s =>
  match char '(' s with
  | .ok _ rest => match expression rest with
    | .ok e rest => match committed (char ')') rest with
      | .ok _ rest => .ok e rest
      | .miss near => .miss near
      | .fail near => .fail near
    | result => result
  | .miss near => .miss near
  | .fail near => .fail near

/-- The first reader that does not miss; if all miss, the last one's miss. -/
def orElse (p q : Parser α) : Parser α := fun s =>
  match p s with
  | .miss _ => q s
  | result => result

def primary (n : Nat) (expression : Parser Expr) : Parser Expr :=
  spaced (orElse numberLiteral (orElse stringLiteral (orElse (parenthesized expression) (named n expression))))

def postfixed (n : Nat) (expression : Parser Expr) : Parser Expr := fun s =>
  match primary n expression s with
  | .ok target rest => accesses expression n target rest
  | result => result

def prefixed (sign : Char) (op : UnaryOp) (operand : Parser Expr) : Parser Expr := fun s =>
  match spaced (char sign) s with
  | .ok _ rest => match operand rest with
    | .ok e rest => .ok (.unary op e) rest
    | result => result
  | .miss near => .miss near
  | .fail near => .fail near

/-- At most `n` unary operators before an operand. -/
def unary (operand : Parser Expr) : Nat → Parser Expr
  | 0 => operand
  | n + 1 => orElse (prefixed '!' .not (unary operand n)) (orElse (prefixed '-' .neg (unary operand n)) operand)

/-- An expression in which no sequence and no nesting is longer than `n`. -/
def expression : Nat → Parser Expr
  | 0 => .miss
  | n + 1 => levels.foldr (chain n) (unary (postfixed n (expression n)) n)

/-- The brackets open, the operators so far, and the quote and escape that the scan is in. -/
structure Tally where
  nesting : Nat
  operators : Nat
  quote : Option Char
  escaped : Bool

def isOperatorChar (c : Char) : Bool := "+-*/%!<>=&|.,".toList.contains c

/-- Counts one character; what stands in quotes does not count. -/
def Tally.count (t : Tally) (c : Char) : Except Excess Tally :=
  match t.quote with
  | some q =>
    .ok (if t.escaped then { t with escaped := false }
      else if c == '\\' then { t with escaped := true }
      else if c == q then { t with quote := none } else t)
  | none =>
    let opens := c == '(' || c == '['
    let t' : Tally :=
      if c == '"' || c == '\'' then { t with quote := some c }
      else if opens then { t with nesting := t.nesting + 1, operators := t.operators + 1 }
      else if c == ')' || c == ']' then { t with nesting := t.nesting - 1 }
      else if isOperatorChar c then { t with operators := t.operators + 1 } else t
    if opens && maxNesting < t'.nesting then .error .nesting
    else if maxOperators < t'.operators then .error .operators else .ok t'

def tally (s : List Char) : Except Excess Tally := s.foldlM Tally.count ⟨0, 0, none, false⟩

/-- What a message shows of the text where reading stopped. -/
def excerpt (near : List Char) : String :=
  if near.isEmpty then "end of input" else .ofList (near.take 24)

end Grammar

def parse (source : String) : Except Error Expr :=
  match Grammar.tally source.toList with
  | .error excess => .error (.tooComplex excess)
  | .ok _ => match Grammar.expression (source.length + 1) source.toList with
    | .ok e [] => .ok e
    | .ok _ rest => .error (.malformed (Grammar.excerpt rest))
    | .miss near => .error (.malformed (Grammar.excerpt near))
    | .fail near => .error (.malformed (Grammar.excerpt near))

end Flowgraph.Expr
