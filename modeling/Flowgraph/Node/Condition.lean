import Flowgraph.Data.Comparison
import Flowgraph.Data.Path
import Flowgraph.Json.Text
import Flowgraph.Node.Basic

/-! When conditions hold. A field that is not found differs from everything and is otherwise in no
relation to anything. -/

namespace Flowgraph

def occursIn (needle : List Char) : List Char → Bool
  | [] => needle.isEmpty
  | c :: rest => needle.isPrefixOf (c :: rest) || occursIn needle rest

/-- A text contains texts, and an array contains its items. -/
def containsValue (actual needle : Json) : Bool :=
  match actual with
  | .string s => occursIn needle.plain.toList s.toList
  | .array items => items.any (Json.looseEq · needle)
  | _ => false

def ordered (holds : Ordering → Bool) (actual expected : Json) : Bool :=
  (Json.compare? actual expected).any holds

/-- A comparison of the value found, if any, with the expected one. -/
def Comparison.holds (c : Comparison) (actual : Option Json) (expected : Json) : Bool :=
  match c, actual with
  | .present, found => found.any (!·.isNull)
  | .absent, found => found.all Json.isNull
  | .notEquals, none => true
  | _, none => false
  | .equals, some a => Json.looseEq a expected
  | .notEquals, some a => !Json.looseEq a expected
  | .gt, some a => ordered (· == .gt) a expected
  | .gte, some a => ordered (· != .lt) a expected
  | .lt, some a => ordered (· == .lt) a expected
  | .lte, some a => ordered (· != .gt) a expected
  | .contains, some a => containsValue a expected

def Clause.holds (data : Json) (c : Clause) : Bool := c.comparison.holds (Path.lookup data c.field) c.value

def Clause.allHold (clauses : List Clause) (data : Json) : Bool := clauses.all (·.holds data)

end Flowgraph
