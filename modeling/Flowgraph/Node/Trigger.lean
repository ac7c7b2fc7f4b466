import Flowgraph.Data.Comparison
import Flowgraph.Data.Path
import Flowgraph.Json.Text
import Flowgraph.Node.Basic
import Flowgraph.Pattern.Reader

/-! Which events a trigger answers to. Every expected value must be found in the payload; a text
between slashes is a regular expression for the text of the value found, and one that cannot be
read matches nothing. -/

namespace Flowgraph

/-- The regular expression between the slashes of an expected value. -/
def slashed? (expected : Json) : Option String :=
  match expected with
  | .string s => match s.toList with
    | '/' :: rest => if rest.getLast? = some '/' then some (.ofList rest.dropLast) else none
    | _ => none
  | _ => none

def expectationHolds (expected actual : Json) : Bool :=
  match slashed? expected with
  | some source => (Pattern.read? source).any (·.occursIn actual.plain)
  | none => Json.looseEq actual expected

def Trigger.matches (t : Trigger) (origin event : String) (payload : Json) : Bool :=
  t.origin == origin && t.event == event &&
    (t.payloadMatch.getD []).all fun (path, expected) =>
      (Path.lookup payload path).any (expectationHolds expected)

end Flowgraph
