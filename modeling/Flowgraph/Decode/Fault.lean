import Flowgraph.Json.Text
import Flowgraph.Text.Quoted

/-! The ways in which a JSON value can fail to be what is asked for, and their wording. -/

namespace Flowgraph

inductive Decode.Fault where
  | missing (field : String)
  | duplicate (field : String)
  | unknownVariant (name : String) (known : List String)
  | invalidType (got : Json) (expected : String)
  | invalidValue (got : Json) (expected : String)
  | invalidLength (length : Nat) (expected : String)
  | malformed (message : String)
  deriving Repr

def Json.describe : Json → String
  | .null => "null"
  | .bool b => s!"boolean `{b}`"
  | .number (.int n) => s!"integer `{n}`"
  | .number (.float x) => s!"floating point `{(Number.float x).text}`"
  | .string s => s!"string {Text.quoted s}"
  | .array _ => "sequence"
  | .object _ => "map"

namespace Decode

private def ticked (name : String) : String := s!"`{name}`"

/-- The variants there are, as a message lists them. -/
def oneOf : List String → String
  | [] => "there are no variants"
  | [a] => s!"expected {ticked a}"
  | [a, b] => s!"expected {ticked a} or {ticked b}"
  | names => "expected one of " ++ ", ".intercalate (names.map ticked)

def Fault.message : Fault → String
  | .missing field => s!"missing field {ticked field}"
  | .duplicate field => s!"duplicate field {ticked field}"
  | .unknownVariant name known => s!"unknown variant {ticked name}, {oneOf known}"
  | .invalidType got expected => s!"invalid type: {got.describe}, expected {expected}"
  | .invalidValue got expected => s!"invalid value: {got.describe}, expected {expected}"
  | .invalidLength n expected => s!"invalid length {n}, expected {expected}"
  | .malformed message => message

end Decode
end Flowgraph
