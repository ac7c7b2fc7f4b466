import Flowgraph.Json.Reader
import Flowgraph.Json.Text
import Flowgraph.Store.Fault
import Flowgraph.Time.Instant

/-! What columns of tables keep of the values that are put into them. Text and documents hold no NUL
character; times are whole microseconds, cut off towards the start of the year 2000; and numbers in
documents are decimals, of which only those with a point read back as binary64. -/

namespace Flowgraph.Column

def hasNul (s : String) : Bool := s.toList.contains '\x00'

def text (s : String) : Except DatabaseFault String :=
  if hasNul s then .error (.rejected "invalid byte sequence for encoding \"UTF8\": 0x00") else .ok s

/-- The start of the year 2000, in nanoseconds. -/
def epoch : Int := 946684800 * 1000000000

/-- The first time there is in a column, the start of the Julian period, in microseconds from the year 2000. -/
def firstMicros : Int := -211813488000000000

/-- The time as a column counts it, a leap second as the second after it. -/
def micros (t : Instant) : Int := (t.nanos + (if t.leap then 1000000000 else 0) - epoch).tdiv 1000

def time (t : Instant) : Except DatabaseFault Instant :=
  if micros t < firstMicros then .error (.rejected "timestamp out of range")
  else .ok ⟨epoch + micros t * 1000, false⟩

/-- The digits of a number, all written out. -/
def decimal (x : Float) : String :=
  let written := Shortest.document x
  if written.contains 'e' then Shortest.prose x else written

/-- A number after it has been kept as a decimal, which has no negative zero. -/
def number : Number → Number
  | .int n => .int n
  | .float x =>
    if x == 0 then .float 0
    else match Json.Reader.number (decimal x).toList with
      | some (n, _) => n
      | none => .float x

mutual

/-- Whether no string and no key of a document holds a NUL character. -/
def isClean : Json → Bool
  | .string s => !hasNul s
  | .array items => areClean items
  | .object fields => fieldsAreClean fields
  | _ => true

def areClean : List Json → Bool
  | [] => true
  | value :: rest => isClean value && areClean rest

def fieldsAreClean : List (String × Json) → Bool
  | [] => true
  | (key, value) :: rest => !hasNul key && isClean value && fieldsAreClean rest

end

mutual

/-- A document with its numbers as they are kept. -/
def settled : Json → Json
  | .number n => .number (number n)
  | .array items => .array (settledItems items)
  | .object fields => .object (settledFields fields)
  | value => value

def settledItems : List Json → List Json
  | [] => []
  | value :: rest => settled value :: settledItems rest

def settledFields : List (String × Json) → List (String × Json)
  | [] => []
  | (key, value) :: rest => (key, settled value) :: settledFields rest

end

def json (value : Json) : Except DatabaseFault Json :=
  if isClean value then .ok (settled value) else .error (.rejected "unsupported Unicode escape sequence")

/-- Documents one after the other; a single value counts as an array of itself. -/
def joined : Json → List Json → Json
  | .array items, more => .array (items ++ more)
  | value, more => .array (value :: more)

end Flowgraph.Column
