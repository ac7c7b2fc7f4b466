import Flowgraph.Number.Binary64
import Flowgraph.Time.Calendar

/-! Points in time to the nanosecond, and lengths of time. -/

namespace Flowgraph

/-- Nanoseconds since the start of 1970. A leap second lies on top of the second before it. -/
structure Instant where
  nanos : Int
  leap : Bool
  deriving DecidableEq, Repr, Inhabited

/-- A length of time in nanoseconds. -/
abbrev Duration := Nat

namespace Duration

def second : Nat := 1000000000
def millisecond : Nat := 1000000
def ofSeconds (n : Nat) : Duration := n * second

/-- Lengths are held in 64 bits of seconds and a fraction. -/
def limit : Nat := 0x10000000000000000 * second

/-- The longest length that a point in time can be moved by: `2^63 - 1` milliseconds. -/
def longestShift : Nat := 0x7fffffffffffffff * millisecond

/-- A multiple, at most the longest length there is. -/
def times (d : Duration) (n : Nat) : Duration := min (d * n) (limit - 1)

/-- The magnitude in nanoseconds, rounded to nearest with ties to even. -/
def roundedNanos (p : Binary64.Parts) : Nat :=
  match p.exponent with
  | .ofNat k => p.mantissa <<< k * second
  | .negSucc k =>
    let unit := 1 <<< (k + 1)
    let n := p.mantissa * second
    let below := n / unit
    let rest := 2 * (n % unit)
    if rest < unit || (rest = unit && below % 2 = 0) then below else below + 1

/-- A length given in seconds, if it is a number and below the limit. -/
def ofFloatSeconds? (x : Float) : Option Duration :=
  if Binary64.isFinite x then
    let n := roundedNanos (Binary64.parts x)
    if n < limit then some n else none
  else none

end Duration

namespace Instant

/-- The first and the last year that points in time are held for. -/
def firstYear : Int := -262143
def lastYear : Int := 262142

def day : Int := 86400 * 1000000000

def earliest : Instant := ⟨(Calendar.Date.mk firstYear 1 1).toDays * day, false⟩
def latest : Instant := ⟨((Calendar.Date.mk lastYear 12 31).toDays + 1) * day - 1, false⟩

def inRange (t : Instant) : Bool := earliest.nanos ≤ t.nanos && t.nanos ≤ latest.nanos

/-- The point in time a number of nanoseconds later, if it is in range. -/
def shift? (t : Instant) (by_ : Int) : Option Instant :=
  let moved : Instant := ⟨t.nanos + by_, t.leap⟩
  if moved.inRange then some moved else none

def le (s t : Instant) : Bool :=
  s.nanos / 1000000000 < t.nanos / 1000000000 ||
    (s.nanos / 1000000000 = t.nanos / 1000000000 && (s.leap < t.leap || (s.leap = t.leap && s.nanos ≤ t.nanos)))

/-- The item with the earliest time; of several the one that stands first. -/
def earliestBy (time : α → Instant) : List α → Option α
  | [] => none
  | a :: rest => match earliestBy time rest with
    | some b => some (if (time a).le (time b) then a else b)
    | none => some a

end Instant
end Flowgraph
