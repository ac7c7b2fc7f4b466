import Flowgraph.Pattern.CharSet

/-! Regular expressions over characters and what they match. A pattern sends the places where it
may begin to the places where it may end; a repetition collects these until no new one appears,
so matching takes no more rounds than the text has characters. -/

namespace Flowgraph

/-- What a place asks of the word characters before and after it. -/
inductive WordTest where
  | edge
  | inside
  | start
  | finish
  | startHalf
  | finishHalf
  deriving Repr, DecidableEq

def WordTest.holds (before after : Bool) : WordTest → Bool
  | .edge => before != after
  | .inside => before == after
  | .start => !before && after
  | .finish => before && !after
  | .startHalf => !before
  | .finishHalf => !after

inductive Spot where
  | textStart
  | textEnd
  | lineStart (crlf : Bool)
  | lineEnd (crlf : Bool)
  | word (test : WordTest) (asciiOnly : Bool)
  deriving Repr, DecidableEq

/-- Which groups are numbered, and by which name. -/
inductive Label where
  | silent
  | numbered
  | named (name : String)
  deriving Repr, DecidableEq

inductive Pattern where
  | empty
  | one (set : CharSet)
  | spot (spot : Spot)
  | group (label : Label) (a : Pattern)
  | seq (a b : Pattern)
  | alt (a b : Pattern)
  | repeated (a : Pattern) (least : Nat) (most : Option Nat)
  deriving Repr

namespace Pattern

/-- The patterns one after the other. -/
def sequence : List Pattern → Pattern
  | [] => .empty
  | [a] => a
  | a :: rest => .seq a (sequence rest)

def choice : List Pattern → Pattern
  | [] => .empty
  | [a] => a
  | a :: rest => .alt a (choice rest)

def isSeq : Pattern → Bool
  | .seq _ _ => true
  | _ => false

def isAlt : Pattern → Bool
  | .alt _ _ => true
  | _ => false

/-- How deep groups, repetitions, sequences, choices and classes are nested in one another. -/
def height : Pattern → Nat
  | .empty | .spot _ => 0
  | .one set => set.height
  | .group _ a | .repeated a _ _ => a.height + 1
  | .seq a b => max (a.height + 1) (if b.isSeq then b.height else b.height + 1)
  | .alt a b => max (a.height + 1) (if b.isAlt then b.height else b.height + 1)

def names : Pattern → List String
  | .empty | .spot _ | .one _ => []
  | .group (.named name) a => name :: a.names
  | .group _ a | .repeated a _ _ => a.names
  | .seq a b | .alt a b => a.names ++ b.names

/-- A place in a text: how many characters are before it, the last of them, and all after it. -/
structure Place where
  index : Nat
  before : Option Char
  rest : List Char

def Place.step? (set : CharSet) (p : Place) : Option Place :=
  match p.rest with
  | c :: rest => if set.has c then some ⟨p.index + 1, some c, rest⟩ else none
  | [] => none

def Place.meets (p : Place) : Spot → Bool
  | .textStart => p.before.isNone
  | .textEnd => p.rest.isEmpty
  | .lineStart false => p.before.all (· == '\n')
  | .lineEnd false => p.rest.head?.all (· == '\n')
  | .lineStart true => p.before.all fun c => c == '\n' || c == '\r' && p.rest.head? != some '\n'
  | .lineEnd true => p.rest.head?.all fun c => c == '\r' || c == '\n' && p.before != some '\r'
  | .word test asciiOnly =>
    let isWord (c : Option Char) := c.any (CharSet.word asciiOnly).has
    test.holds (isWord p.before) (isWord p.rest.head?)

/-- The places of either list, each once, where both lists are in order. -/
def merge : List Place → List Place → List Place
  | [], qs => qs
  | ps, [] => ps
  | p :: ps, q :: qs =>
    if p.index < q.index then p :: merge ps (q :: qs)
    else if q.index < p.index then q :: merge (p :: ps) qs
    else p :: merge ps qs

/-- The places of the first list that are not in the second one, where both are in order. -/
def without : List Place → List Place → List Place
  | [], _ => []
  | ps, [] => ps
  | p :: ps, q :: qs =>
    if p.index < q.index then p :: without ps (q :: qs)
    else if q.index < p.index then without (p :: ps) qs
    else without ps qs

/-- The places after exactly `n` rounds; a round that changes nothing is the last. -/
def rounds (step : List Place → List Place) : Nat → List Place → List Place
  | 0, ps => ps
  | n + 1, ps =>
    let next := step ps
    if next.map (·.index) = ps.map (·.index) then ps else rounds step n next

/-- The places after at most `n` further rounds; only new ones are followed. -/
def reach (step : List Place → List Place) : Nat → List Place → List Place → List Place
  | 0, seen, _ => seen
  | n + 1, seen, edge =>
    let next := without (step edge) seen
    if next.isEmpty then seen else reach step n (merge seen next) next

/-- A bound on useful rounds: each of them takes at least one character. -/
def bound (most : Option Nat) (least available : Nat) : Nat :=
  match most with
  | some m => min (m - least) available
  | none => available

/-- The places, in order, where a match from one of the given ones may end. -/
def ends : Pattern → List Place → List Place
  | .empty, ps => ps
  | .one set, ps => ps.filterMap (·.step? set)
  | .spot s, ps => ps.filter (·.meets s)
  | .group _ a, ps => a.ends ps
  | .seq a b, ps => b.ends (a.ends ps)
  | .alt a b, ps => merge (a.ends ps) (b.ends ps)
  | .repeated a least most, ps =>
    let first := rounds a.ends least ps
    reach a.ends (bound most least ((first.head?.map (·.rest.length)).getD 0)) first first

/-- All places from the given one to the end of the text. -/
def placesFrom (index : Nat) (before : Option Char) : List Char → List Place
  | [] => [⟨index, before, []⟩]
  | c :: rest => ⟨index, before, c :: rest⟩ :: placesFrom (index + 1) (some c) rest

def occursIn (pattern : Pattern) (text : String) : Bool :=
  !(pattern.ends (placesFrom 0 none text.toList)).isEmpty

end Pattern
end Flowgraph
