import Std.Data.HashMap
import Flowgraph.Pattern.Shape

/-! The room that a machine for a pattern takes. A machine has states of 32 bytes each, and more
bytes for the edges of a set of bytes and of a branch. It is laid out once to run forward and once
to run backward; a pattern is usable if both fit into ten mebibytes. -/

namespace Flowgraph

/-- What is laid out so far: the number of states, and the bytes for their edges. -/
structure Layout where
  states : Nat
  edges : Nat

namespace Layout

def limit : Nat := 10485760

/-- A further state, if there is room for it. Its number is the number of states before it. -/
def add (edges : Nat) (l : Layout) : Option Layout :=
  let l : Layout := ⟨l.states + 1, l.edges + edges⟩
  if 32 * l.states + l.edges ≤ limit then some l else none

/-- More edges for a state that is there, if there is room for them. -/
def grow (edges : Nat) (l : Layout) : Option Layout :=
  let l : Layout := ⟨l.states, l.edges + edges⟩
  if 32 * l.states + l.edges ≤ limit then some l else none

def copies (part : Layout → Option Layout) : Nat → Layout → Option Layout
  | 0, l => some l
  | n + 1, l => match part l with
    | some l => copies part n l
    | none => none

/-- A branch between two states. -/
def fork (l : Layout) : Option Layout := l.add 8

def mix (h : UInt64) (n : Nat) : UInt64 := (h ^^^ n.toUInt64) * 0x100000001b3

/-- The slot of a table of the given size for a list of numbers. -/
def slot (size : Nat) (ns : List Nat) : Nat := (ns.foldl mix 0xcbf29ce484222325).toNat % size

/-- States by what they are for. A slot remembers the last state that was put into it. -/
abbrev Shared := Std.HashMap Nat (List Nat × Nat)

def Shared.find? (table : Shared) (size : Nat) (key : List Nat) : Option Nat :=
  match table[slot size key]? with
  | some (k, state) => if k == key then some state else none
  | none => none

/-- Chains by their first link, where equal ones follow each other. -/
def byHead : List (List Text.ByteRange) → List (Text.ByteRange × List (List Text.ByteRange))
  | [] => []
  | [] :: rest => byHead rest
  | (r :: chain) :: rest => match byHead rest with
    | (s, chains) :: more => if r == s then (r, chain :: chains) :: more else (r, [chain]) :: (s, chains) :: more
    | [] => [(r, [chain])]

/-- The state from which chains of at most `n` links lead to the state `target`; equal states are shared. -/
def joined (target : Nat) : Nat → List (List Text.ByteRange) → Shared × Layout → Option (Nat × Shared × Layout)
  | 0, _, now => some (target, now)
  | n + 1, chains, now => do
    let (key, now) ← (byHead chains).foldlM (fun (key, now) ((lo, hi), tails) => do
      let (next, now) ← if tails.all (·.isEmpty) then some (target, now) else joined target n tails now
      return (key ++ [lo, hi, next], now)) (([] : List Nat), now)
    let (table, l) := now
    match table.find? 10000 key with
    | some state => return (state, now)
    | none => return (l.states, table.insert (slot 10000 key) (key, l.states), ← l.add (8 * (key.length / 3)))

/-- A chain of states for one chain of bytes before `next`; equal states are shared. -/
def linked (next : Nat) : List Text.ByteRange → Shared × Layout → Option (Shared × Layout)
  | [], now => some now
  | (lo, hi) :: chain, (table, l) =>
    match table.find? 1000 [next, lo, hi] with
    | some state => linked state chain (table, l)
    | none => do linked l.states chain (table.insert (slot 1000 [next, lo, hi]) ([next, lo, hi], l.states), ← l.add 0)

/-- The states for a set: one for single bytes; forward a tree with shared ends, backward a branch
to a chain for each member. -/
def members (backward : Bool) (chains : List (List Text.ByteRange)) (l : Layout) : Option Layout :=
  if chains.all (·.length == 1) then do (← l.add 0).add (8 * chains.length)
  else if backward then do
    let next := l.states + 1
    let l ← (← l.add (4 * chains.length)).add 0
    return (← chains.foldlM (fun now chain => linked next chain now) ((∅ : Shared), l)).2
  else do
    let (_, _, done) ← joined l.states 4 chains ((∅ : Shared), ← l.add 0)
    return done

/-- The branches of a state by their first byte, cut where a branch ends. -/
def byFirst : List (List Nat) → List (List (Nat × List (List Nat)))
  | [] => [[]]
  | [] :: rest => [] :: byFirst rest
  | (b :: text) :: rest => match byFirst rest with
    | chunk :: more => (match chunk.lookup b with
      | some texts => (b, text :: texts) :: chunk.filter (·.1 != b)
      | none => (b, [text]) :: chunk) :: more
    | [] => [[(b, [text])]]

/-- Chunks with one empty one at the front where there are several. -/
def oneEmpty : List (List α) → List (List α)
  | [] :: [] :: chunks => oneEmpty ([] :: chunks)
  | chunks => chunks

/-- A tree for texts of at most `n` bytes; a branch that ends there stands between its chunks. -/
def tree : Nat → List (List Nat) → Layout → Option Layout
  | 0, _, l => some l
  | n + 1, texts, l => do
    let chunks := oneEmpty (byFirst texts)
    let l ← chunks.foldlM (fun l chunk => do
      let l ← chunk.foldlM (fun l (_, tails) => if tails.all (·.isEmpty) then some l else tree n tails l) l
      match chunk with
      | [] => return l
      | [_] => l.add 0
      | _ => l.add (8 * chunk.length)) l
    l.add (4 * ((chunks.filter (!·.isEmpty)).length + chunks.length - 1))

def lay (backward : Bool) : Shape → Layout → Option Layout
  | .empty, l | .spot _, l => l.add 0
  | .text chars, l => copies (add 0) (Shape.byteCount chars) l
  | .set _ chains, l => members backward chains l
  | .capture a, l => if backward then lay backward a l else do (← lay backward a (← l.add 0)).add 0
  | .seq a b, l => if backward then do lay backward a (← lay backward b l) else do lay backward b (← lay backward a l)
  | .alt a b, l => do
    let l ← lay backward b (← lay backward a l)
    match a with
    | .alt _ _ => l.grow 4
    | _ => (← l.fork).add 0
  | .texts branches, l => do
    let texts := branches.map (·.flatMap Text.utf8Bytes)
    tree ((texts.map List.length).foldl max 0) (if backward then texts.map List.reverse else texts) (← l.add 0)
  | .repeated a least most, l =>
    match least, most with
    | 0, some 1 => do (← lay backward a (← l.fork)).add 0
    | 0, none => do
      if a.shortest.any (0 < ·) then lay backward a (← l.fork) else (← (← (← lay backward a l).fork).fork).add 0
    | least, none => do (← copies (lay backward a) least l).fork
    | least, some most => do
      let l ← if least = 0 then l.add 0 else copies (lay backward a) least l
      if least < most then copies (fun l => do lay backward a (← l.fork)) (most - least) (← l.add 0) else return l

/-- The machine for a shape; one that may begin anywhere first skips bytes. -/
def machine (backward : Bool) (s : Shape) : Option Layout := do
  let l : Layout := ⟨0, 0⟩
  let l ← if (if backward then s.toEnd else s.fromStart) then l.add 0 else (← (← l.fork).add 0).add 8
  (← lay backward (.capture s) l).add 0

end Layout

/-- Whether there is room for the machines of the pattern. -/
def Pattern.fits (p : Pattern) : Bool :=
  let s := p.shape
  (Layout.machine false s).isSome && (Layout.machine true s).isSome

end Flowgraph
