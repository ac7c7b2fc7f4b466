import Flowgraph.Number.Literal
import Flowgraph.Pattern.Layout
import Flowgraph.Pattern.Property

/-! Regular expressions read from text. A text that is no regular expression, also one with
look-around or a back-reference, is refused, and so is a pattern that is nested too deeply, gives
two groups one name or needs too large a machine. Options such as `(?i)` hold to the end of the
group they stand in, across its alternatives. -/

namespace Flowgraph.Pattern.Reader

structure Options where
  anyCase : Bool
  lines : Bool
  crlf : Bool
  dotAll : Bool
  asciiOnly : Bool
  verbose : Bool

def Options.plain : Options := ⟨false, false, false, false, false, false⟩

/-- Sets one option. Greed changes no answer. -/
def Options.set? (o : Options) (c : Char) (on : Bool) : Option Options :=
  match c with
  | 'i' => some { o with anyCase := on }
  | 'm' => some { o with lines := on }
  | 'R' => some { o with crlf := on }
  | 's' => some { o with dotAll := on }
  | 'u' => some { o with asciiOnly := !on }
  | 'x' => some { o with verbose := on }
  | 'U' => some o
  | _ => none

/-- A set with all case variants of its members, where the options ask for them. -/
def Options.cased (o : Options) (set : CharSet) : CharSet :=
  if o.anyCase then .anyCase o.asciiOnly set else set

/-- A set or its complement. ASCII sets have none, since it would match parts of characters. -/
def Options.negated? (o : Options) (negated : Bool) (set : CharSet) : Option CharSet :=
  if negated then if o.asciiOnly then none else some (.compl set) else some set

/-- Blanks and comments, which verbose patterns skip. -/
def skipBlank (o : Options) (s : List Char) : List Char := if o.verbose then go false s else s
where
  go : Bool → List Char → List Char
    | _, [] => []
    | true, c :: rest => go (c != '\n') rest
    | false, c :: rest => if c == '#' then go true rest else if Text.isBlank c then go false rest else c :: rest

def asciiClass? : String → Option (List (Nat × Nat))
  | "alnum" => some [(0x30, 0x39), (0x41, 0x5a), (0x61, 0x7a)]
  | "alpha" => some [(0x41, 0x5a), (0x61, 0x7a)]
  | "ascii" => some [(0x0, 0x7f)]
  | "blank" => some [(0x9, 0x9), (0x20, 0x20)]
  | "cntrl" => some [(0x0, 0x1f), (0x7f, 0x7f)]
  | "digit" => some [(0x30, 0x39)]
  | "graph" => some [(0x21, 0x7e)]
  | "lower" => some [(0x61, 0x7a)]
  | "print" => some [(0x20, 0x7e)]
  | "punct" => some [(0x21, 0x2f), (0x3a, 0x40), (0x5b, 0x60), (0x7b, 0x7e)]
  | "space" => some [(0x9, 0xd), (0x20, 0x20)]
  | "upper" => some [(0x41, 0x5a)]
  | "word" => some [(0x30, 0x39), (0x41, 0x5a), (0x5f, 0x5f), (0x61, 0x7a)]
  | "xdigit" => some [(0x30, 0x39), (0x41, 0x46), (0x61, 0x66)]
  | _ => none

def hexValue? (c : Char) : Option Nat :=
  if c.isDigit then some (c.toNat - 48)
  else if 'a' ≤ c && c ≤ 'f' then some (c.toNat - 87)
  else if 'A' ≤ c && c ≤ 'F' then some (c.toNat - 55) else none

def ofHex? (ds : List Char) : Option Char :=
  if ds.isEmpty then none
  else match ds.foldlM (fun n c => (hexValue? c).map (16 * n + ·)) 0 with
    | some n => if n.isValidChar then some (.ofNat n) else none
    | none => none

/-- Characters of the class `ok`, at most `n`, with blanks skipped after each of them. -/
def run (o : Options) (ok : Char → Bool) : Nat → List Char → List Char × List Char
  | n + 1, c :: rest =>
    if ok c then
      let (cs, rest) := run o ok n (skipBlank o rest)
      (c :: cs, rest)
    else ([], c :: rest)
  | _, s => ([], s)

/-- A hexadecimal escape: digits in braces, or exactly `width` of them. Two digits that stand for
part of a character are refused where only ASCII counts. -/
def hexEscape? (o : Options) (width : Nat) (s : List Char) : Option (Char × List Char) := do
  match skipBlank o s with
  | '\x7b' :: rest =>
    let (ds, '\x7d' :: rest) := run o (· != '\x7d') rest.length (skipBlank o rest) | none
    return (← ofHex? ds, rest)
  | s =>
    let (ds, rest) := run o (fun c => (hexValue? c).isSome) width s
    let c ← ofHex? ds
    if ds.length = width && !(o.asciiOnly && width = 2 && c.toNat ≥ 0x80) then some (c, rest) else none

/-- The text before and after the first place where a mark stands, with the mark. -/
def cut? (mark : List Char) : List Char → Option (List Char × List Char × List Char)
  | [] => none
  | c :: rest =>
    if mark.isPrefixOf (c :: rest) then some (mark, [], (c :: rest).drop mark.length)
    else (cut? mark rest).map fun (m, before, after) => (m, c :: before, after)

inductive Escape where
  | char (c : Char)
  | set (set : CharSet)
  | spot (spot : Spot)

def control? : Char → Option Char
  | 'n' => some '\n'
  | 't' => some '\t'
  | 'r' => some '\r'
  | 'a' => some '\x07'
  | 'f' => some '\x0c'
  | 'v' => some '\x0b'
  | _ => none

def isEscapable (c : Char) : Bool := c.toNat < 0x80 && !c.isAlphanum && c != '<' && c != '>'

/-- The tests of words that have a name in braces. -/
def wordTest? : String → Option WordTest
  | "start" => some .start
  | "end" => some .finish
  | "start-half" => some .startHalf
  | "end-half" => some .finishHalf
  | _ => none

/-- The word test in braces after `b`; braces that hold no name are left to a repetition. -/
def wordEdge? (o : Options) (s : List Char) : Option (Escape × List Char) :=
  let letter (c : Char) : Bool := c.isAlpha || c == '-'
  match s with
  | '\x7b' :: rest => do
    let rest := skipBlank o rest
    if rest.head?.any letter then
      let (name, '\x7d' :: rest) := run o letter rest.length rest | none
      return (.spot (.word (← wordTest? (.ofList name)) o.asciiOnly), rest)
    else if rest.isEmpty then none
    else return (.spot (.word .edge o.asciiOnly), s)
  | s => some (.spot (.word .edge o.asciiOnly), s)

/-- A property: one letter, or a name in braces, which may have a value. Its case variants are added
before it is negated, and ASCII has no properties. -/
def property? (o : Options) (negated : Bool) (s : List Char) : Option (CharSet × List Char) := do
  let set (negated : Bool) (ranges : Option (List (Nat × Nat))) : Option CharSet :=
    if o.asciiOnly then none else ranges.bind fun r => o.negated? negated (o.cased (.oneOf r))
  match skipBlank o s with
  | [] | '\\' :: _ => none
  | '\x7b' :: rest =>
    let (name, '\x7d' :: rest) := run o (· != '\x7d') rest.length (skipBlank o rest) | none
    match cut? "!=".toList name <|> cut? [':'] name <|> cut? ['='] name with
    | some (op, name, value) => return (← set (negated != (op == "!=".toList)) (Property.valued? name value), rest)
    | none => return (← set negated (Property.named? name), rest)
  | c :: rest => return (← set negated (Property.named? [c]), rest)

def escape? (o : Options) : List Char → Option (Escape × List Char)
  | [] => none
  | c :: rest =>
    let set (negated : Bool) (s : CharSet) := (o.negated? negated s).map fun s => (Escape.set s, rest)
    let spot (s : Spot) := some (Escape.spot s, rest)
    let char (found : Option (Char × List Char)) := found.map fun (c, rest) => (Escape.char c, rest)
    match c with
    | 'd' => set false (.digit o.asciiOnly)
    | 'D' => set true (.digit o.asciiOnly)
    | 'w' => set false (.word o.asciiOnly)
    | 'W' => set true (.word o.asciiOnly)
    | 's' => set false (.space o.asciiOnly)
    | 'S' => set true (.space o.asciiOnly)
    | 'p' => (property? o false rest).map fun (s, rest) => (.set s, rest)
    | 'P' => (property? o true rest).map fun (s, rest) => (.set s, rest)
    | 'b' => wordEdge? o rest
    | 'B' => spot (.word .inside o.asciiOnly)
    | '<' => spot (.word .start o.asciiOnly)
    | '>' => spot (.word .finish o.asciiOnly)
    | 'A' => spot .textStart
    | 'z' => spot .textEnd
    | 'x' => char (hexEscape? o 2 rest)
    | 'u' => char (hexEscape? o 4 rest)
    | 'U' => char (hexEscape? o 8 rest)
    | _ => match control? c with
      | some d => some (.char d, rest)
      | none => if isEscapable c then some (.char c, rest) else none

def member? (o : Options) : List Char → Option ((Char ⊕ CharSet) × List Char)
  | [] => none
  | '\\' :: rest =>
    match escape? o rest with
    | some (.char c, rest) => some (.inl c, rest)
    | some (.set set, rest) => some (.inr set, rest)
    | _ => none
  | c :: rest => some (.inl c, rest)

/-- The character after the first one, past blanks and the sign of a comment. -/
def peek? (o : Options) (rest : List Char) : Option Char :=
  if o.verbose then
    match rest.dropWhile Text.isBlank with
    | '#' :: rest => (rest.dropWhile Text.isBlank).head?
    | rest => rest.head?
  else rest.head?

/-- A member, or a range of characters. -/
def members? (o : Options) (s : List Char) : Option (CharSet × List Char) := do
  let (first, rest) ← member? o s
  let allowed (c : Char) : Bool := !o.asciiOnly || c.toNat < 0x80
  let alone : Option CharSet := match first with
    | .inl c => if allowed c then some (.single c) else none
    | .inr set => some set
  match skipBlank o rest with
  | '-' :: more =>
    if peek? o more == some ']' || peek? o more == some '-' then return (← alone, '-' :: more)
    match first, ← member? o (skipBlank o more) with
    | .inl a, (.inl b, rest) => if a ≤ b && allowed b then some (.range a b, rest) else none
    | _, _ => none
  | rest => return (← alone, rest)

/-- A named class `[:name:]`. -/
def namedClass? (s : List Char) : Option (Bool × List (Nat × Nat) × List Char) := do
  let '[' :: ':' :: rest := s | none
  let (negated, rest) := match rest with
    | '^' :: rest => (true, rest)
    | rest => (false, rest)
  let ranges ← asciiClass? (.ofList (rest.takeWhile (· != ':')))
  let ':' :: ']' :: after := rest.dropWhile (· != ':') | none
  return (negated, ranges, after)

/-- The class operator at the start, if there is one. -/
def operator? : List Char → Option ((CharSet → CharSet → CharSet) × List Char)
  | '&' :: '&' :: rest => some (.inter, rest)
  | '-' :: '-' :: rest => some (.diff, rest)
  | '~' :: '~' :: rest => some (.xor, rest)
  | _ => none

/-- Hyphens that stand for themselves where a class opens. -/
def hyphens (o : Options) : Nat → List Char → List CharSet × List Char
  | n + 1, '-' :: rest =>
    let (sets, rest) := hyphens o n (skipBlank o rest)
    (.single '-' :: sets, rest)
  | _, s => ([], s)

/-- What opens a class: a negation, and hyphens or else a bracket that stand for themselves. -/
def opened (o : Options) (s : List Char) : Bool × List CharSet × List Char :=
  let (negated, s) := match skipBlank o s with
    | '^' :: rest => (true, skipBlank o rest)
    | s => (false, s)
  match hyphens o s.length s with
  | ([], ']' :: rest) => (negated, [.single ']'], rest)
  | (sets, rest) => (negated, sets, rest)

/-- The rest of a class up to its closing bracket: `before` are the members since the last operator,
from the last to the first, which `pending` takes. -/
def classRest (o : Options) : Nat → (CharSet → CharSet) → List CharSet → List Char → Option (CharSet × List Char)
  | 0, _, _, _ => none
  | n + 1, pending, before, s =>
    match skipBlank o s with
    | [] => none
    | ']' :: rest => some (pending (.ofList before.reverse), rest)
    | '[' :: rest =>
      match namedClass? ('[' :: rest) with
      | some (negated, ranges, rest) => do
        classRest o n pending ((← o.negated? negated (o.cased (.oneOf ranges))) :: before) rest
      | none => do
        let (negated, first, rest) := opened o rest
        let (inner, rest) ← classRest o n id first.reverse rest
        classRest o n pending (.bracket (← o.negated? negated (o.cased inner)) :: before) rest
    | s =>
      match operator? s with
      | some (op, rest) =>
        let left := pending (.ofList before.reverse)
        classRest o n (fun right => op (o.cased left) (o.cased right)) [] rest
      | none => do
        let (more, rest) ← members? o s
        classRest o n pending (more :: before) rest

def class? (o : Options) (s : List Char) : Option (CharSet × List Char) := do
  let (negated, first, rest) := opened o s
  let (inner, rest) ← classRest o (s.length + 1) id first.reverse rest
  return (.bracket (← o.negated? negated (o.cased inner)), rest)

/-- A count below `2^32`, with blanks around it. -/
def count? (o : Options) (s : List Char) : Option (Nat × List Char) :=
  let (ds, rest) := run o Char.isDigit s.length (s.dropWhile Text.isBlank)
  if ds.isEmpty || 0x100000000 ≤ Literal.ofDigits ds then none
  else some (Literal.ofDigits ds, skipBlank o (rest.dropWhile Text.isBlank))

def bounds? (o : Options) (s : List Char) : Option (Nat × Option Nat × List Char) := do
  let (least, rest) ← count? o (skipBlank o s)
  match rest with
  | '\x7d' :: rest => some (least, some least, rest)
  | ',' :: rest =>
    match skipBlank o rest with
    | '\x7d' :: rest => some (least, none, rest)
    | rest => match ← count? o rest with
      | (most, '\x7d' :: rest) => if least ≤ most then some (least, some most, rest) else none
      | _ => none
  | _ => none

/-- The text after the mark of a lazy repetition, which changes nothing about whether there is a match. -/
def skipLazy (s : List Char) : List Char :=
  match s with
  | '?' :: rest => rest
  | _ => s

/-- The repetitions after an operand, at most `n`. Blanks may stand before the lazy mark of a counted one. -/
def repetitions (o : Options) : Nat → Pattern → List Char → Option (Pattern × List Char)
  | 0, p, s => some (p, s)
  | n + 1, p, s =>
    match skipBlank o s with
    | '*' :: rest => repetitions o n (.repeated p 0 none) (skipLazy rest)
    | '+' :: rest => repetitions o n (.repeated p 1 none) (skipLazy rest)
    | '?' :: rest => repetitions o n (.repeated p 0 (some 1)) (skipLazy rest)
    | '\x7b' :: rest => match bounds? o rest with
      | some (least, most, rest) => repetitions o n (.repeated p least most) (skipLazy (skipBlank o rest))
      | none => none
    | _ => some (p, s)

def atom? (o : Options) : List Char → Option (Pattern × List Char)
  | [] => none
  | c :: rest =>
    let char (c : Char) : Pattern := .one (o.cased (.single c))
    match c with
    | '*' | '+' | '?' | '\x7b' => none
    | '.' =>
      let out : CharSet := if o.dotAll then .none else if o.crlf then .union (.single '\r') (.single '\n') else .single '\n'
      (o.negated? true (.oneOf out.ranges)).map fun set => (.one set, rest)
    | '^' => some (.spot (if o.lines then .lineStart o.crlf else .textStart), rest)
    | '$' => some (.spot (if o.lines then .lineEnd o.crlf else .textEnd), rest)
    | '[' => (class? o rest).map fun (set, rest) => (.one set, rest)
    | '\\' => match escape? o rest with
      | some (.char c, rest) => some (char c, rest)
      | some (.set set, rest) => some (.one set, rest)
      | some (.spot s, rest) => some (.spot s, rest)
      | none => none
    | c => some (char c, rest)

inductive Opening where
  | options (o : Options)
  | group (label : Label) (o : Options)

/-- The options up to a closing bracket, for the rest of the group, or up to a colon, for a group of their own. -/
def options? (on : Bool) (seen : List Char) (o : Options) : List Char → Option (Opening × List Char)
  | [] => none
  | c :: rest =>
    if c == ':' then if on || seen.head? != some '-' then some (.group .silent o, rest) else none
    else if c == ')' then if seen.isEmpty || seen.head? == some '-' then none else some (.options o, rest)
    else if seen.contains c then none
    else if c == '-' then options? false (c :: seen) o rest
    else match o.set? c on with
      | some o => options? on (c :: seen) o rest
      | none => none

/-- The name of a group and the text after it. -/
def groupName? (o : Options) (s : List Char) : Option (Opening × List Char) :=
  let letter (c : Char) : Bool := Text.inRanges Text.alphabeticRanges c || Text.inRanges Text.laterLetterRanges c
  let number (c : Char) : Bool := Text.inRanges Text.numberRanges c || Text.inRanges Text.laterNumberRanges c
  let later (c : Char) : Bool := "_.[]".contains c || letter c || number c
  match s.takeWhile (· != '>'), s.dropWhile (· != '>') with
  | c :: name, _ :: after =>
    if (c == '_' || letter c) && name.all later then some (.group (.named (.ofList (c :: name))) o, after) else none
  | _, _ => none

def opening? (o : Options) : List Char → Option (Opening × List Char)
  | '?' :: 'P' :: '<' :: rest => groupName? o rest
  | '?' :: '<' :: rest => groupName? o rest
  | '?' :: rest => options? true [] o rest
  | rest => some (.group .numbered o, rest)

/-- Reads alternatives up to the end of the text or of the group: `done` are the earlier ones,
`branch` is what the present one has so far, both from the last to the first. -/
def alternatives : Nat → Options → List Pattern → List Pattern → List Char → Option (Pattern × List Char)
  | 0, _, _, _, _ => none
  | n + 1, o, done, branch, s =>
    let closed := sequence branch.reverse :: done
    match skipBlank o s with
    | [] => some (choice closed.reverse, [])
    | ')' :: rest => some (choice closed.reverse, ')' :: rest)
    | '|' :: rest => alternatives n o closed [] rest
    | '(' :: rest => do match ← opening? o (skipBlank o rest) with
      | (.options o, rest) => alternatives n o done (.empty :: branch) rest
      | (.group label inner, rest) =>
        let (p, ')' :: rest) ← alternatives n inner [] [] rest | none
        let (p, rest) ← repetitions o rest.length (.group label p) rest
        alternatives n o done (p :: branch) rest
    | s => do
      let (p, rest) ← atom? o s
      let (p, rest) ← repetitions o rest.length p rest
      alternatives n o done (p :: branch) rest

end Reader

/-- How deep the parts of a pattern may be nested. -/
def heightLimit : Nat := 250

def read? (text : String) : Option Pattern :=
  match Reader.alternatives (text.length + 1) .plain [] [] text.toList with
  | some (p, []) => if p.height ≤ heightLimit && p.names.Nodup && p.fits then some p else none
  | _ => none

end Flowgraph.Pattern
