import Flowgraph.Text.CaseTable

/-! Upper and lower case of whole texts, with the mappings that change the length, and the
letters that count as one when case is ignored. -/

namespace Flowgraph.Text

private def mapLong (long : List (Nat × List Nat)) (runs : List Run) (c : Char) : List Char :=
  match long.lookup c.toNat with
  | some image => image.map .ofNat
  | none => [mapRuns runs c]

def upperChar (c : Char) : List Char := if c.toNat < 0x80 then [c.toUpper] else mapLong upperLong upperRuns c
def lowerChar (c : Char) : List Char := if c.toNat < 0x80 then [c.toLower] else mapLong lowerLong lowerRuns c

/-- The next character that case ignores not is a cased one. -/
def nextIsCased (cs : List Char) : Bool :=
  match cs.dropWhile (inRanges caseIgnorableRanges) with
  | c :: _ => inRanges casedRanges c
  | [] => false

/-- A capital sigma becomes the final form where a word ends: after a cased letter and before none. -/
private def lowerFrom (before : List Char) : List Char → List Char
  | [] => []
  | c :: rest =>
    (if c == 'Σ' then [if nextIsCased before && !nextIsCased rest then 'ς' else 'σ'] else lowerChar c) ++
      lowerFrom (c :: before) rest

def upper (s : String) : String := String.ofList (s.toList.flatMap upperChar)
def lower (s : String) : String := String.ofList (lowerFrom [] s.toList)

/-- The common form of all letters that differ in case only. -/
def fold (c : Char) : Char := mapRuns foldRuns c

/-- All characters that differ from `c` in case only, itself included. -/
def caseVariants (c : Char) : List Char := fold c :: sources foldRuns (fold c)

/-- The ranges with all code points that differ in case only from one in them. -/
def caseRanges (ranges : List (Nat × Nat)) : List (Nat × Nat) :=
  let pairs := foldRuns.flatMap Run.pairs
  let folded := normalRanges ((pairs.filter fun (n, m) => within ranges n || within ranges m).map fun (_, m) => (m, m))
  unionRanges ranges (folded ++ (pairs.filter fun (_, m) => within folded m).map fun (n, _) => (n, n))

/-- The letter of the other case, for ASCII letters. -/
def flipCase (c : Char) : Char := if c.isUpper then c.toLower else c.toUpper

end Flowgraph.Text
