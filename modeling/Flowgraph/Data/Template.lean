import Flowgraph.Data.Path
import Flowgraph.Json.Text

/-! Texts with placeholders `\x7b\x7bpath\x7d\x7d`. One pass from left to right cuts a text into
placeholders and single characters; what a placeholder brings in is not read again, and one
whose path names nothing stays as it is. -/

namespace Flowgraph.Template

inductive Piece where
  | char (c : Char)
  | slot (inner : List Char)
  deriving DecidableEq, Repr

def isBrace (c : Char) : Bool := c == '\x7b' || c == '\x7d'

/-- The text between double braces at the start, never empty and free of braces, and what follows. -/
def slot? : List Char → Option (List Char × List Char)
  | '\x7b' :: '\x7b' :: rest =>
    match rest.takeWhile (!isBrace ·), rest.dropWhile (!isBrace ·) with
    | c :: inner, '\x7d' :: '\x7d' :: after => some (c :: inner, after)
    | _, _ => none
  | _ => none

theorem slot?_shorter {text inner after : List Char} (found : slot? text = some (inner, after)) :
    after.length < text.length := by
  unfold slot? at found
  split at found
  · next rest =>
    split at found
    · next c inside tail _ dropped =>
      cases found
      have bound := (List.dropWhile_sublist (l := rest) (!isBrace ·)).length_le
      rw [dropped] at bound
      simp only [List.length_cons] at bound ⊢
      omega
    · cases found
  · cases found

def pieces (text : List Char) : List Piece :=
  match found : slot? text with
  | some (inner, after) =>
    have := slot?_shorter found
    .slot inner :: pieces after
  | none =>
    match text with
    | c :: rest => .char c :: pieces rest
    | [] => []
termination_by text.length

def written (inner : List Char) : List Char := ['\x7b', '\x7b'] ++ inner ++ ['\x7d', '\x7d']

def Piece.render (data : Json) : Piece → List Char
  | .char c => [c]
  | .slot inner =>
    match Path.lookup data (.ofList inner) with
    | some value => value.plain.toList
    | none => written inner

def resolve (text : String) (data : Json) : String :=
  .ofList ((pieces text.toList).flatMap (·.render data))

mutual

/-- Resolves every string inside a value; keys and other leaves stay. -/
def resolveDeep (data : Json) : Json → Json
  | .string s => .string (resolve s data)
  | .array items => .array (resolveItems data items)
  | .object fields => .object (resolveFields data fields)
  | value => value

def resolveItems (data : Json) : List Json → List Json
  | [] => []
  | value :: rest => resolveDeep data value :: resolveItems data rest

def resolveFields (data : Json) : List (String × Json) → List (String × Json)
  | [] => []
  | (key, value) :: rest => (key, resolveDeep data value) :: resolveFields data rest

end

end Flowgraph.Template
