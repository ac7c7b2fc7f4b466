import Flowgraph.Json.Basic
import Flowgraph.Number.Shortest

/-! The text of JSON values: compact, and indented by two blanks a level. -/

namespace Flowgraph

def Number.text : Number → String
  | .int n => toString n
  | .float x => if Binary64.isFinite x then Shortest.document x else "null"

namespace Json

private def hexDigit (n : Nat) : Char := if n < 10 then .ofNat (n + 48) else .ofNat (n + 87)

/-- Quotes, backslashes and control characters are escaped; all else stands for itself. -/
def escapeChar (c : Char) : List Char :=
  if c == '"' then ['\\', '"'] else if c == '\\' then ['\\', '\\']
  else if c == '\n' then ['\\', 'n'] else if c == '\r' then ['\\', 'r'] else if c == '\t' then ['\\', 't']
  else if c == '\x08' then ['\\', 'b'] else if c == '\x0c' then ['\\', 'f']
  else if c.toNat < 0x20 then ['\\', 'u', '0', '0', hexDigit (c.toNat / 16), hexDigit (c.toNat % 16)]
  else [c]

def quote (s : String) : String := "\"" ++ String.ofList (s.toList.flatMap escapeChar) ++ "\""

mutual

def compact : Json → String
  | .null => "null"
  | .bool b => if b then "true" else "false"
  | .number n => n.text
  | .string s => quote s
  | .array items => "[" ++ compactItems items ++ "]"
  | .object fields => "\x7b" ++ compactFields fields ++ "\x7d"

def compactItems : List Json → String
  | [] => ""
  | [value] => compact value
  | value :: rest => compact value ++ "," ++ compactItems rest

def compactFields : List (String × Json) → String
  | [] => ""
  | [(key, value)] => quote key ++ ":" ++ compact value
  | (key, value) :: rest => quote key ++ ":" ++ compact value ++ "," ++ compactFields rest

end

private def newline (level : Nat) : String := "\n" ++ String.ofList (List.replicate (2 * level) ' ')

mutual

/-- One entry to a line; empty containers stay closed. -/
def indented (level : Nat) : Json → String
  | .array [] => "[]"
  | .object [] => "\x7b\x7d"
  | .array items => "[" ++ indentedItems (level + 1) items ++ newline level ++ "]"
  | .object fields => "\x7b" ++ indentedFields (level + 1) fields ++ newline level ++ "\x7d"
  | value => compact value

def indentedItems (level : Nat) : List Json → String
  | [] => ""
  | [value] => newline level ++ indented level value
  | value :: rest => newline level ++ indented level value ++ "," ++ indentedItems level rest

def indentedFields (level : Nat) : List (String × Json) → String
  | [] => ""
  | [(key, value)] => newline level ++ quote key ++ ": " ++ indented level value
  | (key, value) :: rest =>
    newline level ++ quote key ++ ": " ++ indented level value ++ "," ++ indentedFields level rest

end

/-- A value as it is put into running text: strings bare, null as nothing, the rest compact. -/
def plain : Json → String
  | .string s => s
  | .null => ""
  | value => compact value

end Json
end Flowgraph
