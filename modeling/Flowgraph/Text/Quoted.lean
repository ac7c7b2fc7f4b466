import Flowgraph.Text.PrintTable

/-! Texts quoted for a reader of messages. -/

namespace Flowgraph.Text

private def hex (n : Nat) : String := String.ofList (Nat.toDigits 16 n)

/-- A character as it stands between double quotes: the usual short escapes, and the code point
in hexadecimal for what has no form of its own. -/
def quotedChar (c : Char) : String :=
  if c == '\x00' then "\\0" else if c == '\t' then "\\t" else if c == '\r' then "\\r"
  else if c == '\n' then "\\n" else if c == '"' then "\\\"" else if c == '\\' then "\\\\"
  else if inRanges extendRanges c || inRanges hiddenRanges c then "\\u\x7b" ++ hex c.toNat ++ "\x7d"
  else c.toString

def quoted (s : String) : String := "\"" ++ String.join (s.toList.map quotedChar) ++ "\""

def quotedList (items : List String) : String := "[" ++ ", ".intercalate (items.map quoted) ++ "]"

end Flowgraph.Text
