/-! Cutting text at a separator. -/

namespace Flowgraph.Text

/-- The pieces between the separators; one more than there are separators. -/
def pieces (separator : Char) : List Char → List (List Char)
  | [] => [[]]
  | c :: rest => match pieces separator rest with
    | first :: more => if c == separator then [] :: first :: more else (c :: first) :: more
    | [] => [[c]]

end Flowgraph.Text
