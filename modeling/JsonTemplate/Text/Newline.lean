/-!
# Line ends

A text that comes from a file, from standard input or from a command has every line end, `\r\n`
or a lone `\r`, read as `\n`.
-/

namespace JsonTemplate.Text

/-- Reads line ends; `ended` says that the last character was a `\r`, already read as `\n`. -/
def normalizeFrom (ended : Bool) : List Char → List Char
  | [] => []
  | c :: s =>
    if c = '\r' then '\n' :: normalizeFrom true s
    else if c = '\n' && ended then normalizeFrom false s
    else c :: normalizeFrom false s

def normalizeNewlines (s : List Char) : List Char :=
  normalizeFrom false s

end JsonTemplate.Text
