import JsonTemplate.Failure

/-!
# Words of a command line

Words are separated by spaces, tabs and line ends. A backslash takes the next character as it is;
nothing is special between single quotes; between double quotes a backslash escapes only itself
and the quote. Quoted parts join with what stands next to them, so `''` is an empty word.
-/

namespace JsonTemplate.Command

def isSeparator (c : Char) : Bool :=
  c == ' ' || c == '\t' || c == '\r' || c == '\n'

inductive Mode where
  | between
  | word
  | quote (q : Char)
  /-- After a backslash, inside the given quote or outside. -/
  | escape (q : Option Char)
  deriving DecidableEq, Repr

/-- Splits a text; the word that has been started is given in reverse. -/
def splitFrom (mode : Mode) (word : List Char) : List Char → Except CommandFault (List String)
  | [] =>
    match mode with
    | .between => .ok []
    | .word => .ok [String.ofList word.reverse]
    | .quote _ => .error .openQuote
    | .escape _ => .error .openEscape
  | c :: s =>
    match mode with
    | .between =>
      if isSeparator c then splitFrom .between [] s
      else if c = '\\' then splitFrom (.escape none) [] s
      else if c = '\'' || c = '"' then splitFrom (.quote c) [] s
      else splitFrom .word [c] s
    | .word =>
      if isSeparator c then
        (splitFrom .between [] s).map (String.ofList word.reverse :: ·)
      else if c = '\\' then splitFrom (.escape none) word s
      else if c = '\'' || c = '"' then splitFrom (.quote c) word s
      else splitFrom .word (c :: word) s
    | .quote q =>
      if c = q then splitFrom .word word s
      else if c = '\\' && q = '"' then splitFrom (.escape (some q)) word s
      else splitFrom (.quote q) (c :: word) s
    | .escape none => splitFrom .word (c :: word) s
    | .escape (some q) =>
      if c = '\\' || c = q then splitFrom (.quote q) (c :: word) s
      else splitFrom (.quote q) (c :: '\\' :: word) s

def split (text : String) : Except CommandFault (List String) :=
  splitFrom .between [] text.toList

end JsonTemplate.Command
