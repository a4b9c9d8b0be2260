import JsonTemplate.Json.Basic
import JsonTemplate.Json.SyntaxError
import JsonTemplate.Text.Blank

/-!
# Tokens of a path

Spaces and tabs separate tokens and are dropped. A name is a bare word or quoted text, in which a
backslash takes the next character as it is, a line end excepted. An integer has a limited number
of digits.
-/

namespace JsonTemplate.Path

inductive Token where
  | word (s : String)
  | quoted (s : String)
  | int (n : Int)
  | float (d : Double)
  | symbol (s : String)
  deriving DecidableEq, Repr

namespace Token

/-- The symbols, those first that begin with another one. -/
def symbols : List String :=
  ["..", "&&", "||", "==", "!=", "<=", ">=", ".", "*", "[", "]", ",", ":", "?", "(", ")", "@",
    "$", "!", "=", "<", ">"]

def reserved : List String :=
  ["where", "wherenot"]

def isWordStart (c : Char) : Bool :=
  c.isAlpha || c == '_'

def isWordChar (c : Char) : Bool :=
  c.isAlphanum || c == '_' || c == '@' || c == '-'

def digitsValue (ds : List Char) : Nat :=
  ds.foldl (fun n c => 10 * n + (c.toNat - 48)) 0

def quotedText? (quote : Char) : List Char → Option (List Char × List Char)
  | [] => none
  | c :: s =>
    if c = quote then some ([], s)
    else if c = '\\' then
      match s with
      | [] => none
      | d :: s =>
        if d = '\n' then none
        else (quotedText? quote s).map fun r => (d :: r.1, r.2)
    else (quotedText? quote s).map fun r => (c :: r.1, r.2)

def symbol? (s : List Char) : Option (Token × List Char) :=
  symbols.findSome? fun w =>
    if w.toList.isPrefixOf s then some (.symbol w, s.drop w.toList.length) else none

def number? (negative : Bool) (s : List Char) : Option (Token × List Char) :=
  let whole := s.takeWhile Char.isDigit
  let rest := s.dropWhile Char.isDigit
  let fraction := match rest with
    | '.' :: r => r.takeWhile Char.isDigit
    | _ => []
  if whole.isEmpty then none
  else if fraction.isEmpty then
    if whole.length > Json.digitLimit then none
    else some (.int (if negative then -(digitsValue whole : Int) else digitsValue whole), rest)
  else
    some (.float (Double.ofDecimal negative (digitsValue (whole ++ fraction)) (-fraction.length)),
      rest.drop (fraction.length + 1))

def next? (s : List Char) : Option (Token × List Char) :=
  match s with
  | [] => none
  | c :: r =>
    if c = '\'' || c = '"' then
      (quotedText? c r).map fun q => (.quoted (String.ofList q.1), q.2)
    else if isWordStart c then
      let word := String.ofList (s.takeWhile isWordChar)
      if reserved.contains word then none else some (.word word, s.dropWhile isWordChar)
    else if c.isDigit then number? false s
    else if c = '-' then number? true r
    else symbol? s

def scan? : Nat → List Char → Option (List Token)
  | 0, s => if s.all Text.isSpacing then some [] else none
  | fuel + 1, s =>
    match s.dropWhile Text.isSpacing with
    | [] => some []
    | c :: r => do
      let (t, rest) ← next? (c :: r)
      let ts ← scan? fuel rest
      return t :: ts

def tokens? (s : List Char) : Option (List Token) :=
  scan? s.length s

end Token

end JsonTemplate.Path
