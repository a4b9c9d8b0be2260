import JsonTemplate.Expression.Basic
import JsonTemplate.Text.Blank
import JsonTemplate.Text.Word

/-!
# Reading expressions

A text that does not start with `$` is no expression. Otherwise the input name is the longest run
of word characters after the `$`, pipeline segments are taken off the end of the text one by one,
and what is left between the two is the path. A path starts with `.` or `[`, closes the brackets
and quotes it opens, and has no `|` outside them.
-/

namespace JsonTemplate.Expression

open Text

def readArgs (raw : List Char) : List String :=
  if (trim raw).isEmpty then []
  else (splitOn ',' (trim raw)).map fun piece => String.ofList (trimSpacing piece)

/-- A reversed text without the line end that may close it. -/
def dropNewline : List Char → List Char
  | '\n' :: r => r
  | r => r

def isParenthesis (c : Char) : Bool :=
  c == '(' || c == ')'

/-- The argument list that ends a reversed text, if there is one, and what comes before it. A
closing parenthesis without a list of its own spoils the segment. -/
def takeArgs? (r : List Char) : Option (Option (List String) × List Char) :=
  match r with
  | ')' :: r =>
    match r.dropWhile (!isParenthesis ·) with
    | '(' :: before =>
      some (some (readArgs (r.takeWhile (!isParenthesis ·)).reverse), before)
    | _ => none
  | r => some (none, r)

def lastSegment? (r : List Char) : Option (Transform × List Char) := do
  let (args, r) ← takeArgs? ((dropNewline r).dropWhile isSpacing)
  let r := r.dropWhile isSpacing
  let name := (r.takeWhile isWord).reverse
  if name.isEmpty then none
  else
    match (r.dropWhile isWord).dropWhile isSpacing with
    | '|' :: before => some (⟨String.ofList name, args⟩, before.dropWhile isSpacing)
    | _ => none

/-- Takes segments off the end of a reversed text, in front of the transforms already taken. Each
segment has at least two characters, so the length of the text is fuel enough. -/
def takePipeline : Nat → List Char → List Transform → List Transform × List Char
  | 0, r, taken => (taken, r)
  | fuel + 1, r, taken =>
    match lastSegment? r with
    | some (t, before) => takePipeline fuel before (t :: taken)
    | none => (taken, r)

def closerOf? (c : Char) : Option Char :=
  if c = '[' then some ']' else if c = '(' then some ')' else none

/-- Reads a path from left to right, inside a quote or not, with the closing brackets that are due
innermost first. -/
def checkBalance (quote : Option Char) (due : List Char) : List Char → Except Flaw Unit
  | [] => if quote.isNone && due.isEmpty then .ok () else .error .unbalanced
  | c :: s =>
    match quote with
    | some q => checkBalance (if c = q then none else some q) due s
    | none =>
      if c = '\'' || c = '"' then checkBalance (some c) due s
      else
        match closerOf? c with
        | some closer => checkBalance none (closer :: due) s
        | none =>
          if due.head? = some c then checkBalance none due.tail s
          else if c = '|' && due.isEmpty then .error .segment
          else checkBalance none due s

def readPath (s : List Char) : Except Flaw (List Char) :=
  let path := trimEnd s
  match path with
  | [] => .ok []
  | c :: _ =>
    if c = '.' || c = '[' then (checkBalance none [] path).map fun _ => path
    else .error (.unexpected c)

def parseChars (s : List Char) : Except Flaw Expression :=
  let rest := s.dropWhile isWord
  let (transforms, before) := takePipeline rest.length rest.reverse []
  (readPath before.reverse).map fun path =>
    ⟨String.ofList (s.takeWhile isWord), String.ofList path, transforms⟩

/-- The expression that a text is, `none` if it does not start like one. -/
def parse (text : String) : Except Flaw (Option Expression) :=
  match text.toList with
  | '$' :: s => (parseChars s).map some
  | _ => .ok none

end JsonTemplate.Expression
