import JsonTemplate.Json.Basic
import JsonTemplate.Number.Shortest
import JsonTemplate.Text.Quoted

/-!
# Writing JSON

`Json.chars` writes a value in a `Layout`: `pretty` puts every item on a line of its own, indented
by two spaces for each level, `compact` writes one line, and `ascii` is the compact layout with
every character beyond ASCII escaped. Doubles that are not finite have names here; `dump` refuses
them instead.
-/

namespace JsonTemplate

/-- The text around the items of an array or object, by nesting level, and the text of a
character inside a string. -/
structure Layout where
  opening : Nat → List Char
  between : Nat → List Char
  closing : Nat → List Char
  char : Char → List Char

namespace Layout

def plainChar (c : Char) : List Char :=
  if c = '"' then ['\\', '"']
  else if c = '\\' then ['\\', '\\']
  else if c = '\n' then ['\\', 'n']
  else if c = '\r' then ['\\', 'r']
  else if c = '\t' then ['\\', 't']
  else if c = '\x08' then ['\\', 'b']
  else if c = '\x0c' then ['\\', 'f']
  else if c.toNat < 32 then '\\' :: 'u' :: Text.hex 4 c.toNat
  else [c]

def unitEscapes (c : Char) : List Char :=
  let n := c.toNat
  if n < 0x10000 then '\\' :: 'u' :: Text.hex 4 n
  else
    '\\' :: 'u' :: (Text.hex 4 (0xD800 + (n - 0x10000) / 0x400) ++
      '\\' :: 'u' :: Text.hex 4 (0xDC00 + (n - 0x10000) % 0x400))

def asciiChar (c : Char) : List Char :=
  if c.toNat < 127 then plainChar c else unitEscapes c

def indentation (level : Nat) : List Char :=
  '\n' :: List.replicate (2 * level) ' '

def pretty : Layout where
  opening level := indentation (level + 1)
  between level := ',' :: indentation (level + 1)
  closing level := indentation level
  char := plainChar

def compact : Layout where
  opening _ := []
  between _ := [',', ' ']
  closing _ := []
  char := plainChar

def ascii : Layout :=
  { compact with char := asciiChar }

end Layout

namespace Json

def floatChars (d : Double) : List Char :=
  d.chars "Infinity".toList "NaN".toList

def boolChars (b : Bool) : List Char :=
  if b then "true".toList else "false".toList

def intChars (n : Int) : List Char :=
  (if n < 0 then ['-'] else []) ++ Nat.toDigits 10 n.natAbs

def stringChars (layout : Layout) (s : String) : List Char :=
  '"' :: (s.toList.flatMap layout.char ++ ['"'])

def scalarChars : Scalar → List Char
  | .null => "null".toList
  | .bool b => boolChars b
  | .int n => intChars n
  | .float d => floatChars d

def keyText : Key → String
  | .name s => s
  | .scalar v => String.ofList (scalarChars v)

mutual

def chars (layout : Layout) (level : Nat) : Json → List Char
  | null => "null".toList
  | bool b => boolChars b
  | int n => intChars n
  | float d => floatChars d
  | string s => stringChars layout s
  | array [] => ['[', ']']
  | array (v :: items) =>
    '[' :: (layout.opening level ++ (chars layout (level + 1) v ++
      itemChars layout level items))
  | object [] => ['{', '}']
  | object ((k, v) :: members) =>
    '{' :: (layout.opening level ++ (stringChars layout (keyText k) ++ (':' :: ' ' ::
      (chars layout (level + 1) v ++ memberChars layout level members))))

def itemChars (layout : Layout) (level : Nat) : List Json → List Char
  | [] => layout.closing level ++ [']']
  | v :: items =>
    layout.between level ++ (chars layout (level + 1) v ++ itemChars layout level items)

def memberChars (layout : Layout) (level : Nat) : List (Key × Json) → List Char
  | [] => layout.closing level ++ ['}']
  | (k, v) :: members =>
    layout.between level ++ (stringChars layout (keyText k) ++ (':' :: ' ' ::
      (chars layout (level + 1) v ++ memberChars layout level members)))

end

def pretty (v : Json) : String :=
  String.ofList (chars .pretty 0 v)

def compact (v : Json) : String :=
  String.ofList (chars .compact 0 v)

mutual

/-- The first double of a value, in the order of its text, that standard JSON cannot hold. -/
def nonFinite? : Json → Option Double
  | float d => if d.isFinite then none else some d
  | array items => itemsNonFinite? items
  | object members => membersNonFinite? members
  | _ => none

def itemsNonFinite? : List Json → Option Double
  | [] => none
  | v :: items => (nonFinite? v).or (itemsNonFinite? items)

def membersNonFinite? : List (Key × Json) → Option Double
  | [] => none
  | (k, v) :: members => (keyNonFinite? k).or ((nonFinite? v).or (membersNonFinite? members))

def keyNonFinite? : Key → Option Double
  | .scalar (.float d) => if d.isFinite then none else some d
  | _ => none

end

def dump (v : Json) : Except Double String :=
  match nonFinite? v with
  | some d => .error d
  | none => .ok (pretty v)

end Json

end JsonTemplate
