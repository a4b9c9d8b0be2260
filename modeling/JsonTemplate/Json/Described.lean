import JsonTemplate.Json.Printer

/-!
# Values in messages

A message that complains about a value shows it in a form of its own: `None`, `True` and `False`
for the constants, quoted text, and brackets or braces around the items.
-/

namespace JsonTemplate

def describedBool (b : Bool) : List Char :=
  if b then "True".toList else "False".toList

def describedFloat (d : Double) : List Char :=
  d.chars "inf".toList "nan".toList

def Key.described : Key → List Char
  | .name s => Text.quotedChars s.toList
  | .scalar .null => "None".toList
  | .scalar (.bool b) => describedBool b
  | .scalar (.int n) => Json.intChars n
  | .scalar (.float d) => describedFloat d

namespace Json

mutual

def describedChars : Json → List Char
  | null => "None".toList
  | bool b => describedBool b
  | int n => intChars n
  | float d => describedFloat d
  | string s => Text.quotedChars s.toList
  | array items => '[' :: (itemsDescribed "".toList items ++ [']'])
  | object members => '\x7b' :: (membersDescribed "".toList members ++ ['\x7d'])

/-- The items, each after a separator; that of the first one is given. -/
def itemsDescribed (separator : List Char) : List Json → List Char
  | [] => []
  | v :: items => separator ++ (describedChars v ++ itemsDescribed ", ".toList items)

def membersDescribed (separator : List Char) : List (Key × Json) → List Char
  | [] => []
  | (k, v) :: members =>
    separator ++ (k.described ++ (": ".toList ++
      (describedChars v ++ membersDescribed ", ".toList members)))

end

def described (v : Json) : String :=
  String.ofList (describedChars v)

end Json

end JsonTemplate
