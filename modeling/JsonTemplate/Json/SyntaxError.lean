/-!
# Faults of a JSON text

A reader that works on the rest of a text can name a place by the number of characters left there.
`located` turns that into an offset, a line and a column, which is what a `SyntaxError` holds and
its message shows.
-/

namespace JsonTemplate.Json

def digitLimit : Nat := 4300

inductive Problem where
  | value
  | propertyName
  | colon
  | comma
  | extraData
  | unterminatedString
  | controlCharacter
  | escape
  | unicodeEscape
  | byteOrderMark
  deriving DecidableEq, Repr

/-- What stops a reader; `remaining` characters are left where the problem lies. -/
inductive Fault where
  | problem (what : Problem) (remaining : Nat)
  | constant (word : String)
  | tooManyDigits (count : Nat)
  deriving DecidableEq, Repr

/-- Offset, line and column of a problem, all but the offset counted from one. -/
structure Place where
  offset : Nat
  line : Nat
  column : Nat
  deriving DecidableEq, Repr

inductive SyntaxError where
  | problem (what : Problem) (place : Place)
  | constant (word : String)
  | tooManyDigits (count : Nat)
  deriving DecidableEq, Repr

def placeAt (s : List Char) (offset : Nat) : Place where
  offset := offset
  line := (s.take offset).count '\n' + 1
  column := ((s.take offset).reverse.takeWhile (· != '\n')).length + 1

def located (s : List Char) : Fault → SyntaxError
  | .problem what remaining => .problem what (placeAt s (s.length - remaining))
  | .constant word => .constant word
  | .tooManyDigits count => .tooManyDigits count

def Problem.message : Problem → String
  | .value => "Expecting value"
  | .propertyName => "Expecting property name enclosed in double quotes"
  | .colon => "Expecting ':' delimiter"
  | .comma => "Expecting ',' delimiter"
  | .extraData => "Extra data"
  | .unterminatedString => "Unterminated string starting at"
  | .controlCharacter => "Invalid control character at"
  | .escape => "Invalid \\escape"
  | .unicodeEscape => "Invalid \\uXXXX escape"
  | .byteOrderMark => "Unexpected UTF-8 BOM (decode using utf-8-sig)"

def SyntaxError.message : SyntaxError → String
  | .problem what place =>
    s!"{what.message}: line {place.line} column {place.column} (char {place.offset})"
  | .constant word => s!"'{word}' is not a valid JSON value"
  | .tooManyDigits count =>
    s!"Exceeds the limit ({digitLimit} digits) for integer string conversion: " ++
      s!"value has {count} digits; use sys.set_int_max_str_digits() to increase the limit"

end JsonTemplate.Json
