import JsonTemplate.Number.Double
import JsonTemplate.Assoc

/-!
# JSON values

Integers are unbounded and kept apart from doubles; the members of an object keep their order. The
key of a member is a name, or, in a document of a richer notation, a scalar that is no text; such
a key is written like the scalar but is not reached by any name.
-/

namespace JsonTemplate

inductive Scalar where
  | null
  | bool (b : Bool)
  | int (n : Int)
  | float (d : Double)
  deriving DecidableEq, Repr

inductive Key where
  | name (s : String)
  | scalar (v : Scalar)
  deriving DecidableEq, Repr

inductive Json where
  | null
  | bool (b : Bool)
  | int (n : Int)
  | float (d : Double)
  | string (s : String)
  | array (items : List Json)
  | object (members : List (Key × Json))
  deriving Repr, Inhabited

namespace Json

def isNull : Json → Bool
  | null => true
  | _ => false

/-- Null, false, zero and whatever is empty count as false. -/
def isTruthy : Json → Bool
  | null => false
  | bool b => b
  | int n => n != 0
  | float d => d.rank != 0
  | string s => s != ""
  | array items => !items.isEmpty
  | object members => !members.isEmpty

def kindName : Json → String
  | null => "NoneType"
  | bool _ => "bool"
  | int _ => "int"
  | float _ => "float"
  | string _ => "str"
  | array _ => "list"
  | object _ => "dict"

def member? (name : String) (members : List (Key × Json)) : Option Json :=
  Assoc.get? (.name name) members

def stringArray (items : List String) : Json :=
  .array (items.map .string)

def named (fields : List (String × Json)) : Json :=
  .object (fields.map fun f => (.name f.1, f.2))

end Json

end JsonTemplate
