import JsonTemplate.Json.Keys
import JsonTemplate.Json.Printer

/-!
# Values with sorted keys

`Json.sorted` orders the members of every object by their keys. `Json.canonical` is the text of the
sorted value in ASCII: two values have the same one when they differ at most in the order of
members. `Json.keyClash?` finds the first keys on the way that cannot be ordered.
-/

namespace JsonTemplate.Json

variable {α : Type}

def insertByKey (m : Key × α) : List (Key × α) → List (Key × α)
  | [] => [m]
  | n :: ms => if n.1.before m.1 then n :: insertByKey m ms else m :: n :: ms

def sortByKey : List (Key × α) → List (Key × α)
  | [] => []
  | m :: ms => insertByKey m (sortByKey ms)

mutual

def sorted : Json → Json
  | array items => array (sortedItems items)
  | object members => object (sortByKey (sortedMembers members))
  | v => v

def sortedItems : List Json → List Json
  | [] => []
  | v :: items => sorted v :: sortedItems items

def sortedMembers : List (Key × Json) → List (Key × Json)
  | [] => []
  | (k, v) :: members => (k, sorted v) :: sortedMembers members

end

mutual

/-- The first keys that have no order, objects first and then what is in them, in sorted order. -/
def keyClash? : Json → Option KeyClash
  | array items => itemsClash? items
  | object members =>
    (Key.clash? (Assoc.keys members)).or ((sortByKey (memberClashes members)).findSome? (·.2))
  | _ => none

def itemsClash? : List Json → Option KeyClash
  | [] => none
  | v :: items => (keyClash? v).or (itemsClash? items)

def memberClashes : List (Key × Json) → List (Key × Option KeyClash)
  | [] => []
  | (k, v) :: members => (k, keyClash? v) :: memberClashes members

end

def canonical (v : Json) : String :=
  String.ofList (chars .ascii 0 (sorted v))

end JsonTemplate.Json
