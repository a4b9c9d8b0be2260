import JsonTemplate.Path.Order
import JsonTemplate.Path.Parser

/-!
# Selecting values

`Path.reach` gives the values that a path leads to, in document order and with repetitions. A
selector that does not fit the kind of a value selects nothing from it. `select` reads a path and
applies it.
-/

namespace JsonTemplate

namespace Json

def children : Json → List Json
  | array items => items
  | object members => members.map (·.2)
  | _ => []

mutual

/-- A value and all values inside it, each before its parts. -/
def descendants : Json → List Json
  | array items => .array items :: itemsDescendants items
  | object members => .object members :: membersDescendants members
  | v => [v]

def itemsDescendants : List Json → List Json
  | [] => []
  | v :: items => descendants v ++ itemsDescendants items

def membersDescendants : List (Key × Json) → List Json
  | [] => []
  | (_, v) :: members => descendants v ++ membersDescendants members

end

def membersNamed (names : List String) : Json → List Json
  | object members => names.filterMap fun n => member? n members
  | _ => []

/-- The item at an index; a negative index counts from the end. -/
def item? (items : List Json) (i : Int) : Option Json :=
  if 0 ≤ i then items[i.toNat]?
  else if 0 ≤ i + items.length then items[(i + items.length).toNat]?
  else none

def itemsAt (indices : List Int) : Json → List Json
  | array items => indices.filterMap (item? items)
  | _ => []

end Json

namespace Slice

/-- A bound of a slice as a place in `[least, greatest]`; negative ones count from the end. -/
def bound (length least greatest i : Int) : Int :=
  max least (min greatest (if i < 0 then i + length else i))

def places (length : Nat) (start stop stride : Option Int) : List Nat :=
  let n : Int := length
  let step := stride.getD 1
  if 0 < step then
    let first := (start.map (bound n 0 n)).getD 0
    let last := (stop.map (bound n 0 n)).getD n
    (List.range ((last - first + step - 1) / step).toNat).map fun (k : Nat) =>
      (first + k * step).toNat
  else if step < 0 then
    let first := (start.map (bound n (-1) (n - 1))).getD (n - 1)
    let last := (stop.map (bound n (-1) (n - 1))).getD (-1)
    (List.range ((first - last + -step - 1) / -step).toNat).map fun (k : Nat) =>
      (first + k * step).toNat
  else []

end Slice

def Json.itemsSliced (start stop stride : Option Int) : Json → List Json
  | .array items => (Slice.places items.length start stop stride).filterMap (items[·]?)
  | _ => []

/-- Some value of the first list compares to some value of the second one; a missing side is
equal only to another missing side. -/
def Comparison.holdsBetween (c : Comparison) (vs ws : List Json) : Bool :=
  if vs.isEmpty && ws.isEmpty then c.isReflexive
  else if vs.isEmpty || ws.isEmpty then c == .unequal
  else vs.any fun v => ws.any fun w => c.holds v w

mutual

def Path.reach (root current : Json) : Path → List Json
  | .start .root => [root]
  | .start .current => [current]
  | .step p deep s =>
    let nodes := p.reach root current
    let reached := if deep then nodes.flatMap Json.descendants else nodes
    reached.flatMap fun v => s.select root v

def Selector.select (root v : Json) : Selector → List Json
  | .names ns => v.membersNamed ns
  | .all => v.children
  | .indices is => v.itemsAt is
  | .slice start stop stride => v.itemsSliced start stop stride
  | .filter c => v.children.filter fun w => c.holds root w

def Condition.holds (root current : Json) : Condition → Bool
  | .or a b => a.holds root current || b.holds root current
  | .and a b => a.holds root current && b.holds root current
  | .present p => !(p.reach root current).isEmpty
  | .absent p => (p.reach root current).isEmpty
  | .literal p c v =>
    let ws := p.reach root current
    if ws.isEmpty then c == .unequal else ws.any fun w => c.holds w v
  | .between p c q => c.holdsBetween (p.reach root current) (q.reach root current)

end

namespace Path

/-- The values of `v` that the path written by a text leads to, if the text is a path. -/
def select? (v : Json) (text : String) : Option (List Json) :=
  (parse? text).map fun p => p.reach v v

end Path

end JsonTemplate
