import JsonTemplate.Sandbox.Tool.Options

/-!
# Translating characters

`tr` replaces, deletes or squeezes characters. A set is written as single characters, ranges,
classes and repetitions; when it is complemented it holds all other characters in order. The last
character of the second set stands for as many as the first one needs.
-/

namespace JsonTemplate.Sandbox.Translate

def options : List ToolOption :=
  [⟨'c', true, "complement", false⟩, ⟨'C', true, "", false⟩, ⟨'d', true, "delete", false⟩,
    ⟨'s', true, "squeeze-repeats", false⟩, ⟨'t', true, "truncate-set1", false⟩]

inductive SetItem where
  | one (c : Char)
  | range (first last : Char)
  | named (name : String)
  | alike (c : Char)
  /-- No count stands for as many as are needed. -/
  | repeated (c : Char) (count : Option Nat)
  deriving DecidableEq

structure Request where
  complement : Bool
  delete : Bool
  squeeze : Bool
  truncate : Bool

def isPunctuation (c : Char) : Bool :=
  '!' ≤ c && c ≤ '~' && !c.isAlphanum

def classes : List (String × (Char → Bool)) :=
  [("alnum", Char.isAlphanum), ("alpha", Char.isAlpha), ("blank", fun c => c == ' ' || c == '\t'),
    ("cntrl", fun c => c.toNat < 32 || c.toNat = 127), ("digit", Char.isDigit),
    ("graph", fun c => '!' ≤ c && c ≤ '~'), ("lower", Char.isLower),
    ("print", fun c => ' ' ≤ c && c ≤ '~'), ("punct", isPunctuation), ("space", Real.isBlank),
    ("upper", Char.isUpper), ("xdigit", isHex)]

def allOctets : Octets :=
  (List.range 256).map Char.ofNat

abbrev Marked := Char × Bool

def marks : Nat → Octets → List Marked
  | 0, _ => []
  | fuel + 1, s =>
    match s with
    | [] => []
    | ['\\'] => [('\\', false)]
    | '\\' :: c :: r =>
      let ds := takeUpTo 3 isOctal (c :: r)
      let ds := if 255 < octalValue ds then ds.take 2 else ds
      if !ds.isEmpty then (octet (octalValue ds), true) :: marks fuel ((c :: r).drop ds.length)
      else
        let control := [('a', 7), ('b', 8), ('f', 12), ('n', 10), ('r', 13), ('t', 9), ('v', 11)]
        (((control.lookup c).map octet).getD c, true) :: marks fuel r
    | c :: r => (c, false) :: marks fuel r

def plainText (s : List Marked) : Octets :=
  s.map (·.1)

/-- The text between a bracket with a mark and the mark with the closing bracket, and the rest. -/
def closing (mark : Char) : List Marked → Option (List Marked × List Marked)
  | [] => none
  | [_] => none
  | a :: b :: s =>
    if a = (mark, false) && b = (']', false) then some ([], s)
    else (closing mark (b :: s)).map fun r => (a :: r.1, r.2)

def repetition? : List Marked → Except Octets (Option (SetItem × List Marked))
  | (c, _) :: ('*', false) :: s =>
    let digits := s.takeWhile fun m => !m.2 && m.1 ≠ ']'
    match s.drop digits.length with
    | (']', false) :: rest =>
      let ds := plainText digits
      let octal := ds.head? == some '0'
      if ds.isEmpty then .ok (some (.repeated c none, rest))
      else if ds.all fun d => if octal then isOctal d else d.isDigit then
        let n := Real.numberOf (if octal then 8 else 10) ds
        .ok (some (.repeated c (if n = 0 then none else some n), rest))
      else
        .error (Octets.ofText "invalid repeat count " ++ inMarks ds ++
          Octets.ofText " in [c*n] construct")
    | _ => .ok none
  | _ => .ok none

def looksRepeated (s : List Marked) : Bool :=
  match s with
  | ('*', false) :: r =>
    (r.dropWhile fun m => !m.2 && m.1.isDigit).head? == some (']', false)
  | _ => false

def bracketed? (mark : Char) (s : List Marked) : Except Octets (Option (SetItem × List Marked)) :=
  match closing mark s with
  | none => .ok none
  | some (inside, rest) =>
    let text := plainText inside
    if inside.isEmpty then
      .error (Octets.ofText (if mark = ':' then "missing character class name '[::]'"
        else "missing equivalence class character '[==]'"))
    else if mark = ':' then
      if (classes.lookup (Octets.toText text)).isSome then
        .ok (some (.named (Octets.toText text), rest))
      else if looksRepeated s then .ok none
      else .error (Octets.ofText "invalid character class " ++ inMarks text)
    else
      match text with
      | [c] => .ok (some (.alike c, rest))
      | _ =>
        if looksRepeated s then .ok none
        else
          .error (text ++ Octets.ofText ": equivalence class operand must be a single character")

def construct? (s : List Marked) : Except Octets (Option (SetItem × List Marked)) := do
  let named ← match s with
    | (':', false) :: r => bracketed? ':' r
    | ('=', false) :: r => bracketed? '=' r
    | _ => .ok none
  match named with
  | some r => return some r
  | none => repetition? s

/-- The items of an operand; a construct needs two more characters after its first one. -/
def readItems : Nat → List Marked → Except Octets (List SetItem)
  | 0, _ => .ok []
  | fuel + 1, s => do
    match s with
    | [] => return []
    | a :: b :: c :: r =>
      let found ← if a = ('[', false) then construct? (b :: c :: r) else .ok none
      match found with
      | some (item, rest) => return item :: (← readItems fuel rest)
      | none =>
        if b = ('-', false) then
          if c.1 < a.1 then
            throw (Octets.ofText "range-endpoints of " ++ inMarks [a.1, '-', c.1] ++
              Octets.ofText " are in reverse collating sequence order")
          else return .range a.1 c.1 :: (← readItems fuel r)
        else return .one a.1 :: (← readItems fuel (b :: c :: r))
    | s => return s.map fun m => .one m.1

def itemsOf (operand : Octets) : Except Octets (List SetItem) :=
  readItems (operand.length + 1) (marks (operand.length + 1) operand)

/-- The characters of an item, in order; a repetition without a count is repeated `fill` times. -/
def expand (fill : Nat) : SetItem → Octets
  | .one c => [c]
  | .range a b => allOctets.filter fun c => a ≤ c && c ≤ b
  | .named name => allOctets.filter ((classes.lookup name).getD fun _ => false)
  | .alike c => [c]
  | .repeated c n => List.replicate (n.getD fill) c

def expandAll (fill : Nat) (items : List SetItem) : Octets :=
  items.flatMap (expand fill)

def isFill : SetItem → Bool
  | .repeated _ none => true
  | _ => false

def isClass : SetItem → Bool
  | .named _ => true
  | _ => false

def isAlike : SetItem → Bool
  | .alike _ => true
  | _ => false

def isCase : SetItem → Bool
  | .named name => name = "upper" || name = "lower"
  | _ => false

def firstSet (r : Request) (items : List SetItem) : Octets :=
  let s := expandAll 0 items
  if r.complement then allOctets.filter (!s.contains ·) else s

def secondSet (length : Nat) (items : List SetItem) : Octets :=
  expandAll (length - (expandAll 0 items).length) items

def casePlaces (fill : Nat) (place : Nat) : List SetItem → List Nat
  | [] => []
  | i :: items =>
    let rest := casePlaces fill (place + (expand fill i).length) items
    if isCase i then place :: rest else rest

def translationFault? (r : Request) (first second : List SetItem) : Option String :=
  let from_ := firstSet r first
  let onto := secondSet from_.length second
  let fill := from_.length - (expandAll 0 second).length
  if second.any isAlike then some "[=c=] expressions may not appear in string2 when translating"
  else if second.any fun i => isClass i && !isCase i then
    some ("when translating, the only character classes that may appear in\n" ++
      "string2 are 'upper' and 'lower'")
  else if !r.complement && !(casePlaces fill 0 second).all (casePlaces 0 0 first).contains then
    some "misaligned [:upper:] and/or [:lower:] construct"
  else if onto.length < from_.length && !r.truncate && onto.isEmpty then
    some "when not truncating set1, string2 must be non-empty"
  else if onto.length < from_.length && !r.truncate && second.getLast?.any isClass then
    some ("when translating with string1 longer than string2,\n" ++
      "the latter string must not end with a character class")
  else if r.complement && first.any isClass && (!r.truncate || onto.length = from_.length) &&
      !onto.all (onto.head? == some ·) then
    some ("when translating with complemented character classes,\n" ++
      "string2 must map all characters in the domain to one")
  else none

def fault? (r : Request) (first : List SetItem) (second : Option (List SetItem)) : Option String :=
  if first.any isFill then some "the [c*] repeat construct may not appear in string1"
  else
    match second with
    | none => none
    | some second =>
      if 1 < second.countP isFill then
        some "only one [c*] repeat construct may appear in string2"
      else if !r.delete then translationFault? r first second
      else if second.any isFill then
        some "the [c*] construct may appear in string2 only when translating"
      else none

def squeezed (set : Octets) (last : Option Char) : Octets → Octets
  | [] => []
  | c :: s =>
    if last == some c && set.contains c then squeezed set last s else c :: squeezed set (some c) s

/-- The character at the last place of `c` in `old`; the last one stands for more. -/
def substitute (old new : Octets) (c : Char) : Char :=
  match old.reverse.idxOf? c with
  | none => c
  | some i => (new[old.length - 1 - i]?).getD (new.getLast?.getD c)

def apply (r : Request) (first : List SetItem) (second : Option (List SetItem)) (s : Octets) :
    Octets :=
  let set := firstSet r first
  match second with
  | none => if r.delete then s.filter (!set.contains ·) else squeezed set none s
  | some second =>
    if r.delete then squeezed (expandAll 0 second) none (s.filter (!set.contains ·))
    else
      let new := secondSet set.length second
      let old := if r.truncate then set.take new.length else set
      let output := s.map (substitute old new)
      if r.squeeze then squeezed new none output else output

def arranged (args : List Octets) : List Octets :=
  let isOption (a : Octets) := a.head? == some '-' && a ≠ ['-']
  let front := args.takeWhile fun a => isOption a && a ≠ ['-', '-']
  match args.drop front.length with
  | ['-', '-'] :: rest => front ++ ['-', '-'] :: rest
  | rest => front ++ ['-', '-'] :: rest

def operandFault? (r : Request) (operands : List Octets) : Option (List Octets) :=
  let least := if r.delete == r.squeeze then 2 else 1
  let most := if r.delete && !r.squeeze then 1 else 2
  match operands with
  | [] => some [Octets.ofText "missing operand"]
  | [a] =>
    if least ≤ 1 then none
    else some [Octets.ofText "missing operand after " ++ inMarks a,
      Octets.ofText (if r.squeeze then
        "Two strings must be given when both deleting and squeezing repeats."
        else "Two strings must be given when translating.")]
  | operands =>
    match operands[most]? with
    | none => none
    | some extra => some ((Octets.ofText "extra operand " ++ inMarks extra) ::
        if operands.length = 2 then
          [Octets.ofText
            "Only one string may be given when deleting without squeezing repeats."]
        else [])

def run (t : Task) : Finished :=
  match ToolOption.parse options (arranged t.args) with
  | .error e => t.misused e
  | .ok g =>
    let r : Request := ⟨g.hasAny "cC", g.has 'd', g.has 's', g.has 't'⟩
    match operandFault? r g.operands with
    | some (first :: more) => t.misused (first ++ more.flatMap ('\n' :: ·))
    | some [] => t.misused []
    | none =>
      match g.operands.mapM itemsOf with
      | .error e => t.failed e
      | .ok sets =>
        let first := sets.head?.getD []
        let second := sets[1]?
        match fault? r first second with
        | some e => t.failed (Octets.ofText e)
        | none =>
          match t.input with
          | .error e => t.failed (Octets.ofText ("read error: " ++ e.reason))
          | .ok s => { Task.writes (apply r first second s) with taken := s.length }

end JsonTemplate.Sandbox.Translate
