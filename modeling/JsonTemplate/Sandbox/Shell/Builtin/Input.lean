import JsonTemplate.Sandbox.Shell.Builtin.Basic
import JsonTemplate.Sandbox.Shell.Fields

/-!
# Reading a line

`read` takes one line from the standard input and splits it into fields for some variables. The last
variable gets what is left: a single field without its end, or all the fields that are left with
the separators between and after them, but for blanks at the end.
-/

namespace JsonTemplate.Sandbox

structure InputLine where
  items : List Item := []
  /-- The number of bytes that it takes. -/
  length : Nat := 0
  /-- Whether its end has been found. -/
  complete : Bool := false

namespace InputLine

def cons (item : Option Item) (bytes : Nat) (l : InputLine) : InputLine :=
  { l with items := item.toList ++ l.items, length := bytes + l.length }

/-- The line at the start of a text. A backslash shields the next character and joins two lines,
unless the line is read as it is. -/
def read (raw : Bool) : Octets → InputLine
  | [] => {}
  | '\\' :: c :: s =>
    if raw then cons (some (.char '\\' .expanded)) 1 (read raw (c :: s))
    else if c = '\n' then cons (some .anchor) 2 (read raw s)
    else if c = octet 0 then cons none 2 (read raw s)
    else cons (some (.char c .quoted)) 2 (read raw s)
  | c :: s =>
    if c = '\n' then { length := 1, complete := true }
    else if c = octet 0 then cons none 1 (read raw s)
    else if c = '\\' && !raw then cons none 1 (read raw s)
    else cons (some (.char c .expanded)) 1 (read raw s)

end InputLine

structure Splitting where
  /-- The fields that have ended, latest first. -/
  done : List Octets := []
  /-- The field that has begun, in reverse. -/
  field : Octets := []
  /-- Whether blanks have ended a field, so that a separator after them belongs to the same end. -/
  spaced : Bool := false
  left : Nat
  /-- Where the field ends if nothing else comes. -/
  cut : Option Nat := none

namespace Splitting

def push (s : Splitting) (c : Char) : Splitting :=
  { s with field := c :: s.field }

def take (separators : Octets) (s : Splitting) (c : Char) : Splitting :=
  let separates := separators.contains c
  let blank := separates && Item.isSpace c
  if s.left = 0 then
    if blank then { s.push c with cut := s.cut <|> some s.field.length }
    else { s.push c with cut := if separates && s.spaced then s.cut else none, spaced := false }
  else if s.spaced then
    if blank then { s with field := [] }
    else if separates then { s with field := [], spaced := false }
    else { s with field := [c], spaced := false }
  else if separates then
    if s.field.isEmpty && blank then s
    else if s.left = 1 then
      { s.push c with left := 0, cut := some s.field.length, spaced := blank }
    else
      { s with done := s.field.reverse :: s.done, field := [], left := s.left - 1, spaced := blank }
  else { s.push c with spaced := false }

def step (separators : Octets) (s : Splitting) : Item → Splitting
  | .char c .expanded => s.take separators c
  | .char c _ => { s.push c with spaced := false }
  | .anchor => { s with spaced := false }
  | .cut => s

def finish (s : Splitting) : List Octets :=
  let field := match s.cut with
    | some n => s.field.reverse.take n
    | none => s.field.reverse
  (if field.isEmpty then s.done else field :: s.done).reverse

end Splitting

def lineFields (separators : Octets) (n : Nat) (items : List Item) : List Octets :=
  (items.foldl (Splitting.step separators) { left := n }).finish

def assignFields : Shell → List Octets → List Octets → Shell
  | sh, [], _ => sh
  | sh, name :: names, fields =>
    let sh := sh.assignNamed name (fields.head?.getD [])
    if sh.isNormal then assignFields sh names fields.tail else sh

def readVariables : Builtin := fun sh args =>
  sh.withOptions "p:r" args fun o =>
    if o.operands.isEmpty then sh.fail (Octets.ofText "arg count")
    else
      let l := InputLine.read (o.has 'r') (sh.input.getD [])
      let sh := sh.takeInput l.length !l.complete
      if sh.isNormal then
        assignFields (sh.withStatus (if l.complete then 0 else 1)) o.operands
          (lineFields sh.separators o.operands.length l.items)
      else sh

end JsonTemplate.Sandbox
