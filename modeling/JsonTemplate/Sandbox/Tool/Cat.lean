import JsonTemplate.Sandbox.Tool.Options

/-!
# Joining files

`cat` writes files one after the other. It can number lines, leave out repeated empty lines and
make characters visible; a line that one file leaves open goes on in the next one.
-/

namespace JsonTemplate.Sandbox.Cat

structure Style where
  numbered : Bool
  /-- Whether only lines that are not empty are numbered. -/
  nonempty : Bool
  squeezed : Bool
  ends : Bool
  tabs : Bool
  others : Bool

def options : List ToolOption :=
  [⟨'A', true, "show-all", false⟩, ⟨'b', true, "number-nonblank", false⟩, ⟨'e', true, "", false⟩,
    ⟨'E', true, "show-ends", false⟩, ⟨'n', true, "number", false⟩,
    ⟨'s', true, "squeeze-blank", false⟩, ⟨'t', true, "", false⟩, ⟨'T', true, "show-tabs", false⟩,
    ⟨'u', true, "", false⟩, ⟨'v', true, "show-nonprinting", false⟩]

def styleOf (g : Given) : Style where
  numbered := g.hasAny "nb"
  nonempty := g.has 'b'
  squeezed := g.has 's'
  ends := g.hasAny "AeE"
  tabs := g.hasAny "AtT"
  others := g.hasAny "Aetv"

def Style.isPlain (s : Style) : Bool :=
  !(s.numbered || s.squeezed || s.ends || s.tabs || s.others)

/-- Where the text stands: the number of the last numbered line, whether a line has begun, and
how many empty lines came last. -/
structure Progress where
  number : Nat := 0
  inLine : Bool := false
  empty : Nat := 0

def visible (c : Char) : Octets :=
  let low (n : Nat) : Octets :=
    if n < 32 then ['^', octet (n + 64)] else if n = 127 then ['^', '?'] else [octet n]
  if c.toNat < 128 then low c.toNat else 'M' :: '-' :: low (c.toNat - 128)

def shown (style : Style) (c : Char) : Octets :=
  if c = '\t' then if style.tabs then ['^', 'I'] else [c]
  else if style.others then visible c
  else [c]

def numberText (n : Nat) : Octets :=
  padLeft 6 (decimal n) ++ ['\t']

def step (style : Style) (p : Progress) (c : Char) (next : Option Char) : Octets × Progress :=
  let numbering := style.numbered && !p.inLine && (c ≠ '\n' || !style.nonempty)
  let number := if numbering then p.number + 1 else p.number
  let mark := if numbering then numberText number else []
  if c = '\n' then
    if !p.inLine && style.squeezed && 1 ≤ p.empty then ([], p)
    else
      (mark ++ if style.ends then ['$', '\n'] else ['\n'],
        { number, inLine := false, empty := if p.inLine then 0 else p.empty + 1 })
  else
    let ending := style.ends && !style.others && c = '\r' && next == some '\n'
    (mark ++ if ending then ['^', 'M'] else shown style c, { number, inLine := true, empty := 0 })

def apply (style : Style) (p : Progress) : Octets → Octets × Progress
  | [] => ([], p)
  | c :: s =>
    let (first, p) := step style p c s.head?
    let (rest, p) := apply style p s
    (first ++ rest, p)

def contentOf (t : Task) (name : Octets) : Except Octets Octets :=
  if name = ['-'] then
    t.input.mapError fun e => Octets.ofText ("-: " ++ e.reason)
  else
    match t.read name with
    | .ok s =>
      if t.isOutput name && !s.isEmpty then
        .error (shownName name ++ Octets.ofText ": input file is output file")
      else .ok s
    | .error e => .error (shownName name ++ Octets.ofText (": " ++ e.reason))

def runAll (t : Task) (style : Style) (p : Progress) : List Octets → Finished
  | [] => {}
  | name :: names =>
    match contentOf t name with
    | .error e =>
      let rest := runAll t style p names
      { rest with emissions := t.complain e :: rest.emissions, status := 1 }
    | .ok s =>
      let (output, p) := if style.isPlain then (s, p) else apply style p s
      let taken := if name = ['-'] then t.inputBytes.length else 0
      { Task.writes output with taken := taken }.followedBy
        (runAll (if name = ['-'] then t.withoutInput else t) style p names)

def run (t : Task) : Finished :=
  match ToolOption.parse options t.args with
  | .error e => t.misused e
  | .ok g =>
    if !t.hasOutput then t.failed (Octets.ofText "standard output: Bad file descriptor")
    else runAll t (styleOf g) {} (if g.operands.isEmpty then [['-']] else g.operands)

end JsonTemplate.Sandbox.Cat
