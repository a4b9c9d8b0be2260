import JsonTemplate.Sandbox.Tool.Options

/-!
# Counting

`wc` counts the lines, words, characters and bytes of files and measures their longest line. The
counts stand in columns as wide as the number of all bytes, or of seven places if not all of them
are files.
-/

namespace JsonTemplate.Sandbox.Count

def options : List ToolOption :=
  [⟨'c', true, "bytes", false⟩, ⟨'l', true, "lines", false⟩, ⟨'L', true, "max-line-length", false⟩,
    ⟨'m', true, "chars", false⟩, ⟨'w', true, "words", false⟩, ⟨'T', false, "total", true⟩]

structure Counts where
  lines : Nat := 0
  words : Nat := 0
  chars : Nat := 0
  bytes : Nat := 0
  longest : Nat := 0

def Counts.add (a b : Counts) : Counts :=
  ⟨a.lines + b.lines, a.words + b.words, a.chars + b.chars, a.bytes + b.bytes,
    max a.longest b.longest⟩

def isSpace (c : Char) : Bool :=
  Real.isBlank c || [0x85, 0xA0, 0x1680, 0x2028, 0x2029, 0x202F, 0x205F, 0x2060, 0x3000].contains
    c.toNat || (0x2000 ≤ c.toNat && c.toNat ≤ 0x200A)

/-- The number of words of a text; `inside` says that a word goes on. -/
def countWords (inside : Bool) : List Char → Nat
  | [] => 0
  | c :: s =>
    if isSpace c then countWords false s
    else (if inside then 0 else 1) + countWords true s

def isWide (c : Char) : Bool :=
  let n := c.toNat
  (0x1100 ≤ n && n ≤ 0x115F) || (0x2E80 ≤ n && n ≤ 0x303E) || (0x3041 ≤ n && n ≤ 0xA4CF) ||
    (0xAC00 ≤ n && n ≤ 0xD7A3) || (0xF900 ≤ n && n ≤ 0xFAFF) || (0xFE30 ≤ n && n ≤ 0xFE6F) ||
    (0xFF00 ≤ n && n ≤ 0xFF60) || (0xFFE0 ≤ n && n ≤ 0xFFE6) || (0x1F300 ≤ n && n ≤ 0x1F64F) ||
    (0x1F900 ≤ n && n ≤ 0x1F9FF) || (0x20000 ≤ n && n ≤ 0x3FFFD)

def width (place : Nat) (c : Char) : Nat :=
  if c = '\t' then 8 - place % 8
  else if c.toNat < 32 || (127 ≤ c.toNat && c.toNat < 160) then 0
  else if isWide c then 2
  else 1

/-- The longest line of a text, of which the current line takes `place` places so far. -/
def longestLine (place longest : Nat) : List Char → Nat
  | [] => max place longest
  | c :: s =>
    if c = '\n' || c = '\r' || c = '\x0c' then longestLine 0 (max place longest) s
    else longestLine (place + width place c) longest s

def countsOf (s : Octets) : Counts :=
  let text := (Octets.toText s).toList
  ⟨s.count '\n', countWords false text, text.length, s.length, longestLine 0 0 text⟩

def columns (g : Given) (c : Counts) : List Nat :=
  if g.hasAny "lwmcL" then
    [('l', c.lines), ('w', c.words), ('m', c.chars), ('c', c.bytes), ('L', c.longest)].filterMap
      fun e => if g.has e.1 then some e.2 else none
  else [c.lines, c.words, c.bytes]

def row (g : Given) (width : Nat) (c : Counts) (name : Option Octets) : Octets :=
  let cells := (columns g c).map fun (n : Nat) => padLeft width (decimal n)
  asLine [[' '].intercalate cells, (name.map fun s => ' ' :: s).getD []]

/-- The width of a column for some files; no name stands for the standard input alone. -/
def widthFor (t : Task) (g : Given) (names : List (Option Octets)) : Nat :=
  if names.length = 1 && (columns g {}).length = 1 then 1
  else
    let size (name : Option Octets) : Option Nat :=
      if name.getD ['-'] = ['-'] then if t.seekable then some t.inputBytes.length else none
      else
        let n := name.getD []
        match t.read n with
        | .ok s => if t.isRegular n then some s.length else none
        | .error .isADirectory => none
        | .error _ => some 0
    let least := if names.all fun n => (size n).isSome then 1 else 7
    let sum : Nat := (names.map fun n => (size n).getD 0).foldl (· + ·) 0
    max least (decimal sum).length

def runAll (t : Task) (g : Given) (width : Nat) (rows : Bool) (total : Counts) :
    List (Option Octets) → Finished × Counts
  | [] => ({}, total)
  | name :: names =>
    let isInput := name.getD ['-'] = ['-']
    let write (c : Counts) : List Emission := if rows then [.output (row g width c name)] else []
    match if isInput then t.input else t.read (name.getD []) with
    | .ok s =>
      let c := countsOf s
      let taken := if isInput then s.length else 0
      let t := if isInput then t.withoutInput else t
      let (rest, sum) := runAll t g width rows (total.add c) names
      let first : Finished := { emissions := write c, taken := taken }
      (first.followedBy rest, sum)
    | .error e =>
      let complaint := t.complain (shownName (name.getD []) ++ Octets.ofText (": " ++ e.reason))
      let (rest, sum) := runAll t g width rows total names
      let shown := if isInput || e = .isADirectory then write {} else []
      ({ rest with emissions := complaint :: (shown ++ rest.emissions), status := 1 }, sum)

def totalModes : List String := ["auto", "always", "only", "never"]

def run (t : Task) : Finished :=
  match ToolOption.parse options t.args with
  | .error e => t.misused e
  | .ok g =>
    let mode := Octets.toText ((g.value? 'T').getD (Octets.ofText "auto"))
    if !totalModes.contains mode then
      t.misused (Octets.ofText "invalid argument " ++ inMarks (Octets.ofText mode) ++
        Octets.ofText " for ‘--total’")
    else
      let names := if g.operands.isEmpty then [none] else g.operands.map some
      let width := if mode = "only" then 1 else widthFor t g names
      let (f, sum) := runAll t g width (mode ≠ "only") {} names
      if mode = "only" || mode = "always" || (mode = "auto" && 1 < names.length) then
        let name := if mode = "only" then none else some (Octets.ofText "total")
        { f with emissions := f.emissions ++ [.output (row g width sum name)] }
      else f

end JsonTemplate.Sandbox.Count
