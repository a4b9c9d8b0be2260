import JsonTemplate.Json.SyntaxError
import JsonTemplate.Yaml.Flow

/-!
# YAML documents

A document is read by its lines. An entry of a block sequence is read as if its text stood on a
line of its own, indented as far as it is; so are the entries of nested sequences. The readers take
fuel, of which a node or an entry spends one; a document has no more of them than characters.
-/

namespace JsonTemplate.Yaml

structure Line where
  indent : Nat
  text : List Char
  /-- The line end after it; the last line of a document has none. -/
  ending : Option Char := none
  deriving DecidableEq

namespace Line

def ofChars (s : List Char) (ending : Option Char) : Line :=
  ⟨(s.takeWhile (· == ' ')).length, s.dropWhile (· == ' '), ending⟩

def chars (l : Line) : List Char :=
  List.replicate l.indent ' ' ++ l.text

def isBlank (l : Line) : Bool :=
  l.text.isEmpty || l.text.head? == some '#'

end Line

abbrev Lines := List Line

def skipBlank (ls : Lines) : Lines :=
  ls.dropWhile Line.isBlank

/-- The lines of a text whose first characters, given in reverse, have been read. -/
def splitLines (read : List Char) : List Char → Lines
  | [] => [.ofChars read.reverse none]
  | c :: s =>
    if isLineEnd c then .ofChars read.reverse (some c) :: splitLines [] s
    else splitLines (c :: read) s

def joinLines (l : Line) (ls : Lines) : List Char :=
  l.text ++ l.ending.toList ++ ls.flatMap fun l => l.chars ++ l.ending.toList

def closeLine (s : List Char) : Option Lines :=
  match splitLines [] s with
  | [] => some []
  | l :: ls => if l.isBlank then some ls else none

def isRestBlank (s : List Char) : Bool :=
  (Line.ofChars s none).isBlank

def dashed? (l : Line) : Option Line :=
  match l.text with
  | '-' :: r =>
    if startsWithBreak r then
      some { l with
        indent := l.indent + 1 + (r.takeWhile (· == ' ')).length
        text := r.dropWhile (· == ' ') }
    else none
  | _ => none

def keyScalar? (s : List Char) : Option (Json × List Char) :=
  match quoted? s with
  | some r => some r
  | none =>
    if startsPlain false s then
      let (text, rest) := takePlain false false s
      some (plainValue (trimSpaces text), rest)
    else none

def keyed? (l : Line) : Option (Key × List Char) := do
  let (k, r) ← keyScalar? l.text
  match r.dropWhile (· == ' ') with
  | ':' :: r => if startsWithBreak r then return (← key? k, r) else none
  | _ => none

inductive Chomp where
  | strip
  | clip
  | keep
  deriving DecidableEq

/-- The marks after the bar of a literal block: what becomes of the line ends after its text, and
how far it is indented. -/
def literalMarks? (chomp : Chomp) (indent : Option Nat) : List Char → Option (Chomp × Option Nat)
  | [] => some (chomp, indent)
  | c :: s =>
    if c = '-' && chomp = .clip then literalMarks? .strip indent s
    else if c = '+' && chomp = .clip then literalMarks? .keep indent s
    else if '1' ≤ c && c ≤ '9' && indent.isNone then
      literalMarks? chomp (some (c.toNat - 48)) s
    else if c = ' ' && isRestBlank s then some (chomp, indent)
    else none

def literalIndent (least : Nat) (ls : Lines) : Nat :=
  let blank := ls.takeWhile (·.text.isEmpty)
  let first := (ls.dropWhile (·.text.isEmpty)).head?.map Line.indent
  max least (((blank.map Line.indent) ++ first.toList).foldl max 0)

def literalLines (indent : Nat) (ls : Lines) : Lines :=
  (ls.takeWhile fun l => l.text.isEmpty || indent ≤ l.indent).map fun l =>
    { l with indent := l.indent - indent }

def lineEnds (ls : Lines) : List Char :=
  ls.flatMap (·.ending.toList)

def literalText (chomp : Chomp) (ls : Lines) : List Char :=
  match ls.reverse.dropWhile (·.chars.isEmpty) with
  | [] => if chomp = .keep then lineEnds ls else []
  | last :: before =>
    let body := (before.reverse.flatMap fun l => l.chars ++ l.ending.toList) ++ last.chars
    match chomp with
    | .strip => body
    | .clip => body ++ last.ending.toList
    | .keep => body ++ last.ending.toList ++ lineEnds (ls.drop (before.length + 1))

def literal? (least : Nat) (header : List Char) (ls : Lines) : Option (Json × Lines) := do
  let (chomp, given) ← literalMarks? .clip none header
  let indent := match given with
    | some n => max least 1 + n - 1
    | none => literalIndent (max least 1) ls
  let taken := literalLines indent ls
  return (.string (String.ofList (literalText chomp taken)), ls.drop taken.length)

/-- What carries a plain scalar on, and the lines after it; what follows the scalar on its last
line counts as a line. -/
def plainLines (least : Nat) : Lines → List Char × Lines
  | [] => ([], [])
  | l :: ls =>
    if l.text.isEmpty then
      match plainLines least ls with
      | ([], _) => ([], l :: ls)
      | (more, rest) => (l.ending.toList ++ more, rest)
    else if l.indent < least || l.isBlank then ([], l :: ls)
    else
      match takePlain false false l.text with
      | (text, []) =>
        let (more, rest) := plainLines least ls
        (text ++ l.ending.toList ++ more, rest)
      | (text, r) => (text, { l with text := r } :: ls)

def plain? (least : Nat) (l : Line) (ls : Lines) : Option (Json × Lines) :=
  if startsPlain false l.text then
    match takePlain false false l.text with
    | (text, []) =>
      let (more, rest) := plainLines least ls
      some (plainValue (folded [] (text ++ l.ending.toList ++ more)), rest)
    | (text, r) => if isRestBlank r then some (plainValue (trimSpaces text), ls) else none
  else none

def inline? (least : Nat) (l : Line) (ls : Lines) : Option (Json × Lines) :=
  match l.text with
  | '|' :: header => literal? least header ls
  | _ =>
    match flow? (joinLines l ls) with
    | some (v, rest) => (closeLine rest).map (v, ·)
    | none => plain? least l ls

mutual

/-- A node whose lines are indented at least so far. The bar of a literal block may also stand just
in front of that. -/
def blockNode : Nat → Nat → Lines → Option (Json × Lines)
  | 0, _, _ => none
  | fuel + 1, least, ls =>
    match skipBlank ls with
    | [] => some (.null, [])
    | l :: rest =>
      if l.indent < least then
        match l.text with
        | '|' :: header =>
          if l.indent + 1 = least then literal? least header rest else some (.null, l :: rest)
        | _ => some (.null, l :: rest)
      else if (dashed? l).isSome then
        (blockEntries fuel l.indent (l :: rest)).map fun p => (.array p.1, p.2)
      else if (keyed? l).isSome then
        (blockMembers fuel l.indent (l :: rest)).map fun p => (.object (mapping p.1), p.2)
      else inline? least l rest

def blockEntries : Nat → Nat → Lines → Option (List Json × Lines)
  | 0, _, _ => none
  | fuel + 1, indent, ls =>
    match skipBlank ls with
    | [] => some ([], [])
    | l :: rest =>
      if l.indent < indent then some ([], l :: rest)
      else if indent < l.indent then none
      else
        match dashed? l with
        | none => some ([], l :: rest)
        | some e => do
          let (v, after) ← blockNode fuel (indent + 1) (if e.isBlank then rest else e :: rest)
          let (vs, after) ← blockEntries fuel indent after
          return (v :: vs, after)

def blockMembers : Nat → Nat → Lines → Option (List (Key × Json) × Lines)
  | 0, _, _ => none
  | fuel + 1, indent, ls =>
    match skipBlank ls with
    | [] => some ([], [])
    | l :: rest =>
      if l.indent < indent then some ([], l :: rest)
      else if indent < l.indent then none
      else do
        let (k, s) ← keyed? l
        let (v, after) ← blockValue fuel indent { l with text := s.dropWhile (· == ' ') } rest
        let (members, after) ← blockMembers fuel indent after
        return ((k, v) :: members, after)

def blockValue : Nat → Nat → Line → Lines → Option (Json × Lines)
  | 0, _, _, _ => none
  | fuel + 1, indent, value, ls =>
    if value.isBlank then
      match skipBlank ls with
      | [] => some (.null, [])
      | l :: rest =>
        if l.indent = indent && (dashed? l).isSome then
          (blockEntries fuel indent (l :: rest)).map fun p => (.array p.1, p.2)
        else blockNode fuel (indent + 1) (l :: rest)
    else inline? (indent + 1) value ls

end

/-- Control characters other than tabs and line ends have no place in a document. -/
def isAllowed (c : Char) : Bool :=
  let n := c.toNat
  n == 9 || n == 10 || n == 13 || (32 ≤ n && n < 127) || n == 0x85 ||
    (0xA0 ≤ n && n != 0xFFFE && n != 0xFFFF)

def isMark (mark : String) (l : Line) : Bool :=
  l.indent == 0 && mark.toList.isPrefixOf l.text && startsWithBreak (l.text.drop 3)

def isStart (l : Line) : Bool :=
  isMark "---" l

def isEnd (l : Line) : Bool :=
  isMark "..." l

def afterMark (l : Line) : Line :=
  { l with text := (l.text.drop 3).dropWhile (· == ' ') }

/-- The lines of a document before the mark of its end, which must be the last thing in it. -/
def dropEnds? (ls : Lines) : Option Lines :=
  let ends := (ls.dropWhile (!isEnd ·)).map fun l => if isEnd l then afterMark l else l
  if (skipBlank ends).isEmpty then some (ls.takeWhile (!isEnd ·)) else none

/-- The node that the text after the mark of a start and the lines after it hold. No block
collection may start on the line of the mark. -/
def startedNode (fuel : Nat) (l : Line) (ls : Lines) : Option (Json × Lines) :=
  if l.isBlank then blockNode fuel 0 ls else inline? 0 l ls

def rootNode (fuel : Nat) (ls : Lines) : Option (Json × Lines) :=
  match skipBlank ls with
  | [] => some (.null, [])
  | l :: rest =>
    if isStart l then
      if rest.any isStart then none
      else (dropEnds? rest).bind (startedNode fuel (afterMark l))
    else if isEnd l || rest.any isStart then none
    else (dropEnds? (l :: rest)).bind (blockNode fuel 0)

def withLineEnds (s : List Char) : List Char :=
  s.map fun c => if c = '\u0085' then '\n' else c

def parse? (text : String) : Option Json :=
  let s := match text.toList with
    | '\uFEFF' :: r => r
    | r => r
  if s.all isAllowed then
    match rootNode (4 * s.length + 8) (splitLines [] (withLineEnds s)) with
    | some (v, rest) => if (skipBlank rest).isEmpty then some v else none
    | none => none
  else none

/-- What a reader makes of a text: a value, an error of the document, or anything else that the
reader raises and nobody catches. -/
inductive Reading where
  | value (v : Json)
  | malformed
  | raised (message : String)

/-- A reader of documents whose values are those of JSON, with scalars of any kind for keys. -/
abbrev Reader := String → Reading

def read : Reader := fun text =>
  match parse? text with
  | none => .malformed
  | some v =>
    match v.tooManyDigits? with
    | some count => .raised (Json.SyntaxError.tooManyDigits count).message
    | none => .value v

end JsonTemplate.Yaml
