import JsonTemplate.Sandbox.Shell.Syntax

/-!
# Tokens of a script

A source is what remains to be read of a script. A line end after a backslash joins two lines. The
text of a document in a script is cut out of the lines after the one that asks for it.
-/

namespace JsonTemplate.Sandbox

structure ScriptFault where
  line : Nat
  message : Octets

structure Source where
  rest : Octets
  line : Nat := 1
  /-- The lines of documents that have been cut out after the current line. -/
  skipped : Nat := 0

inductive ShellToken where
  | word (w : ShellWord)
  | operator (s : String)
  | redirect (descriptor : Option Nat) (s : String)
  | newline
  | ending

namespace Source

def raw? (s : Source) : Option (Char × Source) :=
  match s.rest with
  | [] => none
  | '\n' :: r => some ('\n', ⟨r, s.line + 1 + s.skipped, 0⟩)
  | c :: r => some (c, { s with rest := r })

def joinedFrom : Octets → Nat → Octets × Nat
  | '\\' :: '\n' :: r, n => joinedFrom r (n + 1)
  | r, n => (r, n)

def joined (s : Source) : Source :=
  let (rest, n) := joinedFrom s.rest 0
  { s with rest := rest, line := s.line + n }

def next? (s : Source) : Option (Char × Source) :=
  s.joined.raw?

def peek? (s : Source) : Option Char :=
  s.joined.rest.head?

def takeWhile (p : Char → Bool) : Nat → Source → Octets × Source
  | 0, s => ([], s)
  | fuel + 1, s =>
    match s.next? with
    | some (c, after) =>
      if p c then
        let (cs, after) := takeWhile p fuel after
        (c :: cs, after)
      else ([], s)
    | none => ([], s)

def take (p : Char → Bool) (s : Source) : Octets × Source :=
  s.takeWhile p s.rest.length

def fault {α : Type} (s : Source) (message : String) : Except ScriptFault α :=
  .error ⟨s.line, Octets.ofText message⟩

def skipBlanks : Nat → Source → Source
  | 0, s => s
  | fuel + 1, s =>
    match s.next? with
    | some (' ', after) => skipBlanks fuel after
    | some ('\t', after) => skipBlanks fuel after
    | some ('#', after) => { after with rest := after.rest.dropWhile (· != '\n') }
    | _ => s

end Source

def isWordEnd (c : Char) : Bool :=
  " \t\n;&|()<>".toList.contains c

namespace ShellToken

def operators : List String :=
  ["&&", "||", ";;", "&", "|", ";", "(", ")"]

def redirects : List String :=
  ["<<-", "<<", "<&", "<>", "<", ">>", ">|", ">&", ">"]

def sign? (signs : List String) (s : Source) : Option (String × Source) :=
  let step (w : String) : Option (String × Source) :=
    (w.toList.foldlM (fun (s : Source) c =>
      match s.next? with
      | some (d, after) => if d = c then some after else none
      | none => none) s).map fun after => (w, after)
  signs.findSome? step

def plainText? : ShellWord → Option Octets
  | [.plain s] => some s
  | _ => none

def keywords : List String :=
  ["!", "case", "do", "done", "elif", "else", "esac", "fi", "for", "if", "in", "then", "until",
    "while", "\x7b", "\x7d"]

def isOperator (s : String) : ShellToken → Bool
  | .operator o => o = s
  | _ => false

def keyword? : ShellToken → Option String
  | .word w => (plainText? w).bind fun s =>
      let text := Octets.toText s
      if keywords.contains text then some text else none
  | _ => none

def isKeyword (s : String) (t : ShellToken) : Bool :=
  t.keyword? = some s

def endsList (t : ShellToken) : Bool :=
  match t with
  | .ending => true
  | .operator o => o = ")" || o = ";;"
  | t => (t.keyword?.map ["\x7d", "do", "done", "elif", "else", "esac", "fi", "then"].contains).getD
    false

/-- How a token is named in a message; words count as keywords where one may stand. -/
def text (keywordsCount : Bool) (t : ShellToken) : String :=
  let marked (s : String) := "\"" ++ s ++ "\""
  match t with
  | .ending => "end of file"
  | .newline => "newline"
  | .redirect _ _ => "redirection"
  | .operator s => marked s
  | .word _ => if keywordsCount then (t.keyword?.map marked).getD "word" else "word"

end ShellToken

inductive LineState where
  | blank
  | word
  | single
  | double
  | comment
  deriving DecidableEq

def splitLine (state : LineState) : Octets → Octets × Octets
  | [] => ([], [])
  | '\\' :: c :: s =>
    if state = .single || state = .comment then
      let (l, r) := splitLine state (c :: s)
      ('\\' :: l, r)
    else
      let (l, r) := splitLine (if state = .double then .double else .word) s
      ('\\' :: c :: l, r)
  | c :: s =>
    if c = '\n' && state ≠ .single && state ≠ .double then ([], s)
    else
      let next : LineState :=
        match state with
        | .single => if c = '\'' then .word else .single
        | .double => if c = '"' then .word else .double
        | .comment => .comment
        | state =>
          if c = '\'' then .single else if c = '"' then .double
          else if c = '#' && state = .blank then .comment
          else if isWordEnd c then .blank else .word
      let (l, r) := splitLine next s
      (c :: l, r)

def documentLines (stripped : Bool) (delimiter : Octets) : Nat → Octets → List Octets × Octets
  | 0, s => ([], s)
  | fuel + 1, s =>
    if s.isEmpty then ([], [])
    else
      let l := s.takeWhile (· != '\n')
      let rest := (s.drop l.length).drop 1
      let l := if stripped then l.dropWhile (· == '\t') else l
      if l = delimiter then ([], rest)
      else
        let (ls, rest) := documentLines stripped delimiter fuel rest
        ((l ++ ['\n']) :: ls, rest)

def Source.cutDocument (stripped : Bool) (delimiter : Octets) (s : Source) : Octets × Source :=
  let (current, after) := splitLine .blank s.rest
  let (ls, rest) := documentLines stripped delimiter (after.length + 1) after
  (ls.flatten, { s with
    rest := if current.length = s.rest.length then current else current ++ '\n' :: rest
    skipped := s.skipped + ls.length + 1 })

def delimiterOf : ShellWord → Octets × Bool
  | [] => ([], false)
  | part :: parts =>
    let (s, quoted) := delimiterOf parts
    match part with
    | .plain t => (t ++ s, quoted)
    | .shielded t => (t ++ s, true)
    | .double inner =>
      (inner.flatMap (fun
        | .plain t => t
        | .shielded t => t
        | _ => []) ++ s, true)
    | _ => (s, quoted)

end JsonTemplate.Sandbox
