import JsonTemplate.Sandbox.Shell.Token

/-!
# Reading scripts

A script is read one complete line of commands at a time, so that what stands before a mistake can
be run. The readers take the current token along with the source after it; the fuel bounds how deep
they call one another.
-/

namespace JsonTemplate.Sandbox

structure Cursor where
  token : ShellToken
  after : Source

inductive WordMode where
  | word
  | quotes
  /-- Between braces; `quoted` says that quotes stand around them, `inner` that others have been
  opened inside. -/
  | braces (quoted inner : Bool)
  /-- A document in a script, up to the end of its text. -/
  | document
  /-- An arithmetic expression with some parentheses open. -/
  | arithmetic (depth : Nat)
  deriving DecidableEq

namespace WordMode

def isQuoted : WordMode → Bool
  | word => false
  | braces quoted _ => quoted
  | _ => true

def escapes (m : WordMode) (c : Char) : Bool :=
  match m with
  | word => true
  | braces false _ => true
  | braces true _ => "\\`$\"\x7d".toList.contains c
  | quotes => "\\`$\"".toList.contains c
  | document => "\\`$".toList.contains c
  | arithmetic _ => "\\`$\"".toList.contains c

def openFault : WordMode → Option String
  | word => none
  | document => none
  | quotes => some "Unterminated quoted string"
  | braces _ _ => some "Missing '\x7d'"
  | arithmetic _ => some "Missing '))'"

end WordMode

/-- Puts a part in front of others; literal text joins. -/
def consPart : WordPart → List WordPart → List WordPart
  | .plain s, .plain t :: parts => .plain (s ++ t) :: parts
  | p, parts => p :: parts

def syntaxFault {α : Type} (c : Cursor) (message : String) : Except ScriptFault α :=
  c.after.fault ("Syntax error: " ++ message)

def unexpected {α : Type} (c : Cursor) (keywordsCount : Bool) (wanted : Option String) :
    Except ScriptFault α :=
  syntaxFault c (c.token.text keywordsCount ++ " unexpected" ++
    (wanted.map fun w => " (expecting " ++ w ++ ")").getD "")

def backquoted (quoted : Bool) : Nat → Source → Except ScriptFault (Octets × Source)
  | 0, s => s.fault "Syntax error: EOF in backquote substitution"
  | fuel + 1, s =>
    match s.next? with
    | none => s.fault "Syntax error: EOF in backquote substitution"
    | some ('\x60', after) => .ok ([], after)
    | some ('\\', after) =>
      match after.raw? with
      | none => s.fault "Syntax error: EOF in backquote substitution"
      | some (c, after) =>
        let taken := "\\`$".toList.contains c || (quoted && c = '"')
        (backquoted quoted fuel after).map fun r => ((if taken then [c] else ['\\', c]) ++ r.1, r.2)
    | some (c, after) => (backquoted quoted fuel after).map fun r => (c :: r.1, r.2)

def singleQuoted : Nat → Source → Except ScriptFault (Octets × Source)
  | 0, s => s.fault "Syntax error: Unterminated quoted string"
  | fuel + 1, s =>
    match s.raw? with
    | none => s.fault "Syntax error: Unterminated quoted string"
    | some ('\'', after) => .ok ([], after)
    | some (c, after) => (singleQuoted fuel after).map fun r => (c :: r.1, r.2)

def isSpecial (c : Char) : Bool :=
  "@*#?-$!".toList.contains c || c.isDigit

inductive BraceHead where
  | done (part : WordPart)
  | default (name : Octets) (orEmpty : Bool) (kind : Default)
  | trim (name : Octets) (kind : Trim)
  | malformed

/-- The name of a parameter at the start of braces, whether its length is meant, and what
follows. -/
def braceName (s : Source) : Option (Octets × Bool × Source) :=
  let named (s : Source) : Option (Octets × Source) :=
    match s.peek? with
    | none => none
    | some c =>
      if isNameStart c then some (s.take isNameChar)
      else if c.isDigit then some (s.take Char.isDigit)
      else none
  match named s with
  | some (n, s) => some (n, false, s)
  | none =>
    match s.next? with
    | none => none
    | some ('#', after) =>
      match named after with
      | some (n, after) => some (n, true, after)
      | none =>
        match after.next? with
        | none => some (['#'], false, after)
        | some (c, second) =>
          if c ≠ '\x7d' && second.peek? = some '\x7d' then
            if isSpecial c then some ([c], true, second) else none
          else some (['#'], false, after)
    | some (c, after) => if isSpecial c then some ([c], false, after) else none

def defaultKind? (c : Char) : Option Default :=
  [('-', Default.use), ('=', Default.assign), ('?', Default.complain), ('+', Default.alternative)].lookup
    c

def braceHead (s : Source) : BraceHead × Source :=
  match braceName s with
  | none => (.malformed, s)
  | some (name, true, s) =>
    match s.next? with
    | some ('\x7d', after) => (.done (.length name), after)
    | _ => (.malformed, s)
  | some (name, false, s) =>
    let trimmed (once twice : Trim) (mark : Char) (after : Source) : BraceHead × Source :=
      if after.peek? = some mark then (.trim name twice, { after.joined with
        rest := after.joined.rest.drop 1 })
      else (.trim name once, after)
    match s.next? with
    | none => (.malformed, s)
    | some ('\x7d', after) => (.done (.parameter name), after)
    | some ('%', after) => trimmed .shortestSuffix .longestSuffix '%' after
    | some ('#', after) => trimmed .shortestPrefix .longestPrefix '#' after
    | some (':', after) =>
      match after.next? with
      | some ('\x7d', after) => (.done (.parameter name), after)
      | some (c, after) => (((defaultKind? c).map (.default name true)).getD .malformed, after)
      | none => (.malformed, after)
    | some (c, after) => (((defaultKind? c).map (.default name false)).getD .malformed, after)

def BraceHead.finish (word : List WordPart) : BraceHead → WordPart
  | .done part => part
  | .default name orEmpty kind => .default name orEmpty kind word
  | .trim name kind => .trim name kind word
  | .malformed => .malformed

def assignment? : ShellWord → Option (Octets × ShellWord)
  | .plain s :: parts =>
    let name := s.takeWhile isNameChar
    match s.drop name.length with
    | '=' :: value =>
      if isName name then some (name, if value.isEmpty then parts else .plain value :: parts)
      else none
    | _ => none
  | _ => none

def specialBuiltins : List String :=
  [".", ":", "break", "continue", "eval", "exec", "exit", "export", "local", "readonly", "return",
    "set", "shift", "times", "trap", "unset"]

/-- A redirection with its target; the text of a document has been read already. -/
def redirectOf (descriptor : Option Nat) (sign : String) (target : ShellWord) : Redirect :=
  let n := descriptor.getD (if sign.startsWith "<" then 0 else 1)
  match sign with
  | "<" => .input n target
  | "<>" => .both n target
  | ">>" => .output n true target
  | "<&" => .duplicate n target
  | ">&" => .duplicate n target
  | _ => .output n false target

mutual

def readParts : Nat → WordMode → Source → Except ScriptFault (List WordPart × Source)
  | 0, _, s => s.fault "Syntax error: word too long"
  | fuel + 1, m, s =>
    let onward (p : WordPart) (m : WordMode) (s : Source) : Except ScriptFault (List WordPart × Source) :=
      (readParts fuel m s).map fun r => (consPart p r.1, r.2)
    match s.next? with
    | none =>
      match m.openFault with
      | some message => s.fault ("Syntax error: " ++ message)
      | none => .ok ([], s)
    | some ('\\', after) =>
      match after.raw? with
      | none => onward (.shielded ['\\']) m after
      | some (c, after) =>
        if m.escapes c then
          onward (if m.isQuoted then .plain [c] else .shielded [c]) m after
        else onward (.plain ['\\', c]) m after
    | some ('$', after) => do
      let (p, after) ← readDollar fuel m after
      onward p m after
    | some ('\x60', after) => do
      let (text, after) ← backquoted m.isQuoted fuel after
      let first ← advance fuel ⟨text, s.line, 0⟩
      let (script, _) ← readBody fuel true first
      onward (.command script) m after
    | some (c, after) =>
      match m with
      | .word =>
        if isWordEnd c then .ok ([], s)
        else if c = '\'' then do
          let (text, after) ← singleQuoted fuel after
          onward (.shielded text) m after
        else if c = '"' then do
          let (parts, after) ← readParts fuel .quotes after
          onward (.double parts) m after
        else onward (.plain [c]) m after
      | .quotes => if c = '"' then .ok ([], after) else onward (.plain [c]) m after
      | .document => onward (.plain [c]) m after
      | .braces quoted inner =>
        if c = '\x7d' && !inner then .ok ([], after)
        else if c = '"' then
          if quoted then readParts fuel (.braces quoted !inner) after
          else do
            let (parts, after) ← readParts fuel .quotes after
            onward (.double parts) m after
        else if c = '\'' && !quoted then do
          let (text, after) ← singleQuoted fuel after
          onward (.shielded text) m after
        else onward (.plain [c]) m after
      | .arithmetic depth =>
        if c = '(' then onward (.plain [c]) (.arithmetic (depth + 1)) after
        else if c = ')' then
          match depth with
          | depth + 1 => onward (.plain [c]) (.arithmetic depth) after
          | 0 =>
            match after.next? with
            | some (')', after) => .ok ([], after)
            | _ => onward (.plain [c]) m after
        else onward (.plain [c]) m after

def readDollar : Nat → WordMode → Source → Except ScriptFault (WordPart × Source)
  | 0, _, s => s.fault "Syntax error: word too long"
  | fuel + 1, m, s =>
    match s.next? with
    | some ('(', after) =>
      match after.next? with
      | some ('(', inside) => do
        let (parts, after) ← readParts fuel (.arithmetic 0) inside
        return (.arithmetic parts, after)
      | _ => do
        let (script, c) ← readBody fuel true (← advance fuel after)
        if c.token.isOperator ")" then return (.command script, c.after)
        else unexpected c true (some "\")\"")
    | some ('\x7b', after) => do
      match braceHead after with
      | (.done part, after) => return (part, after)
      | (head, after) =>
        let quoted := match head with
          | .trim _ _ => false
          | _ => m.isQuoted
        let (word, after) ← readParts fuel (.braces quoted false) after
        return (head.finish word, after)
    | some (c, after) =>
      if isNameStart c then
        let (name, after) := s.take isNameChar
        .ok (.parameter name, after)
      else if isSpecial c then .ok (.parameter [c], after)
      else .ok (.plain ['$'], s)
    | none => .ok (.plain ['$'], s)

def advance : Nat → Source → Except ScriptFault Cursor
  | 0, s => s.fault "Syntax error: script too long"
  | fuel + 1, s =>
    let s := s.skipBlanks (s.rest.length + 1)
    match s.peek? with
    | none => .ok ⟨.ending, s⟩
    | some '\n' => .ok ⟨.newline, ((s.next?.map (·.2)).getD s)⟩
    | some c =>
      match ShellToken.sign? ShellToken.operators s, ShellToken.sign? ShellToken.redirects s with
      | some (o, after), _ => .ok ⟨.operator o, after⟩
      | none, some (o, after) => .ok ⟨.redirect none o, after⟩
      | none, none =>
        let descriptor := if c.isDigit then
            (s.next?.bind fun r => (ShellToken.sign? ShellToken.redirects r.2))
          else none
        match descriptor with
        | some (o, after) => .ok ⟨.redirect (some (c.toNat - 48)) o, after⟩
        | none => do
          let (w, after) ← readParts fuel .word s
          return ⟨.word w, after⟩

def skipLines : Nat → Cursor → Except ScriptFault Cursor
  | 0, c => .ok c
  | fuel + 1, c =>
    match c.token with
    | .newline => do skipLines fuel (← advance fuel c.after)
    | _ => .ok c

def expectKeyword : Nat → String → Cursor → Except ScriptFault Cursor
  | 0, _, c => unexpected c true none
  | fuel + 1, s, c =>
    if c.token.isKeyword s then advance fuel c.after
    else unexpected c true (some ("\"" ++ s ++ "\""))

def readRedirect : Nat → Option Nat → String → Source → Except ScriptFault (Redirect × Cursor)
  | 0, _, _, s => s.fault "Syntax error: script too long"
  | fuel + 1, descriptor, sign, s => do
    let c ← advance fuel s
    match c.token with
    | .word w =>
      if sign.startsWith "<<" then
        let (delimiter, quoted) := delimiterOf w
        let (text, after) := c.after.cutDocument (sign = "<<-") delimiter
        let body ← if quoted then pure [WordPart.plain text]
          else (readParts fuel .document ⟨text, after.line, 0⟩).map (·.1)
        return (.document (descriptor.getD 0) [.double body], ← advance fuel after)
      else return (redirectOf descriptor sign w, ← advance fuel c.after)
    | _ => unexpected c false none

def readRedirects : Nat → Cursor → Except ScriptFault (List Redirect × Cursor)
  | 0, c => .ok ([], c)
  | fuel + 1, c =>
    match c.token with
    | .redirect descriptor sign => do
      let (r, c) ← readRedirect fuel descriptor sign c.after
      let (rs, c) ← readRedirects fuel c
      return (r :: rs, c)
    | _ => .ok ([], c)

def readWords : Nat → Cursor → Except ScriptFault (List ShellWord × Cursor)
  | 0, c => .ok ([], c)
  | fuel + 1, c =>
    match c.token with
    | .word w => do
      let (ws, c) ← readWords fuel (← advance fuel c.after)
      return (w :: ws, c)
    | _ => .ok ([], c)

/-- A simple command, of which some parts have been read, or the definition of a function. -/
def readSimple : Nat → Nat → List (Octets × ShellWord) → List ShellWord → List Redirect → Cursor →
    Except ScriptFault (Script × Cursor)
  | 0, _, _, _, _, c => unexpected c false none
  | fuel + 1, place, assignments, words, redirects, c =>
    let finish : Except ScriptFault (Script × Cursor) :=
      .ok (.simple place assignments.reverse words.reverse redirects.reverse, c)
    match c.token with
    | .word w =>
      match words, assignment? w with
      | [], some a => do
        readSimple fuel place (a :: assignments) [] redirects (← advance fuel c.after)
      | words, _ => do
        readSimple fuel place assignments (w :: words) redirects (← advance fuel c.after)
    | .redirect descriptor sign => do
      let (r, c) ← readRedirect fuel descriptor sign c.after
      readSimple fuel place assignments words (r :: redirects) c
    | .operator "(" =>
      match assignments, words, redirects with
      | [], [w], [] => do
        let close ← advance fuel c.after
        if !close.token.isOperator ")" then unexpected close true (some "\")\"")
        else
          let name := (ShellToken.plainText? w).getD []
          if isName name && !specialBuiltins.contains (Octets.toText name) then
            let first ← skipLines fuel (← advance fuel close.after)
            let (body, c) ← readCommand fuel first
            return (.define name body, c)
          else syntaxFault close "Bad function name"
      | _, _, _ => finish
    | _ => finish

def readCommand : Nat → Cursor → Except ScriptFault (Script × Cursor)
  | 0, c => unexpected c true none
  | fuel + 1, c =>
    let place := c.after.line
    let redirected (body : Script) (c : Cursor) : Except ScriptFault (Script × Cursor) := do
      let (rs, c) ← readRedirects fuel c
      return (if rs.isEmpty then body else .redirected body place rs, c)
    match c.token with
    | .operator "(" => do
      let (body, c) ← readBody fuel false (← advance fuel c.after)
      if c.token.isOperator ")" then redirected (.subshell body) (← advance fuel c.after)
      else unexpected c true (some "\")\"")
    | .redirect _ _ => readSimple fuel place [] [] [] c
    | .word _ =>
      match c.token.keyword? with
      | some "\x7b" => do
        let (body, c) ← readBody fuel false (← advance fuel c.after)
        redirected body (← expectKeyword fuel "\x7d" c)
      | some "if" => do
        let (body, c) ← readBranch fuel (← advance fuel c.after)
        redirected body c
      | some "while" => do
        let (body, c) ← readLoop fuel false (← advance fuel c.after)
        redirected body c
      | some "until" => do
        let (body, c) ← readLoop fuel true (← advance fuel c.after)
        redirected body c
      | some "for" => do
        let (body, c) ← readEach fuel (← advance fuel c.after)
        redirected body c
      | some "case" => do
        let (body, c) ← readChoice fuel (← advance fuel c.after)
        redirected body c
      | some _ => unexpected c true none
      | none => readSimple fuel place [] [] [] c
    | _ => unexpected c true none

def readBranch : Nat → Cursor → Except ScriptFault (Script × Cursor)
  | 0, c => unexpected c true none
  | fuel + 1, c => do
    let (condition, c) ← readBody fuel false c
    let (yes, c) ← readBody fuel false (← expectKeyword fuel "then" c)
    if c.token.isKeyword "elif" then
      let (no, c) ← readBranch fuel (← advance fuel c.after)
      return (.branch condition yes (some no), c)
    else if c.token.isKeyword "else" then
      let (no, c) ← readBody fuel false (← advance fuel c.after)
      return (.branch condition yes (some no), ← expectKeyword fuel "fi" c)
    else return (.branch condition yes none, ← expectKeyword fuel "fi" c)

def readLoop : Nat → Bool → Cursor → Except ScriptFault (Script × Cursor)
  | 0, _, c => unexpected c true none
  | fuel + 1, negated, c => do
    let (condition, c) ← readBody fuel false c
    let (body, c) ← readBody fuel false (← expectKeyword fuel "do" c)
    return (.loop negated condition body, ← expectKeyword fuel "done" c)

def readEach : Nat → Cursor → Except ScriptFault (Script × Cursor)
  | 0, c => unexpected c true none
  | fuel + 1, c => do
    let name := match c.token with
      | .word w => (ShellToken.plainText? w).getD []
      | _ => []
    if !isName name then syntaxFault c "Bad for loop variable"
    else
      let first ← advance fuel c.after
      let c ← skipLines fuel first
      if c.token.isKeyword "in" then
        let (words, c) ← readWords fuel (← advance fuel c.after)
        match c.token with
        | .newline => readEachBody fuel name words c.after
        | .operator ";" => readEachBody fuel name words c.after
        | _ => unexpected c false none
      else if c.token.isOperator ";" then readEachBody fuel name [ShellWord.allArguments] c.after
      else
        let (body, c) ← readBody fuel false (← expectKeyword fuel "do" c)
        return (.each name [ShellWord.allArguments] body, ← expectKeyword fuel "done" c)

def readEachBody : Nat → Octets → List ShellWord → Source → Except ScriptFault (Script × Cursor)
  | 0, _, _, s => s.fault "Syntax error: script too long"
  | fuel + 1, name, words, s => do
    let c ← skipLines fuel (← advance fuel s)
    let (body, c) ← readBody fuel false (← expectKeyword fuel "do" c)
    return (.each name words body, ← expectKeyword fuel "done" c)

def readChoice : Nat → Cursor → Except ScriptFault (Script × Cursor)
  | 0, c => unexpected c true none
  | fuel + 1, c =>
    match c.token with
    | .word w => do
      let c ← skipLines fuel (← advance fuel c.after)
      let c ← expectKeyword fuel "in" c
      let (arms, c) ← readArms fuel c
      return (.choice w arms, c)
    | _ => unexpected c false (some "word")

def readArms : Nat → Cursor → Except ScriptFault (List (List ShellWord × Script) × Cursor)
  | 0, c => unexpected c true none
  | fuel + 1, c => do
    let c ← skipLines fuel c
    if c.token.isKeyword "esac" then return ([], ← advance fuel c.after)
    else
      let c ← if c.token.isOperator "(" then advance fuel c.after else pure c
      let (patterns, c) ← readPatterns fuel c
      if !c.token.isOperator ")" then unexpected c false (some "\")\"")
      else
        let (body, c) ← readBody fuel true (← advance fuel c.after)
        if c.token.isOperator ";;" then
          let (arms, c) ← readArms fuel (← advance fuel c.after)
          return ((patterns, body) :: arms, c)
        else
          let c ← skipLines fuel c
          if c.token.isKeyword "esac" then return ([(patterns, body)], ← advance fuel c.after)
          else unexpected c true (some "\";;\"")

def readPatterns : Nat → Cursor → Except ScriptFault (List ShellWord × Cursor)
  | 0, c => unexpected c true none
  | fuel + 1, c =>
    match c.token with
    | .word w => do
      let c ← advance fuel c.after
      if c.token.isOperator "|" then
        let (ws, c) ← readPatterns fuel (← advance fuel c.after)
        return (w :: ws, c)
      else return ([w], c)
    | _ => unexpected c false (some "\")\"")

def readPipes : Nat → Cursor → Except ScriptFault (List Script × Cursor)
  | 0, c => .ok ([], c)
  | fuel + 1, c =>
    if c.token.isOperator "|" then do
      let (a, c) ← readCommand fuel (← skipLines fuel (← advance fuel c.after))
      let (rest, c) ← readPipes fuel c
      return (a :: rest, c)
    else .ok ([], c)

def readPipeline : Nat → Cursor → Except ScriptFault (Script × Cursor)
  | 0, c => unexpected c true none
  | fuel + 1, c => do
    let negated := c.token.isKeyword "!"
    let c ← if negated then advance fuel c.after else pure c
    let (a, c) ← readCommand fuel c
    let (rest, c) ← readPipes fuel c
    let pipe := if rest.isEmpty then a else .pipe (a :: rest)
    return (if negated then .negation pipe else pipe, c)

/-- A list of pipelines of which the first ones are given; `&&` and `||` group to the left. -/
def readAndOr : Nat → Script → Cursor → Except ScriptFault (Script × Cursor)
  | 0, a, c => .ok (a, c)
  | fuel + 1, a, c =>
    if c.token.isOperator "&&" || c.token.isOperator "||" then do
      let (b, after) ← readPipeline fuel (← skipLines fuel (← advance fuel c.after))
      readAndOr fuel (if c.token.isOperator "&&" then .both a b else .either a b) after
    else .ok (a, c)

def readItem : Nat → Cursor → Except ScriptFault (Script × Cursor)
  | 0, c => unexpected c true none
  | fuel + 1, c => do
    let (a, c) ← readPipeline fuel c
    let (a, c) ← readAndOr fuel a c
    return (if c.token.isOperator "&" then .background a else a, c)

def readItems : Nat → Cursor → Except ScriptFault (List Script × Cursor)
  | 0, c => .ok ([], c)
  | fuel + 1, c => do
    let c ← skipLines fuel c
    if c.token.endsList then return ([], c)
    else
      let (a, c) ← readItem fuel c
      match c.token with
      | .operator o =>
        if o = ";" || o = "&" then
          let (rest, c) ← readItems fuel (← advance fuel c.after)
          return (a :: rest, c)
        else return ([a], c)
      | .newline =>
        let (rest, c) ← readItems fuel c
        return (a :: rest, c)
      | _ => return ([a], c)

/-- A list of commands inside another command, which may be empty only where that is said. -/
def readBody : Nat → Bool → Cursor → Except ScriptFault (Script × Cursor)
  | 0, _, c => unexpected c true none
  | fuel + 1, mayBeEmpty, c => do
    let c ← skipLines fuel c
    match c.token with
    | .ending => return (.nothing, c)
    | t =>
      if t.endsList && !mayBeEmpty then unexpected c true none
      else
        let (items, c) ← readItems fuel c
        match items with
        | [a] => return (a, c)
        | items => return (.sequence items, c)

def readLine : Nat → Cursor → Except ScriptFault (List Script × Source)
  | 0, c => unexpected c true none
  | fuel + 1, c =>
    match c.token with
    | .newline => .ok ([], c.after)
    | .ending => .ok ([], c.after)
    | _ => do
      let (a, c) ← readItem fuel c
      match c.token with
      | .operator o =>
        if o = ";" || o = "&" then
          let (rest, s) ← readLine fuel (← advance fuel c.after)
          return (a :: rest, s)
        else unexpected c true none
      | .newline => return ([a], c.after)
      | .ending => return ([a], c.after)
      | _ => unexpected c true none

end

def Source.fuel (s : Source) : Nat :=
  16 * s.rest.length + 64

def Source.nextLine (s : Source) : Except ScriptFault (Option (Script × Source)) :=
  if s.rest.isEmpty then .ok none
  else do
    let (items, after) ← readLine s.fuel (← advance s.fuel s)
    return some (.sequence items, after)

end JsonTemplate.Sandbox
