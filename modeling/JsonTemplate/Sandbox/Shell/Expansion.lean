import JsonTemplate.Sandbox.Shell.Fields

/-!
# Expansion of words

Parameters, substitutions and arithmetic are expanded in order, each with the shell that the ones
before it have left. How a command is run for its output is left open here.
-/

namespace JsonTemplate.Sandbox

abbrev Substitution := Script → Shell → Octets × Shell

structure ExpansionUse where
  quoted : Bool := false
  /-- Whether the word stands in the braces of a parameter, where literal text is split too. -/
  inner : Bool := false
  /-- Whether the result is split into fields. -/
  splits : Bool := false

def ExpansionUse.origin (u : ExpansionUse) : Origin :=
  if u.quoted then .quoted else .expanded

namespace Shell

def joiner (sh : Shell) : Octets :=
  match sh.value? "IFS".toList with
  | none => [' ']
  | some s => s.take 1

def argumentItems (sh : Shell) (u : ExpansionUse) (each : Bool) : List Item :=
  if u.splits && u.quoted && each then
    (sh.args.map fun a => .anchor :: Item.ofText .quoted a).intersperse [.cut] |>.flatten
  else if u.splits && !u.quoted && sh.joiner.isEmpty then
    (sh.args.map (Item.ofText .expanded)).intersperse [.cut] |>.flatten
  else Item.ofText u.origin (sh.joiner.intercalate sh.args)

def parameterText? (sh : Shell) (name : Octets) : Option Octets :=
  if name = ['@'] || name = ['*'] then
    if sh.args.isEmpty then none else some (sh.joiner.intercalate sh.args)
  else sh.parameter? name

/-- The value of a parameter; that there is none may be an error. -/
def parameterItems (sh : Shell) (u : ExpansionUse) (name : Octets) : List Item × Shell :=
  if name = ['@'] || name = ['*'] then (sh.argumentItems u (name = ['@']), sh)
  else
    match sh.parameter? name with
    | some s => (Item.ofText u.origin s, sh)
    | none =>
      if sh.hasOption 'u' then ([], sh.fail (name ++ Octets.ofText ": parameter not set"))
      else ([], sh)

def homeOf? (sh : Shell) (user : Octets) : Option Octets :=
  if user.isEmpty then sh.value? "HOME".toList
  else if user = "root".toList then some "/root".toList
  else none

def evaluate (sh : Shell) (text : Octets) : Octets × Shell :=
  match (Arith.parse text).bind fun a => a.eval ⟨fun name => (sh.value? name).getD [], []⟩ with
  | .ok (n, m) => (decimal n, m.assigned.reverse.foldl (fun sh e => sh.assign e.1 e.2) sh)
  | .error f => ([], sh.fail (f.message text))

end Shell

def splitBefore (p : Char → Bool) (s : Octets) : Octets × Octets :=
  (s.takeWhile (!p ·), s.dropWhile (!p ·))

/-- A name after a tilde, unless something that is no text goes on with it. -/
def tildeUser? (isEnd : Char → Bool) (s : Octets) (last : Bool) : Option (Octets × Octets) :=
  match s with
  | '~' :: r =>
    let (user, rest) := splitBefore isEnd r
    if (!rest.isEmpty || last) && user.all fun c => isNameChar c || c == '-' || c == '.' then
      some (user, rest)
    else none
  | _ => none

/-- The items of literal text at the start of a word, with a tilde in front of it replaced. -/
def tildeItems (sh : Shell) (isEnd : Char → Bool) (s : Octets) (last : Bool) :
    Option (List Item × Octets) := do
  let (user, rest) ← tildeUser? isEnd s last
  let home ← sh.homeOf? user
  return (Item.ofText .quoted home, rest)

/-- Literal text of an assignment, in which a tilde may also follow a colon; the fuel bounds the
number of colons. -/
def assignmentItems (sh : Shell) (start last : Bool) : Nat → Octets → List Item
  | 0, s => Item.ofText .literal s
  | fuel + 1, s =>
    let (front, s) := match if start then tildeItems sh (fun c => c == '/' || c == ':') s last
        else none with
      | some r => r
      | none => ([], s)
    match splitBefore (· == ':') s with
    | (a, ':' :: b) =>
      front ++ Item.ofText .literal (a ++ [':']) ++ assignmentItems sh true last fuel b
    | (a, _) => front ++ Item.ofText .literal a

/-- Words whose quotes vanish together with the arguments that they hold. -/
def isAllArguments : List WordPart → Bool
  | [.parameter ['@']] => true
  | _ => false

def isAssignable (name : Octets) : Bool :=
  isName name

def missingMessage (name message : Octets) (orEmpty : Bool) : Octets :=
  name ++ ": ".toList ++ if message.isEmpty then
    Octets.ofText (if orEmpty then "parameter not set or null" else "parameter not set")
  else message

mutual

def expandPart (run : Substitution) (u : ExpansionUse) : WordPart → Shell → List Item × Shell
  | .plain s, sh =>
    (Item.ofText (if u.quoted then .quoted else if u.inner then .expanded else .literal) s, sh)
  | .shielded s, sh => (.anchor :: Item.ofText .quoted s, sh)
  | .double parts, sh =>
    let (items, sh) := expandParts run { u with quoted := true } parts sh
    (if isAllArguments parts then items else .anchor :: items, sh)
  | .parameter name, sh => sh.parameterItems u name
  | .length name, sh =>
    match sh.parameterText? name with
    | some s => (Item.ofText u.origin (decimal s.length), sh)
    | none =>
      if sh.hasOption 'u' && name ≠ ['@'] && name ≠ ['*'] then
        ([], sh.fail (name ++ Octets.ofText ": parameter not set"))
      else (Item.ofText u.origin ['0'], sh)
  | .default name orEmpty kind word, sh =>
    let value := sh.parameterText? name
    let missing := value.isNone || (orEmpty && value == some [])
    let present : List Item × Shell :=
      if value.isNone then ([], sh) else sh.parameterItems u name
    match kind with
    | .use => if missing then expandParts run { u with inner := !u.quoted } word sh else present
    | .alternative =>
      if missing then ([], sh) else expandParts run { u with inner := !u.quoted } word sh
    | .assign =>
      if !missing then present
      else if !isAssignable name then ([], sh.fail (name ++ Octets.ofText ": bad variable name"))
      else
        let (items, sh) := expandParts run { quoted := u.quoted } word sh
        let value := Item.text items
        if sh.isNormal then (Item.ofText u.origin value, sh.assign name value) else ([], sh)
    | .complain =>
      if !missing then present
      else
        let (items, sh) := expandParts run { quoted := u.quoted } word sh
        if sh.isNormal then ([], sh.fail (missingMessage name (Item.text items) orEmpty))
        else ([], sh)
  | .trim name kind word, sh =>
    match sh.parameterText? name with
    | none =>
      if sh.hasOption 'u' && name ≠ ['@'] && name ≠ ['*'] then
        ([], sh.fail (name ++ Octets.ofText ": parameter not set"))
      else ([], sh)
    | some s =>
      let (items, sh) := expandParts run {} word sh
      (Item.ofText u.origin (Pattern.trim kind (Pattern.read (Item.patternChars items)) s), sh)
  | .malformed, sh => ([], sh.fail (Octets.ofText "Bad substitution"))
  | .command script, sh =>
    let (s, sh) := run script sh
    (Item.ofText u.origin s, sh)
  | .arithmetic parts, sh =>
    let (items, sh) := expandParts run { quoted := true } parts sh
    if sh.isNormal then
      let (s, sh) := sh.evaluate (Item.text items)
      (Item.ofText u.origin s, sh)
    else ([], sh)

def expandParts (run : Substitution) (u : ExpansionUse) :
    List WordPart → Shell → List Item × Shell
  | [], sh => ([], sh)
  | part :: parts, sh =>
    if !sh.isNormal then ([], sh)
    else
      let (first, sh) := expandPart run u part sh
      let (rest, sh) := expandParts run u parts sh
      (first ++ rest, sh)

end

def expandItems (run : Substitution) (u : ExpansionUse) (w : ShellWord) (sh : Shell) :
    List Item × Shell :=
  match w with
  | .plain s :: parts =>
    match tildeItems sh (· == '/') s parts.isEmpty with
    | some (front, rest) =>
      let (items, sh) := expandParts run u (.plain rest :: parts) sh
      (front ++ items, sh)
    | none => expandParts run u w sh
  | w => expandParts run u w sh

def expandText (run : Substitution) (w : ShellWord) (sh : Shell) : Octets × Shell :=
  let (items, sh) := expandItems run {} w sh
  (Item.text items, sh)

def expandValueFrom (run : Substitution) (start : Bool) : ShellWord → Shell → List Item × Shell
  | [], sh => ([], sh)
  | part :: parts, sh =>
    if !sh.isNormal then ([], sh)
    else
      let (first, sh) := match part with
        | .plain s => (assignmentItems sh start parts.isEmpty (s.length + 1) s, sh)
        | part => expandPart run {} part sh
      let (rest, sh) := expandValueFrom run (part matches .plain _ && (Item.text first).getLast? == some ':')
        parts sh
      (first ++ rest, sh)

def expandValue (run : Substitution) (w : ShellWord) (sh : Shell) : Octets × Shell :=
  let (items, sh) := expandValueFrom run true w sh
  (Item.text items, sh)

def expandPattern (run : Substitution) (w : ShellWord) (sh : Shell) : Pattern × Shell :=
  let (items, sh) := expandItems run {} w sh
  (Pattern.read (Item.patternChars items), sh)

def expandWord (run : Substitution) (w : ShellWord) (sh : Shell) : List Octets × Shell :=
  let (items, sh) := expandItems run { splits := true } w sh
  if sh.isNormal then
    ((Item.fields sh.separators none false items).flatMap (expandField sh), sh)
  else ([], sh)

def expandWords (run : Substitution) : List ShellWord → Shell → List Octets × Shell
  | [], sh => ([], sh)
  | w :: ws, sh =>
    let (first, sh) := expandWord run w sh
    let (rest, sh) := expandWords run ws sh
    (first ++ rest, sh)

end JsonTemplate.Sandbox
