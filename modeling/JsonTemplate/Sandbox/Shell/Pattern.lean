import JsonTemplate.Sandbox.Shell.Syntax
import JsonTemplate.Sandbox.Tool.Translate

/-!
# Patterns of the shell

A pattern is a list of matchers: single characters, any character, any run of characters and sets.
A quoted character stands for itself. A bracket that is never closed stands for itself as well.
-/

namespace JsonTemplate.Sandbox

abbrev PatternChar := Char × Bool

inductive SetMember where
  | range (first last : Char)
  | named (name : String)
  deriving DecidableEq

inductive Matcher where
  | exactly (c : Char)
  | anyOne
  | anyRun
  | oneOf (negated : Bool) (members : List SetMember)
  deriving DecidableEq

abbrev Pattern := List Matcher

namespace Pattern

def className? (s : List PatternChar) : Option (String × List PatternChar) :=
  Translate.classes.findSome? fun e =>
    let text := (":" ++ e.1 ++ ":]").toList
    if (s.take text.length).map (·.1) == text && (s.take text.length).all (!·.2) then
      some (e.1, s.drop text.length)
    else none

def unescaped? : List PatternChar → Option (Char × List PatternChar)
  | [] => none
  | ('\\', false) :: (c, _) :: s => some (c, s)
  | (c, _) :: s => some (c, s)

/-- The members of a set up to its closing bracket, which does not close it at the start, and what
follows. The fuel bounds their number. -/
def readMembers : Nat → Bool → List PatternChar → Option (List SetMember × List PatternChar)
  | 0, _, _ => none
  | fuel + 1, started, s =>
    let add (m : SetMember) (r : Option (List SetMember × List PatternChar)) :=
      r.map fun r => (m :: r.1, r.2)
    match s with
    | [] => none
    | (c, quoted) :: r =>
      if c = ']' && !quoted && started then some ([], r)
      else
        match if c = '[' && !quoted then className? r else none with
        | some (name, r) => add (.named name) (readMembers fuel true r)
        | none =>
          match unescaped? ((c, quoted) :: r) with
          | none => none
          | some (low, ('-', false) :: r) =>
            if r.head? = some (']', false) then
              add (.range low low) (readMembers fuel true (('-', false) :: r))
            else
              match unescaped? r with
              | none => none
              | some (high, r) => add (.range low high) (readMembers fuel true r)
          | some (low, r) => add (.range low low) (readMembers fuel true r)

def readSet (s : List PatternChar) : Option (Matcher × List PatternChar) :=
  let (negated, r) := match s with
    | ('!', false) :: r => (true, r)
    | r => (false, r)
  (readMembers (r.length + 1) false r).map fun m => (.oneOf negated m.1, m.2)

def readFrom : Nat → List PatternChar → Pattern
  | 0, _ => []
  | fuel + 1, s =>
    match s with
    | [] => []
    | ('\\', false) :: (c, _) :: r => .exactly c :: readFrom fuel r
    | (c, quoted) :: r =>
      if quoted then .exactly c :: readFrom fuel r
      else if c = '?' then .anyOne :: readFrom fuel r
      else if c = '*' then .anyRun :: readFrom fuel r
      else if c = '[' then
        match readSet r with
        | some (m, r) => m :: readFrom fuel r
        | none => .exactly c :: readFrom fuel r
      else .exactly c :: readFrom fuel r

def read (s : List PatternChar) : Pattern :=
  readFrom (s.length + 1) s

end Pattern

def SetMember.holds (c : Char) : SetMember → Bool
  | .range first last => first ≤ c && c ≤ last
  | .named name => ((Translate.classes.lookup name).getD fun _ => false) c

def Matcher.takes (c : Char) : Matcher → Bool
  | .exactly d => c = d
  | .anyOne => true
  | .anyRun => false
  | .oneOf negated members => members.any (·.holds c) != negated

namespace Pattern

def suffixes : Octets → List Octets
  | [] => [[]]
  | c :: s => (c :: s) :: suffixes s

def accepts : Pattern → Octets → Bool
  | [], s => s.isEmpty
  | .anyRun :: p, s => (suffixes s).any (accepts p)
  | _ :: _, [] => false
  | m :: p, c :: s => m.takes c && accepts p s

def trim (kind : Trim) (p : Pattern) (s : Octets) : Octets :=
  let lengths := List.range (s.length + 1)
  match kind with
  | .shortestPrefix => ((lengths.find? fun n => accepts p (s.take n)).map s.drop).getD s
  | .longestPrefix => ((lengths.reverse.find? fun n => accepts p (s.take n)).map s.drop).getD s
  | .shortestSuffix => ((lengths.reverse.find? fun n => accepts p (s.drop n)).map s.take).getD s
  | .longestSuffix => ((lengths.find? fun n => accepts p (s.drop n)).map s.take).getD s

end Pattern

end JsonTemplate.Sandbox
