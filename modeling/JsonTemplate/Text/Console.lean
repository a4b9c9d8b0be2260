import JsonTemplate.Text.Blank
import JsonTemplate.Text.Emoji

/-!
# Messages on a console

`shown` is a message as a console prints it. The console styles text by tags in brackets. A message
has no tags of its own, so what looks like one is printed as it is; in front of any other bracket a
backslash disappears, and a single backslash at the end appears twice. A name of an emoji between
colons becomes the emoji, unless a tag comes between, and characters that would move the cursor or
ring the bell are dropped.
-/

namespace JsonTemplate.Text.Console

def isDropped (c : Char) : Bool :=
  [7, 8, 11, 12, 13].contains c.toNat

def startsTag (c : Char) : Bool :=
  c.isLower || c == '#' || c == '/' || c == '@'

def tagLength? (s : List Char) : Option Nat :=
  let inside := s.takeWhile fun c => c != '[' && c != ']'
  if inside.head?.any startsTag && (s.drop inside.length).head? == some ']' then
    some (inside.length + 1)
  else none

/-- The pieces of a message: what stands before a tag, the backslashes in front of it, the tag, and
so on. What has been read of the current piece is given in reverse. -/
def pieces (read : List Char) (s : List Char) : List (List Char) :=
  match s with
  | [] => [read.reverse]
  | c :: s =>
    match if c = '[' then tagLength? s else none with
    | none => pieces (c :: read) s
    | some n =>
      (read.dropWhile (· == '\\')).reverse :: read.takeWhile (· == '\\') :: (c :: s.take n) ::
        pieces [] (s.drop n)
termination_by s.length

def unguarded : List Char → List Char
  | '\\' :: '[' :: s => '[' :: unguarded s
  | c :: s => c :: unguarded s
  | [] => []

def emojiName? (s : List Char) : Option (List Char × List Char) :=
  let name := s.takeWhile fun c => c != ':' && !isBlank c
  match s.drop name.length with
  | ':' :: rest => some (name, rest)
  | _ => none

theorem length_lt_of_emojiName? {s name rest : List Char} (h : emojiName? s = some (name, rest)) :
    rest.length < s.length := by
  unfold emojiName? at h
  dsimp only at h
  split at h
  · rename_i r hr
    obtain ⟨-, rfl⟩ := Prod.mk.inj (Option.some.inj h)
    have := congrArg List.length hr
    simp only [List.length_drop, List.length_cons] at this
    omega
  · simp at h

def looks : List (String × Char) :=
  [("-emoji", '\uFE0F'), ("-text", '\uFE0E')]

def emoji? (name : List Char) : Option String :=
  let name := String.ofList (name.map Emoji.lowered)
  match looks.findSome? fun l => (Emoji.beforeEnding? l.1 name).map (·, l.2) with
  | some (base, look) => (Emoji.named? base).map (·.push look)
  | none => Emoji.named? name

def withEmoji (s : List Char) : List Char :=
  match s with
  | [] => []
  | c :: s =>
    if c = ':' then
      match h : emojiName? s with
      | none => c :: withEmoji s
      | some (name, rest) =>
        have := length_lt_of_emojiName? h
        match emoji? name with
        | some e => e.toList ++ withEmoji rest
        | none => c :: name ++ ':' :: withEmoji rest
    else c :: withEmoji s
termination_by s.length

/-- A message with a single backslash at its end written twice. -/
def withLastBackslash (s : List Char) : List Char :=
  match s.reverse with
  | ['\\'] => s ++ ['\\']
  | '\\' :: c :: _ => if c = '\\' then s else s ++ ['\\']
  | _ => s

def shown (message : String) : String :=
  String.ofList
    (((pieces [] (withLastBackslash message.toList)).flatMap
      fun piece => withEmoji (unguarded piece)).filter (!isDropped ·))

end JsonTemplate.Text.Console
