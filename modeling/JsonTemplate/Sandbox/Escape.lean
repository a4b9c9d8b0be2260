import JsonTemplate.Sandbox.Octets

/-!
# Escapes in the arguments of programs

A backslash and a letter stand for a control character, a backslash and octal digits for a byte,
and `\c` may end the output. Some programs also read hexadecimal numbers of bytes and of characters.
-/

namespace JsonTemplate.Sandbox

structure EscapeStyle where
  /-- Whether an octal escape may have a zero in front of its three digits. -/
  leadingZero : Bool
  /-- Whether `\x` is known. -/
  hexadecimal : Bool
  /-- Whether `\u`, `\U` and an escaped double quote are known too, and a number without digits is an
  error. -/
  strict : Bool := false
  /-- Whether `\c` ends the output. -/
  stops : Bool

structure Unescaped where
  output : Octets := []
  goesOn : Bool := true
  fault : Option Octets := none

def isOctal (c : Char) : Bool :=
  '0' ≤ c && c ≤ '7'

def octalValue (ds : Octets) : Nat :=
  ds.foldl (fun n c => 8 * n + (c.toNat - 48)) 0

def isHex (c : Char) : Bool :=
  c.isDigit || ('a' ≤ c && c ≤ 'f') || ('A' ≤ c && c ≤ 'F')

def hexDigitValue (c : Char) : Nat :=
  if c.isDigit then c.toNat - 48 else if c.toNat < 97 then c.toNat - 55 else c.toNat - 87

def hexNumber (ds : Octets) : Nat :=
  ds.foldl (fun n c => 16 * n + hexDigitValue c) 0

def takeUpTo (limit : Nat) (p : Char → Bool) (s : Octets) : Octets :=
  (s.take limit).takeWhile p

def controlByte? (c : Char) : Option Nat :=
  [('a', 7), ('b', 8), ('e', 27), ('f', 12), ('n', 10), ('r', 13), ('t', 9), ('v', 11),
    ('\\', 92)].lookup c

def unicodeDigits (letter : Char) : Nat :=
  if letter = 'u' then 4 else 8

inductive EscapeStep where
  | bytes (b rest : Octets)
  | stop
  | fault (message : Octets)

def missingDigits : EscapeStep :=
  .fault (Octets.ofText "missing hexadecimal number in escape")

def unicodeEscape (letter : Char) (s : Octets) : EscapeStep :=
  let ds := takeUpTo (unicodeDigits letter) isHex s
  let n := hexNumber ds
  let rest := s.drop ds.length
  if ds.length < unicodeDigits letter then missingDigits
  else if 0xD800 ≤ n && n ≤ 0xDFFF then
    .fault (Octets.ofText "invalid universal character name \\" ++ letter :: ds.map Char.toLower)
  else if 0x10FFFF < n then .bytes ('\\' :: letter :: ds) rest
  else .bytes (Octets.ofText (String.ofList [Char.ofNat n])) rest

def escape (style : EscapeStyle) (s : Octets) : EscapeStep :=
  match s with
  | [] => .bytes ['\\'] []
  | c :: r =>
    if c = 'c' && style.stops then .stop
    else
      match controlByte? c with
      | some n => .bytes [octet n] r
      | none =>
        if isOctal c then
          let s := if style.leadingZero && c = '0' then r else s
          let ds := takeUpTo 3 isOctal s
          .bytes [octet (octalValue ds)] (s.drop ds.length)
        else if style.hexadecimal && c = 'x' then
          let ds := takeUpTo 2 isHex r
          if !ds.isEmpty then .bytes [octet (hexNumber ds)] (r.drop ds.length)
          else if style.strict then missingDigits
          else .bytes ['\\', 'x'] r
        else if style.strict && (c = 'u' || c = 'U') then unicodeEscape c r
        else if style.strict && c = '"' then .bytes ['"'] r
        else .bytes ['\\', c] r

def unescapeFrom (style : EscapeStyle) : Nat → Octets → Unescaped
  | 0, _ => {}
  | fuel + 1, s =>
    match s with
    | [] => {}
    | '\\' :: r =>
      match escape style r with
      | .stop => { goesOn := false }
      | .fault message => { fault := some message, goesOn := false }
      | .bytes b r =>
        let u := unescapeFrom style fuel r
        { u with output := b ++ u.output }
    | c :: r =>
      let u := unescapeFrom style fuel r
      { u with output := c :: u.output }

def unescape (style : EscapeStyle) (s : Octets) : Unescaped :=
  unescapeFrom style (s.length + 1) s

end JsonTemplate.Sandbox
