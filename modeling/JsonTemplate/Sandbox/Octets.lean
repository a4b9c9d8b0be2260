import JsonTemplate.Text.Utf8

/-!
# Octets

Programs work on bytes. A byte is written as the character that has its number, so that scripts,
arguments and the contents of files can be read like texts.
-/

namespace JsonTemplate.Sandbox

/-- A text of characters below 256, each of which stands for a byte. -/
abbrev Octets := List Char

namespace Octets

def ofBytes (b : Text.Utf8.Bytes) : Octets :=
  b.map fun x => Char.ofNat x.toNat

def toBytes (s : Octets) : Text.Utf8.Bytes :=
  s.map fun c => UInt8.ofNat c.toNat

def ofText (s : String) : Octets :=
  ofBytes (Text.Utf8.encode s.toList)

/-- The text that some bytes are, or their characters one by one if they are none. -/
def toText (s : Octets) : String :=
  String.ofList ((Text.Utf8.decode (toBytes s)).toOption.getD s)

def notAfter (a b : Octets) : Bool :=
  !List.lex b a fun c d => decide (c.toNat < d.toNat)

end Octets

def octet (n : Nat) : Char :=
  Char.ofNat (n % 256)

def breakAt (c : Char) (s : Octets) : Octets × Option Octets :=
  match s.dropWhile (· != c) with
  | [] => (s, none)
  | _ :: r => (s.takeWhile (· != c), some r)

def decimal (n : Int) : Octets :=
  if n < 0 then '-' :: Nat.toDigits 10 n.natAbs else Nat.toDigits 10 n.natAbs

def isSpace (c : Char) : Bool :=
  c == ' ' || ('\t' ≤ c && c ≤ '\r')

/-- The decimal number that a text is, with spaces around it, in the range of 64 bits. -/
def wholeNumber? (s : Octets) : Option Int :=
  let (negative, r) := match s.dropWhile isSpace with
    | '-' :: r => (true, r)
    | '+' :: r => (false, r)
    | r => (false, r)
  let ds := r.takeWhile Char.isDigit
  let n := ds.foldl (fun (n : Int) c => 10 * n + (c.toNat - 48 : Nat)) 0
  let n := if negative then -n else n
  if ds.isEmpty || !(r.drop ds.length).all isSpace then none
  else if -9223372036854775808 ≤ n ∧ n ≤ 9223372036854775807 then some n
  else none

def asLine (pieces : List Octets) : Octets :=
  pieces.flatten ++ ['\n']

def padLeft (width : Nat) (s : Octets) : Octets :=
  List.replicate (width - s.length) ' ' ++ s

end JsonTemplate.Sandbox
