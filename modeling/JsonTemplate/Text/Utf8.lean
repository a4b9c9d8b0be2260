/-!
# Bytes as text

`decode` reads UTF-8 and names the first byte sequence that is not valid; `encode` writes it.
Overlong forms, surrogates and values above U+10FFFF are refused at the byte that shows them.
-/

namespace JsonTemplate.Text.Utf8

abbrev Bytes := List UInt8

inductive Reason where
  | invalidStart
  | invalidContinuation
  | unexpectedEnd
  deriving DecidableEq, Repr

/-- The bytes `first`, … (`length` of them) at `position` are not part of any character. -/
structure Fault where
  reason : Reason
  position : Nat
  length : Nat
  first : UInt8
  deriving DecidableEq, Repr

def isContinuation (b : UInt8) : Bool :=
  0x80 ≤ b && b < 0xC0

/-- The second byte decides whether a sequence of three bytes is overlong or a surrogate. -/
def isSecondOfThree (b c : UInt8) : Bool :=
  isContinuation c && !(b == 0xE0 && c < 0xA0) && !(b == 0xED && 0xA0 ≤ c)

/-- The second byte decides whether a sequence of four bytes is overlong or too large. -/
def isSecondOfFour (b c : UInt8) : Bool :=
  isContinuation c && !(b == 0xF0 && c < 0x90) && !(b == 0xF4 && 0x90 ≤ c)

def low (b : UInt8) : Nat :=
  b.toNat % 64

def decodeAt (position : Nat) : Bytes → Except Fault (List Char)
  | [] => .ok []
  | b :: s =>
    if b < 0x80 then
      (decodeAt (position + 1) s).map (Char.ofNat b.toNat :: ·)
    else if b < 0xC2 || 0xF5 ≤ b then
      .error ⟨.invalidStart, position, 1, b⟩
    else
      match s with
      | [] => .error ⟨.unexpectedEnd, position, 1, b⟩
      | c :: s =>
        if b < 0xE0 then
          if isContinuation c then
            (decodeAt (position + 2) s).map (Char.ofNat ((b.toNat % 32) * 64 + low c) :: ·)
          else .error ⟨.invalidContinuation, position, 1, b⟩
        else if b < 0xF0 then
          if !isSecondOfThree b c then .error ⟨.invalidContinuation, position, 1, b⟩
          else
            match s with
            | [] => .error ⟨.unexpectedEnd, position, 2, b⟩
            | d :: s =>
              if isContinuation d then
                (decodeAt (position + 3) s).map
                  (Char.ofNat (((b.toNat % 16) * 64 + low c) * 64 + low d) :: ·)
              else .error ⟨.invalidContinuation, position, 2, b⟩
        else if !isSecondOfFour b c then .error ⟨.invalidContinuation, position, 1, b⟩
        else
          match s with
          | [] => .error ⟨.unexpectedEnd, position, 2, b⟩
          | d :: s =>
            if !isContinuation d then .error ⟨.invalidContinuation, position, 2, b⟩
            else
              match s with
              | [] => .error ⟨.unexpectedEnd, position, 3, b⟩
              | e :: s =>
                if isContinuation e then
                  (decodeAt (position + 4) s).map
                    (Char.ofNat ((((b.toNat % 8) * 64 + low c) * 64 + low d) * 64 + low e) :: ·)
                else .error ⟨.invalidContinuation, position, 3, b⟩

def decode (s : Bytes) : Except Fault (List Char) :=
  decodeAt 0 s

def encode (s : List Char) : Bytes :=
  s.flatMap String.utf8EncodeChar

end JsonTemplate.Text.Utf8
