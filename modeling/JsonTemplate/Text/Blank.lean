/-!
# Blank characters and trimming

Trimming removes every character that Unicode counts as white space, and the four separators
U+001C to U+001F. `trimStart` and `trimEnd` only ever drop blanks: what they drop together with
what they leave is the text they were given.
-/

namespace JsonTemplate.Text

def isBlank (c : Char) : Bool :=
  let n := c.toNat
  (9 ≤ n && n ≤ 13) || (28 ≤ n && n ≤ 32) || n == 0x85 || n == 0xA0 || n == 0x1680 ||
    (0x2000 ≤ n && n ≤ 0x200A) || n == 0x2028 || n == 0x2029 || n == 0x202F || n == 0x205F ||
    n == 0x3000

def isSpacing (c : Char) : Bool :=
  c == ' ' || c == '\t'

def dropWhileEnd (p : Char → Bool) (s : List Char) : List Char :=
  (s.reverse.dropWhile p).reverse

def trimEnd (s : List Char) : List Char :=
  dropWhileEnd isBlank s

def trimStart (s : List Char) : List Char :=
  s.dropWhile isBlank

def trim (s : List Char) : List Char :=
  trimEnd (trimStart s)

def trimSpacing (s : List Char) : List Char :=
  dropWhileEnd isSpacing (s.dropWhile isSpacing)

/-- The pieces of a text between the characters equal to `c`; a text without `c` is one piece. -/
def splitOn (c : Char) : List Char → List (List Char)
  | [] => [[]]
  | d :: s =>
    if d = c then [] :: splitOn c s
    else
      match splitOn c s with
      | [] => [[d]]
      | piece :: pieces => (d :: piece) :: pieces

theorem splitOn_ne_nil (c : Char) (s : List Char) : splitOn c s ≠ [] := by
  cases s with
  | nil => simp [splitOn]
  | cons d s =>
    simp only [splitOn]
    split
    · simp
    · split <;> simp

end JsonTemplate.Text
