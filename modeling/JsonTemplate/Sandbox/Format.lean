import JsonTemplate.Sandbox.Real

/-!
# Formatted output

A format is used again as long as arguments are left. Directives write texts, characters, integers
and real numbers; a missing argument is an empty text. A bad number is reported and counts as far
as it can be read, while a bad directive ends the output.
-/

namespace JsonTemplate.Sandbox

inductive Emission where
  | output (s : Octets)
  | complaint (s : Octets)
  deriving DecidableEq

structure Directive where
  left : Bool := false
  zero : Bool := false
  plus : Bool := false
  space : Bool := false
  alternative : Bool := false
  grouped : Bool := false
  width : Nat := 0
  precision : Option Nat := none
  /-- The directive as it is written, up to its letter. -/
  text : Octets := []

structure FormatStyle where
  escapes : EscapeStyle
  /-- The escapes in the argument of `%b`. -/
  argumentEscapes : EscapeStyle
  binary : BinaryFormat
  /-- Whether letters for the size of a number may stand before the letter of a directive, and
  flags that make no sense there are errors. -/
  strict : Bool
  /-- The status after an error that ends the output. -/
  errorStatus : Nat
  noNumber : Octets → Octets
  noWholeNumber : Octets → Octets
  outOfRange : Octets → Octets
  noDirective : Octets → Octets

structure Formatted where
  emissions : List Emission := []
  args : List Octets := []
  failed : Bool := false
  /-- The status that ends the output at once. -/
  ended : Option Nat := none

namespace Directive

def withFlag? (d : Directive) (c : Char) : Option Directive :=
  if c = '-' then some { d with left := true }
  else if c = '0' then some { d with zero := true }
  else if c = '+' then some { d with plus := true }
  else if c = ' ' then some { d with space := true }
  else if c = '#' then some { d with alternative := true }
  else none

/-- Reads flags; grouping and its like are flags of the strict style only. -/
def readFlags (strict : Bool) (d : Directive) : Octets → Directive × Octets
  | [] => (d, [])
  | c :: s =>
    match d.withFlag? c with
    | some d => readFlags strict { d with text := d.text ++ [c] } s
    | none =>
      if strict && (c = '\'' || c = 'I') then
        readFlags strict { d with grouped := true, text := d.text ++ [c] } s
      else (d, c :: s)

def padded (d : Directive) (s : Octets) : Octets :=
  if d.left then s ++ List.replicate (d.width - s.length) ' ' else padLeft d.width s

/-- A sign or mark and digits, with zeros between them if they fill the width. -/
def withSign (d : Directive) (zeros : Bool) (sign digits : Octets) : Octets :=
  let fill := if zeros && d.zero && !d.left then d.width - (sign.length + digits.length) else 0
  d.padded (sign ++ List.replicate fill '0' ++ digits)

def sign (d : Directive) (negative : Bool) : Octets :=
  if negative then ['-'] else if d.plus then ['+'] else if d.space then [' '] else []

def digits (d : Directive) (base n : Nat) : Octets :=
  let ds := if n = 0 && d.precision = some 0 then [] else Nat.toDigits base n
  List.replicate (d.precision.getD 1 - ds.length) '0' ++ ds

def signed (d : Directive) (n : Int) : Octets :=
  d.withSign d.precision.isNone (d.sign (n < 0)) (d.digits 10 n.natAbs)

def octal (d : Directive) (n : Nat) : Octets :=
  let ds := d.digits 8 n
  d.withSign d.precision.isNone [] (if d.alternative && ds.head? ≠ some '0' then '0' :: ds else ds)

def hexadecimal (d : Directive) (upper : Bool) (n : Nat) : Octets :=
  let mark := if d.alternative && n ≠ 0 then ['0', 'x'] else []
  let s := d.withSign d.precision.isNone mark (d.digits 16 n)
  if upper then s.map Char.toUpper else s

def real (d : Directive) (letter : Char) (x : Real) : Octets :=
  let s := d.withSign x.isFinite (d.sign x.isNegative)
    (x.magnitudeText letter.toLower d.precision d.alternative)
  if letter.isUpper then s.map Char.toUpper else s

def allows (d : Directive) (c : Char) : Bool :=
  !(d.grouped && "acoesxAEX".toList.contains c) &&
    !(d.alternative && "cdisu".toList.contains c) &&
    !(d.zero && "cs".toList.contains c) &&
    !(d.precision.isSome && c = 'c')

end Directive

structure ReadInteger where
  value : Int
  rest : Octets
  outOfRange : Bool := false

/-- The digits of an integer without a sign; a leading zero asks for another base. -/
def readNatural (s : Octets) : Option (Nat × Octets) :=
  let take (base : Nat) (p : Char → Bool) (s : Octets) : Option (Nat × Octets) :=
    let ds := s.takeWhile p
    if ds.isEmpty then none else some (Real.numberOf base ds, s.drop ds.length)
  match s with
  | '0' :: x :: r =>
    if x.toLower = 'x' && r.head?.any isHex then take 16 isHex r else take 8 isOctal s
  | s => if s.head? = some '0' then take 8 isOctal s else take 10 Char.isDigit s

/-- The integer at the start of a text, kept in the range from `low` to `high`. -/
def readInteger (low high : Int) (s : Octets) : ReadInteger :=
  let (negative, r) := match s.dropWhile Real.isBlank with
    | '-' :: r => (true, r)
    | '+' :: r => (false, r)
    | r => (false, r)
  match readNatural r with
  | none => ⟨0, s, false⟩
  | some (n, rest) =>
    let v : Int := if negative then -n else n
    if v < low then ⟨low, rest, true⟩ else if high < v then ⟨high, rest, true⟩ else ⟨v, rest, false⟩

def greatestSigned : Int := 9223372036854775807

def greatestUnsigned : Int := 18446744073709551615

def integerOf (signed : Bool) (s : Octets) : ReadInteger :=
  if signed then readInteger (-greatestSigned - 1) greatestSigned s
  else
    let r := readInteger (-greatestUnsigned) greatestUnsigned s
    if r.outOfRange then { r with value := greatestUnsigned }
    else { r with value := r.value % (greatestUnsigned + 1) }

namespace FormatStyle

def complaints (style : FormatStyle) (arg rest : Octets) (outOfRange : Bool) : List Emission :=
  if outOfRange then [.complaint (style.outOfRange arg)]
  else if rest.isEmpty then []
  else if rest == arg then [.complaint (style.noNumber arg)]
  else [.complaint (style.noWholeNumber arg)]

def characterCode (style : FormatStyle) (s : Octets) : Option Nat :=
  match s with
  | q :: r =>
    if q = '\'' || q = '"' then
      if style.strict then (Octets.toText r).toList.head?.map Char.toNat
      else some ((r.head?.map Char.toNat).getD 0)
    else none
  | [] => none

def afterCharacter (style : FormatStyle) (s : Octets) : Octets :=
  if style.strict then Octets.ofText (String.ofList ((Octets.toText s.tail).toList.drop 1)) else []

def integer (style : FormatStyle) (signed : Bool) (arg : Octets) : Int × List Emission :=
  match style.characterCode arg with
  | some n =>
    let rest := style.afterCharacter arg
    (n, if rest.isEmpty then []
      else [.complaint (Octets.ofText "warning: " ++ rest ++ Octets.ofText
        ": character(s) following character constant have been ignored")])
  | none =>
    let r := integerOf signed arg
    (r.value, style.complaints arg r.rest r.outOfRange)

def real (style : FormatStyle) (arg : Octets) : Real × List Emission :=
  match style.characterCode arg with
  | some n => (.ofQuotient style.binary false n 1, [])
  | none =>
    match Real.read style.binary arg with
    | some (x, rest) => (x, style.complaints arg rest (!x.isFinite && arg.any Char.isDigit))
    | none => (.finite false 0 0, style.complaints arg arg false)

def count (style : FormatStyle) (args : List Octets) : Int × List Emission × List Octets :=
  match args with
  | [] => (0, [], [])
  | a :: args =>
    let (n, complaints) := style.integer true a
    (n, complaints, args)

def invalid (style : FormatStyle) (d : Directive) (args : List Octets) : Formatted :=
  ⟨[.complaint (style.noDirective d.text)], args, true, some style.errorStatus⟩

def isFailure : Emission → Bool
  | .complaint s => !("warning".toList.isPrefixOf s)
  | .output _ => false

def emitted (s : Octets) (complaints : List Emission) (args : List Octets) : Formatted :=
  ⟨complaints ++ [.output s], args, complaints.any isFailure, none⟩

def unescaped (style : FormatStyle) (d : Directive) (arg : Octets) (args : List Octets) :
    Formatted :=
  let u := unescape style.argumentEscapes arg
  let kept := u.output.take (d.precision.getD u.output.length)
  match u.fault with
  | some message =>
    ⟨[.output kept, .complaint message], args, true, some style.errorStatus⟩
  | none => ⟨[.output (d.padded kept)], args, false, if u.goesOn then none else some 0⟩

def convert (style : FormatStyle) (d : Directive) (c : Char) (args : List Octets) : Formatted :=
  let arg := args.head?.getD []
  let rest := args.tail
  if c = 'b' && (!style.strict || d.text = ['%', 'b']) then style.unescaped d arg rest
  else if style.strict && !d.allows c then style.invalid d args
  else if c = 's' then
    emitted (d.padded (arg.take (d.precision.getD arg.length))) [] rest
  else if c = 'c' then emitted (d.padded [arg.head?.getD (octet 0)]) [] rest
  else if c = 'd' || c = 'i' then
    let (n, complaints) := style.integer true arg
    emitted (d.signed n) complaints rest
  else if "ouxX".toList.contains c then
    let (n, complaints) := style.integer false arg
    let n := n.toNat
    let s := if c = 'o' then d.octal n
      else if c = 'u' then d.signed n
      else d.hexadecimal (c = 'X') n
    emitted s complaints rest
  else if "eEfFgG".toList.contains c then
    let (x, complaints) := style.real arg
    emitted (d.real c x) complaints rest
  else style.invalid d args

def readWidth (style : FormatStyle) (d : Directive) (s : Octets) (args : List Octets) :
    Directive × Octets × List Octets × List Emission :=
  match s with
  | '*' :: s =>
    let (n, complaints, args) := style.count args
    ({ d with width := n.natAbs, left := d.left || n < 0, text := d.text ++ ['*'] }, s, args,
      complaints)
  | s =>
    let ds := s.takeWhile Char.isDigit
    ({ d with width := Real.numberOf 10 ds, text := d.text ++ ds }, s.drop ds.length, args, [])

def readPrecision (style : FormatStyle) (d : Directive) (s : Octets) (args : List Octets) :
    Directive × Octets × List Octets × List Emission :=
  match s with
  | '.' :: '*' :: s =>
    let (n, complaints, args) := style.count args
    ({ d with precision := if n < 0 then none else some n.toNat, text := d.text ++ ['.', '*'] }, s,
      args, complaints)
  | '.' :: s =>
    let ds := s.takeWhile Char.isDigit
    ({ d with precision := some (Real.numberOf 10 ds), text := d.text ++ '.' :: ds },
      s.drop ds.length, args, [])
  | s => (d, s, args, [])

/-- Writes one directive after its percent sign; gives what has been written and the rest of the
format. -/
def directive (style : FormatStyle) (s : Octets) (args : List Octets) : Formatted × Octets :=
  let (d, s) := Directive.readFlags style.strict { text := ['%'] } s
  let (d, s, args, first) := style.readWidth d s args
  let (d, s, args, second) := style.readPrecision d s args
  let sizes := if style.strict then s.takeWhile "lLhjtz".toList.contains else []
  let s := s.drop sizes.length
  let d := { d with text := d.text ++ sizes }
  match s with
  | [] =>
    if style.strict then (style.invalid d args, [])
    else
      (⟨[.complaint (Octets.ofText "missing format character")], args, true,
        some style.errorStatus⟩, [])
  | c :: s =>
    let f := style.convert { d with text := d.text ++ [c] } c args
    let complaints := first ++ second
    ({ f with
        emissions := complaints ++ f.emissions
        failed := f.failed || complaints.any isFailure }, s)

def once (style : FormatStyle) : Nat → Octets → List Octets → Formatted
  | 0, _, args => { args := args }
  | fuel + 1, s, args =>
    let after (first : Formatted) (s : Octets) : Formatted :=
      if first.ended.isSome then first
      else
        let f := once style fuel s first.args
        { f with emissions := first.emissions ++ f.emissions, failed := first.failed || f.failed }
    match s with
    | [] => { args := args }
    | '%' :: '%' :: r => after (emitted ['%'] [] args) r
    | '%' :: r =>
      let (f, r) := style.directive r args
      after f r
    | '\\' :: r =>
      match escape style.escapes r with
      | .stop => ⟨[], args, false, some 0⟩
      | .fault message => ⟨[.complaint message], args, true, some style.errorStatus⟩
      | .bytes b r => after (emitted b [] args) r
    | c :: r => after (emitted [c] [] args) r

/-- Writes a format until no arguments are left; the fuel bounds how often. -/
def all (style : FormatStyle) : Nat → Octets → List Octets → Formatted
  | 0, _, args => { args := args }
  | fuel + 1, s, args =>
    let f := style.once (s.length + 1) s args
    if f.ended.isNone && !f.args.isEmpty && f.args.length < args.length then
      let more := style.all fuel s f.args
      { more with
        emissions := f.emissions ++ more.emissions
        failed := f.failed || more.failed }
    else f

def write (style : FormatStyle) (format : Octets) (args : List Octets) : Formatted :=
  style.all (args.length + 1) format args

end FormatStyle

end JsonTemplate.Sandbox
