import JsonTemplate.Proofs.Number.Digits

/-!
# Reading numbers

A number is read up to the first character that cannot go on with it. `NumberText` is a number as
it is written, without its sign: the digits before the decimal point, those after it, and the
exponent.
-/

namespace JsonTemplate

open Text

namespace Json

def isNumeric (c : Char) : Bool :=
  isDecimal c || c == '.' || c == 'e' || c == 'E'

structure NumberText where
  whole : List Char
  fraction : List Char := []
  exponent : Option Int := none

namespace NumberText

def fractionChars (t : NumberText) : List Char :=
  if t.fraction = [] then [] else '.' :: t.fraction

/-- An exponent is filled up with zeros to a number of digits. -/
def exponentChars (width : Nat) (t : NumberText) : List Char :=
  match t.exponent with
  | none => []
  | some e => 'e' :: Double.exponentChars width e

def chars (width : Nat) (t : NumberText) : List Char :=
  t.whole ++ (t.fractionChars ++ t.exponentChars width)

def rank (t : NumberText) : Nat :=
  Double.rankOfDecimal (decimalValue (t.whole ++ t.fraction))
    (t.exponent.getD 0 - t.fraction.length)

structure IsProper (t : NumberText) : Prop where
  whole_ne_nil : t.whole ≠ []
  whole_digits : Within isDecimal t.whole
  /-- There is no zero in front of other digits. -/
  lead : t.whole.head? = some '0' → t.whole = ['0']
  fraction_digits : Within isDecimal t.fraction

end NumberText

theorem ne_of_isDecimal {c d : Char} (hc : isDecimal c = true) (hd : isDecimal d = false) :
    c ≠ d := by
  rintro rfl
  rw [hc] at hd
  cases hd

theorem readWhole_append {w r : List Char} (hne : w ≠ []) (hw : Within isDecimal w)
    (hlead : w.head? = some '0' → w = ['0']) (hr : StartsOutside isDecimal r) :
    readWhole (w ++ r) = some (w, r) := by
  cases w with
  | nil => exact absurd rfl hne
  | cons c w =>
    by_cases hc : c = '0'
    · subst hc
      obtain rfl : w = [] := List.cons.inj (hlead rfl) |>.2
      rfl
    · have hdigit : isDecimal c = true := hw c List.mem_cons_self
      have htake := takeWhile_append hw hr
      have hdrop := dropWhile_append hw hr
      rw [List.cons_append] at htake hdrop ⊢
      unfold readWhole
      split
      · next heq => exact absurd (List.cons.inj heq).1 hc
      · next heq =>
        obtain ⟨rfl, -⟩ := List.cons.inj heq
        rw [if_pos hdigit, htake, hdrop]
      · next heq => cases heq

theorem readFraction_append {f r : List Char} (hne : f ≠ []) (hf : Within isDecimal f)
    (hr : StartsOutside isDecimal r) : readFraction ('.' :: (f ++ r)) = (f, r) := by
  unfold readFraction
  simp only [takeWhile_append hf hr, dropWhile_append hf hr]
  rw [if_neg]
  rwa [List.isEmpty_iff]

theorem readFraction_of_head? {r : List Char} (h : r.head? ≠ some '.') :
    readFraction r = ([], r) := by
  unfold readFraction
  split
  · exact absurd rfl h
  · rfl

theorem readExponent_of_head? {r : List Char} (he : r.head? ≠ some 'e') (hE : r.head? ≠ some 'E') :
    readExponent r = (none, r) := by
  cases r with
  | nil => rfl
  | cons c r =>
    have hc : ¬ (c = 'e' ∨ c = 'E') := by
      rintro (rfl | rfl)
      · exact he rfl
      · exact hE rfl
    unfold readExponent
    simp only [Bool.or_eq_true, decide_eq_true_eq]
    rw [if_neg hc]

/-- An exponent without its mark is a sign and the digits of its absolute value. -/
theorem exponentChars_eq (width : Nat) (e : Int) : ∃ ds, ds ≠ [] ∧ Within isDecimal ds ∧
    decimalValue ds = e.natAbs ∧
    Double.exponentChars width e = (if e < 0 then '-' else '+') :: ds := by
  refine ⟨_, ?_, ?_, ?_, rfl⟩
  · exact List.append_ne_nil_of_right_ne_nil _ Nat.toDigits_ne_nil
  · exact (within_isDecimal_zeros _).append (within_isDecimal_toDigits _)
  · rw [decimalValue_append, decimalValue_zeros, Nat.zero_mul, Nat.zero_add, decimalValue_toDigits]

theorem readExponent_append (width : Nat) (e : Int) {r : List Char}
    (hr : StartsOutside isDecimal r) :
    readExponent ('e' :: (Double.exponentChars width e ++ r)) = (some e, r) := by
  obtain ⟨ds, hne, hds, hvalue, heq⟩ := exponentChars_eq width e
  have hread : readSign (Double.exponentChars width e ++ r) = (decide (e < 0), ds ++ r) := by
    rw [heq]
    by_cases he : e < 0
    · simp [he, readSign]
    · simp [he, readSign]
  unfold readExponent
  simp only [hread, takeWhile_append hds hr, dropWhile_append hds hr, hvalue]
  rw [if_pos (by decide), if_neg (by rwa [List.isEmpty_iff])]
  congr 2
  by_cases he : e < 0
  · rw [decide_eq_true he, if_pos rfl]
    omega
  · rw [decide_eq_false he, if_neg (by decide)]
    omega

namespace NumberText

variable {t : NumberText} {r : List Char}

theorem head?_fractionChars_append (s : List Char) :
    (t.fractionChars ++ s).head? = if t.fraction = [] then s.head? else some '.' := by
  unfold fractionChars
  by_cases hf : t.fraction = []
  · rw [if_pos hf, if_pos hf, List.nil_append]
  · rw [if_neg hf, if_neg hf]
    rfl

theorem head?_exponentChars_append (width : Nat) (s : List Char) :
    (t.exponentChars width ++ s).head? = if t.exponent = none then s.head? else some 'e' := by
  unfold exponentChars
  cases t.exponent with
  | none => rfl
  | some e => rfl

theorem readFraction_fractionChars (h : t.IsProper) {s : List Char}
    (hs : StartsOutside isDecimal s) (hpoint : s.head? ≠ some '.') :
    readFraction (t.fractionChars ++ s) = (t.fraction, s) := by
  unfold fractionChars
  by_cases hf : t.fraction = []
  · rw [if_pos hf, hf]
    exact readFraction_of_head? hpoint
  · rw [if_neg hf]
    exact readFraction_append hf h.fraction_digits hs

theorem readExponent_exponentChars (width : Nat) (hr : StartsOutside isNumeric r) :
    readExponent (t.exponentChars width ++ r) = (t.exponent, r) := by
  have hdigit : StartsOutside isDecimal r := hr.mono fun c hc => by simp [isNumeric, hc]
  unfold exponentChars
  cases t.exponent with
  | none =>
    apply readExponent_of_head?
    · intro he
      exact absurd (hr _ he) (by decide)
    · intro hE
      exact absurd (hr _ hE) (by decide)
  | some e => exact readExponent_append width e hdigit

theorem startsOutside_exponentChars (width : Nat) (hr : StartsOutside isNumeric r) :
    StartsOutside (fun c => isDecimal c || c == '.') (t.exponentChars width ++ r) := by
  unfold StartsOutside
  rw [head?_exponentChars_append]
  by_cases he : t.exponent = none
  · rw [if_pos he]
    exact hr.mono fun c hc => by simpa [isNumeric, or_assoc] using Or.inl (Or.inl hc)
  · rw [if_neg he]
    rintro c ⟨⟩
    decide

theorem startsOutside_fractionChars {s : List Char} (hs : StartsOutside isDecimal s) :
    StartsOutside isDecimal (t.fractionChars ++ s) := by
  unfold StartsOutside
  rw [head?_fractionChars_append]
  by_cases hf : t.fraction = []
  · rw [if_pos hf]
    exact hs
  · rw [if_neg hf]
    rintro c ⟨⟩
    decide

theorem readNumber_chars (h : t.IsProper) (width : Nat) (negative : Bool)
    (hr : StartsOutside isNumeric r) :
    readNumber ((if negative then ['-'] else []) ++ (t.chars width ++ r)) =
      (numberOf negative t.whole t.fraction t.exponent).map fun v => (v, r) := by
  have hexponent := startsOutside_exponentChars (t := t) width hr
  have hdigit : StartsOutside isDecimal (t.exponentChars width ++ r) :=
    hexponent.mono fun c hc => by rw [hc, Bool.true_or]
  have hpoint : (t.exponentChars width ++ r).head? ≠ some '.' :=
    fun h => absurd (hexponent _ h) (by decide)
  have hwhole : readWhole (t.chars width ++ r) =
      some (t.whole, t.fractionChars ++ (t.exponentChars width ++ r)) := by
    rw [chars, List.append_assoc, List.append_assoc]
    exact readWhole_append h.whole_ne_nil h.whole_digits h.lead
      (startsOutside_fractionChars hdigit)
  have hminus : ∀ s, '-' :: s ≠ t.chars width ++ r := by
    intro s hs
    rw [← hs] at hwhole
    cases hwhole
  unfold readNumber
  cases negative with
  | true =>
    simp only [if_true, List.singleton_append, hwhole, readFraction_fractionChars h hdigit hpoint,
      readExponent_exponentChars width hr]
  | false =>
    rw [if_neg (by decide), List.nil_append]
    split
    next negative s hsign =>
      split at hsign
      · next hs => exact absurd hs.symm (hminus _)
      · cases hsign
        simp only [hwhole, readFraction_fractionChars h hdigit hpoint,
          readExponent_exponentChars width hr]

end NumberText

end Json

end JsonTemplate
