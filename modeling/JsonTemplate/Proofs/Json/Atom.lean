import JsonTemplate.Json.Printer
import JsonTemplate.Proofs.Number.Shortest

/-!
# Reading atoms

The written forms of null, of the truth values, and of all numbers that standard JSON can hold are
read as what they were written for, as long as nothing follows that could go on with a number.
-/

namespace JsonTemplate.Json

open Text

def wholeText (n : Nat) : NumberText where
  whole := Nat.toDigits 10 n

theorem wholeText_isProper (n : Nat) : (wholeText n).IsProper where
  whole_ne_nil := Nat.toDigits_ne_nil
  whole_digits := within_isDecimal_toDigits n
  lead h := by
    rcases Nat.eq_zero_or_pos n with rfl | hn
    · rfl
    · exact absurd h (head?_toDigits_ne_zero hn)
  fraction_digits := within_nil

/-- An integer is written as digits with a sign in front. -/
theorem intChars_eq (n : Int) :
    intChars n = (if decide (n < 0) then ['-'] else []) ++ (wholeText n.natAbs).chars 0 := by
  unfold intChars NumberText.chars
  simp [wholeText, NumberText.fractionChars, NumberText.exponentChars]

theorem floatChars_eq {d : Double} (hd : d.isFinite = true) :
    floatChars d = (if d.negative then ['-'] else []) ++ Double.magnitudeChars d.rank := by
  have hrank : d.rank < Double.infinityRank := of_decide_eq_true hd
  have hnan : d.isNaN = false := decide_eq_false (Nat.lt_asymm hrank)
  unfold floatChars Double.chars
  rw [hnan, hd, if_neg (by decide), if_pos rfl]

/-- The texts of the numbers that standard JSON can hold, with what is read from them. -/
def IsNumberText (s : List Char) (v : Json) : Prop :=
  ∃ (negative : Bool) (width : Nat) (t : NumberText), t.IsProper ∧
    s = (if negative then ['-'] else []) ++ t.chars width ∧
    numberOf negative t.whole t.fraction t.exponent = .ok v

theorem isNumberText_intChars {n : Int} (hn : Double.countDigits n.natAbs ≤ digitLimit) :
    IsNumberText (intChars n) (.int n) := by
  refine ⟨decide (n < 0), 0, wholeText n.natAbs, wholeText_isProper _, intChars_eq n, ?_⟩
  have hvalue : decimalValue (wholeText n.natAbs).whole = n.natAbs := decimalValue_toDigits _
  have hlimit : ¬ digitLimit < (wholeText n.natAbs).whole.length := Nat.not_lt.mpr hn
  unfold numberOf
  rw [if_pos (by rfl), if_neg hlimit, hvalue]
  congr 2
  by_cases hneg : n < 0
  · rw [decide_eq_true hneg, if_pos rfl]
    omega
  · rw [decide_eq_false hneg, if_neg (by decide)]
    omega

theorem isNumberText_floatChars {d : Double} (hd : d.isFinite = true) :
    IsNumberText (floatChars d) (.float d) := by
  obtain ⟨t, ht, hfraction, hchars, hrank⟩ :=
    Double.exists_text_of_rank (of_decide_eq_true hd : d.rank < Double.infinityRank)
  rw [floatChars_eq hd, ← hchars]
  refine ⟨d.negative, _, t, ht, rfl, ?_⟩
  have hnotInt : ¬ (t.fraction.isEmpty && t.exponent.isNone) = true := by
    rw [Bool.and_eq_true, List.isEmpty_iff, Option.isNone_iff_eq_none]
    exact fun h => hfraction h.1 h.2
  unfold numberOf
  rw [if_neg hnotInt]
  exact congrArg (Except.ok ∘ float) (Double.ofDecimal_of_rank hrank)

theorem readAtom_digit {c : Char} (hc : isDecimal c = true) (s : List Char) :
    readAtom (c :: s) = readNumber (c :: s) ∧ readAtom ('-' :: c :: s) = readNumber ('-' :: c :: s)
    := by
  have hne : ∀ d, isDecimal d = false → d ≠ c := fun d hd => (ne_of_isDecimal hc hd).symm
  have hn := hne 'n' rfl
  have ht := hne 't' rfl
  have hf := hne 'f' rfl
  have hN := hne 'N' rfl
  have hI := hne 'I' rfl
  have hminus := hne '-' rfl
  unfold readAtom literals refusedConstants
  constructor
  · simp [afterWord?, hn, ht, hf, hN, hI, hminus]
  · simp [afterWord?, hI]

theorem IsNumberText.readAtom {s : List Char} {v : Json} (h : IsNumberText s v) {r : List Char}
    (hr : StartsOutside isNumeric r) : Json.readAtom (s ++ r) = .ok (v, r) := by
  obtain ⟨negative, width, t, ht, rfl, hv⟩ := h
  have hread := NumberText.readNumber_chars ht width negative hr
  rw [hv, ← List.append_assoc] at hread
  refine Eq.trans ?_ hread
  obtain ⟨c, w, hw⟩ := List.exists_cons_of_ne_nil ht.whole_ne_nil
  have hc : isDecimal c = true := ht.whole_digits c (by rw [hw]; exact List.mem_cons_self)
  unfold NumberText.chars
  rw [hw]
  cases negative with
  | true => exact (readAtom_digit hc _).2
  | false => exact (readAtom_digit hc _).1

theorem IsNumberText.exists_cons {s : List Char} {v : Json} (h : IsNumberText s v) :
    ∃ c t, s = c :: t ∧ (isDecimal c || c == '-') = true := by
  obtain ⟨negative, width, t, ht, rfl, -⟩ := h
  obtain ⟨c, w, hw⟩ := List.exists_cons_of_ne_nil ht.whole_ne_nil
  have hc : isDecimal c = true := ht.whole_digits c (by rw [hw]; exact List.mem_cons_self)
  unfold NumberText.chars
  rw [hw]
  cases negative with
  | true => exact ⟨'-', _, rfl, by decide⟩
  | false => exact ⟨c, _, rfl, by rw [hc, Bool.true_or]⟩

theorem readAtom_null (r : List Char) : readAtom ("null".toList ++ r) = .ok (.null, r) := by
  rfl

theorem readAtom_bool (b : Bool) (r : List Char) :
    readAtom (boolChars b ++ r) = .ok (.bool b, r) := by
  cases b <;> rfl

end JsonTemplate.Json
