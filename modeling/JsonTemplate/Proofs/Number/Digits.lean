import JsonTemplate.Json.Parser
import JsonTemplate.Number.Shortest
import JsonTemplate.Proofs.Text.Trim
import Mathlib.Data.List.Basic
import Mathlib.Data.List.Induction
import Mathlib.Tactic.Ring

/-!
# Decimal digits

The digits of a number read back as the number, and have no zero in front unless the number is
zero. Digits and the same digits with some zeros after them differ by a power of ten.
-/

namespace JsonTemplate

open Text

namespace Json

theorem decimalValue_toDigits (n : Nat) : decimalValue (Nat.toDigits 10 n) = n := by
  have h : Nat.ofDigitChars 10 (Nat.toDigits 10 n) 0 = n := Nat.ofDigitChars_ten_toDigits
  rw [Nat.ofDigitChars_eq_foldl] at h
  exact h

theorem decimalValue_append (ds es : List Char) :
    decimalValue (ds ++ es) = decimalValue ds * 10 ^ es.length + decimalValue es := by
  have h : Nat.ofDigitChars 10 es (decimalValue ds) =
      10 ^ es.length * decimalValue ds + Nat.ofDigitChars 10 es 0 :=
    Nat.ofDigitChars_eq_ofDigitChars_zero
  rw [Nat.ofDigitChars_eq_foldl, Nat.ofDigitChars_eq_foldl] at h
  unfold decimalValue at *
  rw [List.foldl_append, Nat.mul_comm _ (10 ^ es.length)]
  exact h

theorem decimalValue_lt {ds : List Char} (h : Within isDecimal ds) :
    decimalValue ds < 10 ^ ds.length := by
  induction ds using List.reverseRecOn with
  | nil => decide
  | append_singleton ds c ih =>
    have hds : decimalValue ds < 10 ^ ds.length := ih fun d hd => h d (List.mem_append_left [c] hd)
    have hc : isDecimal c = true := h c List.mem_concat_self
    have hvalue : decimalValue [c] < 10 := by
      unfold isDecimal at hc
      rw [Bool.and_eq_true] at hc
      have hbound : c.toNat ≤ 57 := of_decide_eq_true hc.2
      change 10 * 0 + (c.toNat - 48) < 10
      omega
    rw [decimalValue_append, List.length_append, List.length_singleton, pow_succ]
    omega

theorem decimalValue_zeros (k : Nat) : decimalValue (List.replicate k '0') = 0 := by
  induction k with
  | zero => rfl
  | succ k ih =>
    rw [List.replicate_succ', decimalValue_append, ih, Nat.zero_mul]
    rfl

theorem within_isDecimal_toDigits (n : Nat) : Within isDecimal (Nat.toDigits 10 n) := by
  intro c hc
  have h : c.isDigit = true := Nat.isDigit_of_mem_toDigits (by decide) (by decide) hc
  exact h

theorem within_isDecimal_zeros (k : Nat) : Within isDecimal (List.replicate k '0') := by
  intro c hc
  rw [List.eq_of_mem_replicate hc]
  rfl

end Json

theorem head?_toDigits_ne_zero {n : Nat} (hn : 0 < n) : (Nat.toDigits 10 n).head? ≠ some '0' := by
  induction n using Nat.strong_induction_on with
  | _ n ih =>
    rw [Nat.toDigits_eq_if (by decide)]
    by_cases hsmall : n < 10
    · rw [if_pos hsmall]
      intro h
      have hzero : n.digitChar = '0' := Option.some.inj h
      rw [Nat.digitChar_eq_zero] at hzero
      omega
    · rw [if_neg hsmall, List.head?_append_of_ne_nil _ Nat.toDigits_ne_nil]
      exact ih (n / 10) (by omega) (by omega)

theorem toDigits_mul_pow {n : Nat} (hn : 0 < n) (k : Nat) :
    Nat.toDigits 10 (n * 10 ^ k) = Nat.toDigits 10 n ++ List.replicate k '0' := by
  induction k with
  | zero => simp
  | succ k ih =>
    have hpos : 0 < n * 10 ^ k := Nat.mul_pos hn (Nat.pow_pos (by decide))
    have h := Nat.toDigits_append_toDigits (by decide : 1 < 10) hpos (by decide : 0 < 10)
    have heq : 10 * (n * 10 ^ k) + 0 = n * 10 ^ (k + 1) := by ring
    rw [heq, ih, List.append_assoc] at h
    rw [← h, List.replicate_succ']
    rfl

namespace Double

theorem countDigits_le_iff {n k : Nat} (hk : 0 < k) : countDigits n ≤ k ↔ n < 10 ^ k :=
  Nat.length_toDigits_le_iff (by decide) hk

theorem countDigits_mul_pow {n : Nat} (hn : 0 < n) (k : Nat) :
    countDigits (n * 10 ^ k) = countDigits n + k := by
  unfold countDigits
  rw [toDigits_mul_pow hn, List.length_append, List.length_replicate]

/-- The zeros at the end of a coefficient are all that is missing in its significant digits. -/
theorem exists_toDigits_eq (c : Nat) :
    ∃ z, Nat.toDigits 10 c = significantDigits c ++ List.replicate z '0' := by
  refine ⟨((Nat.toDigits 10 c).reverse.takeWhile (· == '0')).length, ?_⟩
  have hcut := reverse_eq_dropWhile (· == '0') (Nat.toDigits 10 c).reverse
  have hzeros : ((Nat.toDigits 10 c).reverse.takeWhile (· == '0')).reverse =
      List.replicate ((Nat.toDigits 10 c).reverse.takeWhile (· == '0')).length '0' := by
    refine List.eq_replicate_iff.mpr ⟨List.length_reverse, fun d hd => ?_⟩
    exact eq_of_beq (within_takeWhile _ _ d (List.mem_reverse.mp hd))
  rw [List.reverse_reverse, hzeros] at hcut
  exact hcut

end Double

end JsonTemplate
