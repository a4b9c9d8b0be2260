import JsonTemplate.Proofs.Number.Digits

/-!
# Exact decimals

Rounding looks at a quotient only, so a decimal may be scaled by a power of ten. A decimal that is
exactly a finite double is rounded to that double.
-/

namespace JsonTemplate.Double

def emptyPlaces (rank : Nat) : Nat :=
  rank / binade - 1

theorem units_of_lt {rank : Nat} (h : rank < binade) : units rank = rank :=
  if_pos h

theorem units_of_le {rank : Nat} (h : binade ≤ rank) :
    units rank = (binade + rank % binade) * 2 ^ emptyPlaces rank :=
  if_neg (Nat.not_lt.mpr h)

theorem log2_units (rank : Nat) : (units rank).log2 - 52 = emptyPlaces rank := by
  have hbinade : binade = 2 ^ 52 := rfl
  by_cases hsmall : rank < binade
  · rw [units_of_lt hsmall, emptyPlaces, Nat.div_eq_of_lt hsmall]
    by_cases hzero : rank = 0
    · subst hzero
      rfl
    · have hlog : rank.log2 < 52 := (Nat.log2_lt hzero).mpr hsmall
      omega
  · rw [units_of_le (Nat.not_lt.mp hsmall)]
    generalize emptyPlaces rank = k
    have hmod : rank % binade < binade := Nat.mod_lt _ (by decide)
    have hpow : 0 < 2 ^ k := Nat.pow_pos (by decide)
    have hlow : 2 ^ (52 + k) ≤ (binade + rank % binade) * 2 ^ k := by
      rw [Nat.pow_add, ← hbinade]
      exact Nat.mul_le_mul_right _ (Nat.le_add_right _ _)
    have hhigh : (binade + rank % binade) * 2 ^ k < 2 ^ (52 + k + 1) := by
      rw [show 52 + k + 1 = 53 + k by omega, Nat.pow_add]
      refine (Nat.mul_lt_mul_right hpow).mpr ?_
      omega
    have hne : (binade + rank % binade) * 2 ^ k ≠ 0 := by
      have := Nat.pow_pos (n := 52 + k) (by decide : 0 < 2)
      omega
    have hlog := (Nat.log2_eq_iff hne).mpr ⟨hlow, hhigh⟩
    omega

/-- A rank consists of the leading binary digits of its units and of their place. -/
theorem units_div (rank : Nat) :
    units rank / 2 ^ emptyPlaces rank * 2 ^ emptyPlaces rank = units rank ∧
      units rank / 2 ^ emptyPlaces rank + emptyPlaces rank * binade = rank := by
  by_cases hsmall : rank < binade
  · have hnone : emptyPlaces rank = 0 := by
      unfold emptyPlaces
      rw [Nat.div_eq_of_lt hsmall]
    rw [hnone, units_of_lt hsmall]
    omega
  · have hlarge : binade ≤ rank := Nat.not_lt.mp hsmall
    rw [units_of_le hlarge, Nat.mul_div_cancel _ (Nat.pow_pos (by decide))]
    refine ⟨rfl, ?_⟩
    have hdiv : 1 ≤ rank / binade := Nat.div_pos hlarge (by decide)
    have hsum : rank / binade = emptyPlaces rank + 1 := by
      unfold emptyPlaces
      omega
    have hrank := Nat.mod_add_div rank binade
    rw [hsum] at hrank
    calc binade + rank % binade + emptyPlaces rank * binade
        = rank % binade + binade * (emptyPlaces rank + 1) := by ring
      _ = rank := hrank

theorem units_pos {rank : Nat} (h : 0 < rank) : 0 < units rank := by
  by_cases hsmall : rank < binade
  · rwa [units_of_lt hsmall]
  · rw [units_of_le (Nat.not_lt.mp hsmall)]
    exact Nat.mul_pos (Nat.add_pos_left (by decide) _) (Nat.pow_pos (by decide))

theorem units_lt {rank n : Nat} (h : rank < infinityRank) (hn : 2098 ≤ n) :
    units rank < 2 ^ n := by
  have hbinade : binade = 2 ^ 52 := rfl
  have hpow : 0 < 2 ^ (n - 53) := Nat.pow_pos (by decide)
  have hn' : 2 ^ n = 2 ^ 53 * 2 ^ (n - 53) := by
    rw [← Nat.pow_add]
    congr 1
    omega
  by_cases hsmall : rank < binade
  · rw [units_of_lt hsmall, hn']
    omega
  · rw [units_of_le (Nat.not_lt.mp hsmall), hn']
    have hplaces : emptyPlaces rank ≤ n - 53 := by
      have hdiv : rank / binade < 2047 := Nat.div_lt_of_lt_mul (by
        rw [Nat.mul_comm]
        exact h)
      unfold emptyPlaces
      omega
    have hmod : rank % binade < binade := Nat.mod_lt _ (by decide)
    calc (binade + rank % binade) * 2 ^ emptyPlaces rank
        ≤ (binade + rank % binade) * 2 ^ (n - 53) :=
          Nat.mul_le_mul_left _ (Nat.pow_le_pow_right (by decide) hplaces)
      _ < 2 ^ 53 * 2 ^ (n - 53) := (Nat.mul_lt_mul_right hpow).mpr (by omega)

theorem nearestRank_mul {k : Nat} (hk : 0 < k) (num den : Nat) :
    nearestRank (num * k) (den * k) = nearestRank num den := by
  have hscaled : num * k * unitsOfOne = num * unitsOfOne * k := Nat.mul_right_comm _ _ _
  have hwhole : num * unitsOfOne * k / (den * k) = num * unitsOfOne / den :=
    Nat.mul_div_mul_right _ _ hk
  unfold nearestRank
  rw [hscaled]
  simp only [hwhole]
  generalize num * unitsOfOne = scaled
  generalize (scaled / den).log2 - 52 = shift
  generalize Nat.pow 2 shift = grain
  generalize scaled / den / grain = kept
  have htwice : 2 * (scaled * k - kept * grain * (den * k)) =
      2 * (scaled - kept * grain * den) * k := by
    rw [← Nat.mul_assoc (kept * grain), ← Nat.sub_mul, ← Nat.mul_assoc 2]
  have hgrain : den * k * grain = den * grain * k := Nat.mul_right_comm _ _ _
  simp only [htwice, hgrain, Nat.mul_lt_mul_right hk, Nat.mul_left_inj hk.ne']

theorem nearestRank_congr {num den num' den' : Nat} (hden : 0 < den) (hden' : 0 < den')
    (h : num * den' = num' * den) : nearestRank num den = nearestRank num' den' := by
  calc nearestRank num den = nearestRank (num * den') (den * den') :=
        (nearestRank_mul hden' num den).symm
    _ = nearestRank (num' * den) (den' * den) := by rw [h, Nat.mul_comm den]
    _ = nearestRank num' den' := nearestRank_mul hden num' den'

/-- Nothing is left over, so nothing is rounded. -/
theorem nearestRank_of_exact {rank num den : Nat} (hrank : rank < infinityRank) (hden : 0 < den)
    (h : num * unitsOfOne = units rank * den) : nearestRank num den = rank := by
  obtain ⟨hunits, hsum⟩ := units_div rank
  have hpow : 0 < 2 ^ emptyPlaces rank := Nat.pow_pos (by decide)
  have hhalf : 0 < den * 2 ^ emptyPlaces rank := Nat.mul_pos hden hpow
  have hrest : 2 * (units rank * den -
      units rank / 2 ^ emptyPlaces rank * 2 ^ emptyPlaces rank * den) = 0 := by
    rw [hunits, Nat.sub_self]
  unfold nearestRank
  rw [h]
  simp only [Nat.mul_div_cancel _ hden, log2_units]
  simp only [Nat.pow_eq, hrest, hhalf.ne, Nat.not_lt_zero, decide_false, Bool.false_and,
    Bool.or_self, Bool.false_eq_true, if_false, Nat.add_zero, hsum]
  exact Nat.min_eq_left hrank.le

theorem rankOfDecimal_mul_pow (c k : Nat) (e : Int) :
    rankOfDecimal (c * 10 ^ k) e = rankOfDecimal c (e + k) := by
  by_cases hc : c = 0
  · unfold rankOfDecimal
    rw [hc, Nat.zero_mul, if_pos rfl, if_pos rfl]
  · have hpos : 0 < c := Nat.pos_of_ne_zero hc
    have hten : ∀ n, 0 < Nat.pow 10 n := fun n => Nat.pow_pos (by decide)
    have hdigits : (countDigits (c * 10 ^ k) : Int) + e = countDigits c + (e + k) := by
      rw [countDigits_mul_pow hpos]
      push_cast
      ring
    have hnearest : nearestRank (c * 10 ^ k * Nat.pow 10 e.toNat) (Nat.pow 10 (-e).toNat) =
        nearestRank (c * Nat.pow 10 (e + k).toNat) (Nat.pow 10 (-(e + k)).toNat) := by
      refine nearestRank_congr (hten _) (hten _) ?_
      simp only [Nat.pow_eq, Nat.mul_assoc, ← Nat.pow_add]
      congr 2
      omega
    unfold rankOfDecimal
    rw [if_neg hc, if_neg (Nat.mul_pos hpos (Nat.pow_pos (by decide))).ne', hdigits, hnearest]

theorem rankOfDecimal_of_exact {rank c k : Nat} (hrank : rank < infinityRank) (hc : 0 < c)
    (hleast : k ≤ countDigits c + 400) (hgreatest : countDigits c ≤ k + 400)
    (h : c * unitsOfOne = units rank * Nat.pow 10 k) : rankOfDecimal c (-k) = rank := by
  have hwhole : (-k : Int).toNat = 0 := by omega
  have hfraction : (- -(k : Int)).toNat = k := by omega
  unfold rankOfDecimal
  rw [if_neg hc.ne', if_neg (by omega), if_neg (by omega), hwhole, hfraction]
  refine nearestRank_of_exact hrank (Nat.pow_pos (by decide)) ?_
  rw [Nat.pow_eq, Nat.pow_zero, Nat.mul_one, h]

theorem exactCoefficient_mul (rank : Nat) :
    exactCoefficient rank * unitsOfOne = units rank * Nat.pow 10 1074 := by
  unfold exactCoefficient unitsOfOne
  generalize 1074 = n
  have hten : Nat.pow 5 n * Nat.pow 2 n = Nat.pow 10 n := (Nat.mul_pow 5 2 n).symm
  rw [Nat.mul_assoc, hten]

theorem countDigits_units_mul {rank five low high n : Nat} (hpos : 0 < rank)
    (h : rank < infinityRank) (hn : 2098 ≤ n) (hlow : 0 < low) (hhigh : 0 < high)
    (hleast : Nat.pow 10 low ≤ five) (hgreatest : Nat.pow 2 n * five ≤ Nat.pow 10 high) :
    low < countDigits (units rank * five) ∧ countDigits (units rank * five) ≤ high := by
  have hfive : 0 < five := Nat.lt_of_lt_of_le (Nat.pow_pos (by decide)) hleast
  rw [← Nat.not_le, countDigits_le_iff hlow, countDigits_le_iff hhigh, Nat.not_lt]
  constructor
  · exact Nat.le_trans hleast (Nat.le_mul_of_pos_left _ (units_pos hpos))
  · exact Nat.lt_of_lt_of_le ((Nat.mul_lt_mul_right hfive).mpr (units_lt h hn)) hgreatest

theorem countDigits_exactCoefficient {rank : Nat} (hpos : 0 < rank) (h : rank < infinityRank) :
    673 < countDigits (exactCoefficient rank) ∧ countDigits (exactCoefficient rank) ≤ 1474 :=
  countDigits_units_mul hpos h (Nat.le_refl 2098) (by decide) (by decide) (by decide +kernel)
    (by decide +kernel)

theorem rankOfDecimal_exactCoefficient {rank : Nat} (h : rank < infinityRank) :
    rankOfDecimal (exactCoefficient rank) (-1074) = rank := by
  rcases Nat.eq_zero_or_pos rank with rfl | hpos
  · have hzero : exactCoefficient 0 = 0 := by
      unfold exactCoefficient
      generalize Nat.pow 5 1074 = five
      exact Nat.zero_mul five
    unfold rankOfDecimal
    rw [if_pos hzero]
  · obtain ⟨hleast, hgreatest⟩ := countDigits_exactCoefficient hpos h
    have hcoefficient : 0 < exactCoefficient rank := by
      refine Nat.pos_of_ne_zero fun hzero => ?_
      rw [hzero] at hleast
      exact absurd hleast (by decide)
    have hmul := exactCoefficient_mul rank
    -- a name for the exponent, so that nothing computes the power
    generalize hk : 1074 = k at hmul
    have hrank := rankOfDecimal_of_exact h hcoefficient (by omega) (by omega) hmul
    subst hk
    exact hrank

end JsonTemplate.Double
