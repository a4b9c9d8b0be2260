import JsonTemplate.Proofs.Json.Number
import JsonTemplate.Proofs.Number.Rounding

/-!
# Texts of doubles

The digits that are chosen for a finite double are rounded to that double again, and each of the
layouts for these digits is a number of the same value.
-/

namespace JsonTemplate.Double

open Text Json

theorem rankOfDecimal_of_withDigits? {rank exact length count : Nat} {p : Nat × Int}
    (h : withDigits? rank exact length count = some p) : rankOfDecimal p.1 p.2 = rank := by
  unfold withDigits? at h
  dsimp only at h
  split at h
  · next hlower =>
    cases h
    simp only [Bool.and_eq_true, decide_eq_true_eq] at hlower
    exact hlower.1
  · split at h
    · next hupper =>
      cases h
      exact hupper
    · cases h

/-- Whether or not there are short digits that read back, those that are taken do. -/
theorem rankOfDecimal_of_search {rank exact : Nat} (hexact : rankOfDecimal exact (-1074) = rank)
    {length : Nat} {p : Nat × Int}
    (hp : ((List.range 17).findSome? fun n => withDigits? rank exact length (n + 1)).getD
      (exact, -1074) = p) : rankOfDecimal p.1 p.2 = rank := by
  cases hfound : (List.range 17).findSome? fun n => withDigits? rank exact length (n + 1) with
  | none =>
    rw [hfound] at hp
    cases hp
    exact hexact
  | some q =>
    obtain ⟨n, -, hn⟩ := List.exists_of_findSome?_eq_some hfound
    rw [hfound] at hp
    cases hp
    exact rankOfDecimal_of_withDigits? hn

-- The search is about any exact coefficient, since the real one is too large to compute with.
theorem rankOfDecimal_shortest {rank : Nat} (h : rank < infinityRank) :
    rankOfDecimal (shortest rank).1 (shortest rank).2 = rank :=
  rankOfDecimal_of_search (rankOfDecimal_exactCoefficient h) rfl

structure IsDigits (ds : List Char) : Prop where
  ne_nil : ds ≠ []
  digits : Within isDecimal ds
  head_ne_zero : ds.head? ≠ some '0'

theorem isDigits_significantDigits {c : Nat} (hc : 0 < c) : IsDigits (significantDigits c) := by
  obtain ⟨z, hz⟩ := exists_toDigits_eq c
  have hhead := head?_toDigits_ne_zero hc
  rw [hz] at hhead
  have hne : significantDigits c ≠ [] := by
    intro hnil
    rw [hnil, List.nil_append] at hz hhead
    cases z with
    | zero => exact absurd hz Nat.toDigits_ne_nil
    | succ z => exact hhead rfl
  constructor
  case ne_nil => exact hne
  case digits =>
    intro d hd
    refine within_isDecimal_toDigits c d ?_
    rw [hz]
    exact List.mem_append_left _ hd
  case head_ne_zero => rwa [List.head?_append_of_ne_nil _ hne] at hhead

/-- The digits without the zeros at their end, with the decimal point where it was. -/
theorem rankOfDecimal_significantDigits (c : Nat) (e : Int) :
    rankOfDecimal c e = rankOfDecimal (decimalValue (significantDigits c))
      (countDigits c + e - (significantDigits c).length) := by
  obtain ⟨z, hz⟩ := exists_toDigits_eq c
  have hvalue : decimalValue (significantDigits c) * 10 ^ z = c := by
    have h := decimalValue_toDigits c
    rw [hz, decimalValue_append, decimalValue_zeros, List.length_replicate] at h
    exact h
  have hcount : countDigits c = (significantDigits c).length + z := by
    unfold countDigits
    rw [hz, List.length_append, List.length_replicate]
  calc rankOfDecimal c e
      = rankOfDecimal (decimalValue (significantDigits c) * 10 ^ z) e := by rw [hvalue]
    _ = rankOfDecimal (decimalValue (significantDigits c)) (e + z) := rankOfDecimal_mul_pow _ _ _
    _ = _ := by
      congr 1
      omega

def IsTextOf (width : Nat) (s : List Char) (c : Nat) (e : Int) : Prop :=
  ∃ t : NumberText, t.IsProper ∧ (t.fraction = [] → t.exponent ≠ none) ∧ t.chars width = s ∧
    t.rank = rankOfDecimal c e

section Layouts

variable {ds : List Char} (h : IsDigits ds)
include h

theorem isTextOf_leadingZeros (width k : Nat) :
    IsTextOf width ('0' :: '.' :: (List.replicate k '0' ++ ds)) (decimalValue ds)
      (-(k + ds.length)) := by
  have hne : List.replicate k '0' ++ ds ≠ [] := List.append_ne_nil_of_right_ne_nil _ h.ne_nil
  refine ⟨⟨['0'], List.replicate k '0' ++ ds, none⟩, ?_, fun hnil => absurd hnil hne, ?_, ?_⟩
  · exact ⟨nofun, within_isDecimal_zeros 1, fun _ => rfl,
      (within_isDecimal_zeros k).append h.digits⟩
  · simp [NumberText.chars, NumberText.fractionChars, NumberText.exponentChars, hne]
  · have hvalue : decimalValue (['0'] ++ (List.replicate k '0' ++ ds)) = decimalValue ds := by
      rw [← List.append_assoc, ← List.replicate_one, ← List.replicate_add, decimalValue_append,
        decimalValue_zeros, Nat.zero_mul, Nat.zero_add]
    unfold NumberText.rank
    rw [hvalue]
    congr 1
    simp only [Option.getD_none, List.length_append, List.length_replicate]
    omega

theorem isTextOf_trailingZeros (width k : Nat) :
    IsTextOf width (ds ++ List.replicate k '0' ++ ['.', '0']) (decimalValue ds) k := by
  refine ⟨⟨ds ++ List.replicate k '0', ['0'], none⟩, ?_, nofun, ?_, ?_⟩
  · refine ⟨?_, h.digits.append (within_isDecimal_zeros k), ?_, within_isDecimal_zeros 1⟩
    · exact List.append_ne_nil_of_left_ne_nil h.ne_nil _
    · intro hzero
      rw [List.head?_append_of_ne_nil _ h.ne_nil] at hzero
      exact absurd hzero h.head_ne_zero
  · simp [NumberText.chars, NumberText.fractionChars, NumberText.exponentChars]
  · have hvalue : decimalValue (ds ++ List.replicate k '0' ++ ['0']) =
        decimalValue ds * 10 ^ (k + 1) := by
      rw [← List.replicate_one, List.append_assoc, ← List.replicate_add, decimalValue_append,
        decimalValue_zeros, Nat.add_zero, List.length_replicate]
    unfold NumberText.rank
    rw [hvalue, rankOfDecimal_mul_pow]
    congr 1
    simp only [Option.getD_none, List.length_singleton]
    omega

theorem isTextOf_pointed (width : Nat) {n : Nat} (hpos : 0 < n) (hlt : n < ds.length) :
    IsTextOf width (ds.take n ++ '.' :: ds.drop n) (decimalValue ds) (n - ds.length) := by
  have hne : ds.drop n ≠ [] := by
    intro hnil
    have := List.drop_eq_nil_iff.mp hnil
    omega
  have htake : ds.take n ++ ds.drop n = ds := List.take_append_drop n ds
  have hwhole : ds.take n ≠ [] := by
    intro hnil
    rcases List.take_eq_nil_iff.mp hnil with hzero | hzero
    · omega
    · exact h.ne_nil hzero
  refine ⟨⟨ds.take n, ds.drop n, none⟩, ?_, fun hnil => absurd hnil hne, ?_, ?_⟩
  · refine ⟨hwhole, fun c hc => h.digits c (List.mem_of_mem_take hc), ?_,
      fun c hc => h.digits c (List.mem_of_mem_drop hc)⟩
    intro hzero
    have hhead : (ds.take n ++ ds.drop n).head? = (ds.take n).head? :=
      List.head?_append_of_ne_nil _ hwhole
    rw [htake] at hhead
    exact absurd (hhead.trans hzero) h.head_ne_zero
  · simp [NumberText.chars, NumberText.fractionChars, NumberText.exponentChars, hne]
  · unfold NumberText.rank
    rw [htake]
    congr 1
    simp only [Option.getD_none, List.length_drop]
    omega

theorem isTextOf_positional (width : Nat) (point : Int) :
    IsTextOf width (positional ds point) (decimalValue ds) (point - ds.length) := by
  unfold positional
  by_cases hsmall : point ≤ 0
  · have hexponent : point - ds.length = -((-point).toNat + ds.length) := by omega
    rw [if_pos hsmall, hexponent]
    exact isTextOf_leadingZeros h width _
  · rw [if_neg hsmall]
    by_cases hlarge : ds.length ≤ point.toNat
    · have hexponent : point - ds.length = (point.toNat - ds.length : Nat) := by omega
      rw [if_pos hlarge, hexponent]
      exact isTextOf_trailingZeros h width _
    · have hexponent : point - ds.length = point.toNat - ds.length := by omega
      rw [if_neg hlarge, hexponent]
      exact isTextOf_pointed h width (by omega) (Nat.not_le.mp hlarge)

theorem isTextOf_scientific (width : Nat) (e : Int) :
    IsTextOf width (scientific width ds e) (decimalValue ds) (e + 1 - ds.length) := by
  obtain ⟨hne, hdigits, hhead⟩ := h
  cases ds with
  | nil => exact absurd rfl hne
  | cons d r =>
    refine ⟨⟨[d], r, some e⟩, ?_, nofun, ?_, ?_⟩
    · refine ⟨nofun, fun c hc => hdigits c ?_, fun hzero => absurd hzero hhead,
        fun c hc => hdigits c (List.mem_cons_of_mem _ hc)⟩
      rw [List.mem_singleton.mp hc]
      exact List.mem_cons_self
    · cases r with
      | nil => rfl
      | cons d' r => rfl
    · unfold NumberText.rank
      rw [List.singleton_append]
      congr 1
      simp only [Option.getD_some, List.length_cons]
      omega

end Layouts

theorem isTextOf_layOut (style : NumeralStyle) {c : Nat} (hc : 0 < c) (e : Int) :
    IsTextOf style.exponentDigits (layOut style c e) c e := by
  have hds := isDigits_significantDigits hc
  have hshift : ∀ x : Int, x - 1 + 1 = x := fun x => by omega
  unfold IsTextOf
  rw [rankOfDecimal_significantDigits c e]
  unfold layOut
  dsimp only
  split
  · exact isTextOf_positional hds _ _
  · have h := isTextOf_scientific hds style.exponentDigits (countDigits c + e - 1)
    rw [hshift] at h
    exact h

/-- The text of a finite double is a number that is not an integer and has the value of that
double. -/
theorem exists_text_of_rank {rank : Nat} (h : rank < infinityRank) :
    ∃ t : NumberText, t.IsProper ∧ (t.fraction = [] → t.exponent ≠ none) ∧
      t.chars plainStyle.exponentDigits = magnitudeChars rank ∧ t.rank = rank := by
  have hrank := rankOfDecimal_shortest h
  unfold magnitudeChars
  by_cases hzero : rank = 0
  · rw [if_pos hzero]
    refine ⟨⟨['0'], ['0'], none⟩, ?_, nofun, rfl, ?_⟩
    · exact ⟨nofun, within_isDecimal_zeros 1, fun _ => rfl, within_isDecimal_zeros 1⟩
    · rw [hzero]
      rfl
  · have hpos : 0 < (shortest rank).1 := by
      refine Nat.pos_of_ne_zero fun hc => hzero ?_
      rw [← hrank, hc]
      rfl
    rw [if_neg hzero]
    generalize shortest rank = p at *
    obtain ⟨t, ht, hfraction, hchars, htrank⟩ := isTextOf_layOut plainStyle hpos p.2
    exact ⟨t, ht, hfraction, hchars, htrank.trans hrank⟩

theorem ofDecimal_of_rank {d : Double} {c : Nat} {e : Int} (h : rankOfDecimal c e = d.rank) :
    ofDecimal d.negative c e = d := by
  rcases d with ⟨negative, rank, hrank⟩
  subst h
  rfl

end JsonTemplate.Double
