import JsonTemplate.Proofs.Json.RoundTrip
import JsonTemplate.Text.Newline

/-!
# Compact texts

The compact text of a standard value is one line without control characters, and it does not end
with a blank; so neither reading line ends nor trimming changes it.
-/

namespace JsonTemplate.Json

open Text

def isShown (c : Char) : Bool :=
  32 ≤ c.toNat

def isNumberChar (c : Char) : Bool :=
  isNumeric c || c == '-' || c == '+'

theorem bounds_of_isNumberChar {c : Char} (h : isNumberChar c = true) :
    33 ≤ c.toNat ∧ c.toNat ≤ 126 := by
  simp only [isNumberChar, isNumeric, isDecimal, Bool.or_eq_true, Bool.and_eq_true,
    decide_eq_true_eq, beq_iff_eq] at h
  rcases h with ((((⟨hlow, hhigh⟩ | rfl) | rfl) | rfl) | rfl) | rfl
  · have hleast : 48 ≤ c.toNat := hlow
    have hgreatest : c.toNat ≤ 57 := hhigh
    omega
  all_goals decide

theorem not_isBlank_of_isNumberChar {c : Char} (h : isNumberChar c = true) : isBlank c = false := by
  have hbounds := bounds_of_isNumberChar h
  unfold isBlank
  generalize c.toNat = n at *
  simp only [Bool.or_eq_false_iff, Bool.and_eq_false_iff, decide_eq_false_iff_not,
    beq_eq_false_iff_ne]
  omega

theorem within_isNumberChar_of_isDecimal {s : List Char} (h : Within isDecimal s) :
    Within isNumberChar s := by
  intro c hc
  unfold isNumberChar isNumeric
  rw [h c hc]
  rfl

theorem NumberText.within_isNumberChar {t : NumberText} (ht : t.IsProper) (width : Nat) :
    Within isNumberChar (t.chars width) := by
  have hfraction : Within isNumberChar t.fractionChars := by
    unfold fractionChars
    by_cases hf : t.fraction = []
    · rw [if_pos hf]
      exact within_nil
    · rw [if_neg hf]
      exact Within.append (s := ['.']) (by decide)
        (within_isNumberChar_of_isDecimal ht.fraction_digits)
  have hexponent : Within isNumberChar (t.exponentChars width) := by
    unfold exponentChars
    cases t.exponent with
    | none => exact within_nil
    | some e =>
      obtain ⟨ds, -, hds, -, heq⟩ := exponentChars_eq width e
      dsimp only
      rw [heq]
      refine Within.append (s := ['e', if e < 0 then '-' else '+']) ?_
        (within_isNumberChar_of_isDecimal hds)
      by_cases he : e < 0
      · rw [if_pos he]
        decide
      · rw [if_neg he]
        decide
  exact (within_isNumberChar_of_isDecimal ht.whole_digits).append (hfraction.append hexponent)

theorem IsNumberText.within_isNumberChar {s : List Char} {v : Json} (h : IsNumberText s v) :
    Within isNumberChar s := by
  obtain ⟨negative, width, t, ht, rfl, -⟩ := h
  refine Within.append ?_ (NumberText.within_isNumberChar ht width)
  cases negative <;> decide

theorem IsNumberText.within_isShown {s : List Char} {v : Json} (h : IsNumberText s v) :
    Within isShown s := by
  intro c hc
  have hbounds := bounds_of_isNumberChar (h.within_isNumberChar c hc)
  exact decide_eq_true (by omega)

theorem IsNumberText.endsOutside_isBlank {s : List Char} {v : Json} (h : IsNumberText s v) :
    EndsOutside isBlank s :=
  fun c hc => not_isBlank_of_isNumberChar (h.within_isNumberChar c (List.mem_of_getLast? hc))

theorem within_hex (width n : Nat) : Within isShown (hex width n) := by
  induction width generalizing n with
  | zero => exact within_nil
  | succ width ih =>
    have hdigit : ∀ d < 16, isShown (hexDigit d) = true := by decide
    refine (ih (n / 16)).append fun c hc => ?_
    rw [List.mem_singleton.mp hc]
    exact hdigit _ (Nat.mod_lt _ (by decide))

theorem within_plainChar (c : Char) : Within isShown (Layout.plainChar c) := by
  unfold Layout.plainChar
  split_ifs with _ _ _ _ _ _ _ hcontrol
  · decide
  · decide
  · decide
  · decide
  · decide
  · decide
  · decide
  · exact Within.append (s := ['\\', 'u']) (by decide) (within_hex 4 _)
  · intro d hd
    rw [List.mem_singleton.mp hd]
    exact decide_eq_true (Nat.not_lt.mp hcontrol)

theorem within_stringChars (s : String) : Within isShown (stringChars .compact s) := by
  refine Within.append (s := ['"']) (by decide) (Within.append (fun c hc => ?_) (by decide))
  obtain ⟨d, -, hd⟩ := List.mem_flatMap.mp hc
  exact within_plainChar d c hd

theorem within_itemChars (level : Nat) {items : List Json}
    (h : ∀ v ∈ items, ∀ level, Within isShown (chars .compact level v)) :
    Within isShown (itemChars .compact level items) := by
  induction items with
  | nil =>
    rw [itemChars]
    exact Within.append within_nil (by decide)
  | cons v items ih =>
    rw [itemChars]
    refine Within.append (s := [',', ' ']) (by decide) ((h v List.mem_cons_self _).append ?_)
    exact ih fun w hw => h w (List.mem_cons_of_mem _ hw)

theorem within_memberText (level : Nat) {f : String × Json}
    (h : ∀ level, Within isShown (chars .compact level f.2)) :
    Within isShown (memberText .compact level f) := by
  refine (within_stringChars f.1).append ?_
  exact Within.append (s := [':', ' ']) (by decide) (h (level + 1))

theorem within_memberChars (level : Nat) {fields : List (String × Json)}
    (h : ∀ f ∈ fields, ∀ level, Within isShown (chars .compact level f.2)) :
    Within isShown (memberChars .compact level (namedMembers fields)) := by
  induction fields with
  | nil => exact Within.append (s := []) within_nil (t := ['\x7d']) (by decide)
  | cons f fields ih =>
    rw [memberChars_cons]
    refine Within.append (s := [',', ' ']) (by decide) ?_
    refine (within_memberText level (h f List.mem_cons_self)).append ?_
    exact ih fun g hg => h g (List.mem_cons_of_mem _ hg)

theorem Standard.within_isShown {v : Json} (h : Standard v) (level : Nat) :
    Within isShown (chars .compact level v) := by
  induction h generalizing level with
  | null =>
    rw [chars]
    decide
  | bool b =>
    rw [chars]
    cases b <;> decide
  | int hn =>
    rw [chars]
    exact (isNumberText_intChars hn).within_isShown
  | float hd =>
    rw [chars]
    exact (isNumberText_floatChars hd).within_isShown
  | string s =>
    rw [chars]
    exact within_stringChars s
  | @array items _ ih =>
    cases items with
    | nil =>
      rw [chars]
      decide
    | cons v items =>
      rw [chars]
      refine Within.append (s := ['[']) (by decide) ?_
      exact (ih v List.mem_cons_self _).append
        (within_itemChars level fun w hw => ih w (List.mem_cons_of_mem _ hw))
  | @object fields _ _ ih =>
    cases fields with
    | nil =>
      rw [named, List.map_nil, chars]
      decide
    | cons f fields =>
      rw [chars_named_cons]
      refine Within.append (s := ['\x7b']) (by decide) ?_
      exact (within_memberText level (ih f List.mem_cons_self)).append
        (within_memberChars level fun g hg => ih g (List.mem_cons_of_mem _ hg))

theorem exists_itemChars_eq (layout : Layout) (level : Nat) (items : List Json) :
    ∃ s, itemChars layout level items = s ++ [']'] := by
  induction items with
  | nil => exact ⟨_, itemChars.eq_1 _ _⟩
  | cons v items ih =>
    obtain ⟨s, hs⟩ := ih
    refine ⟨layout.between level ++ (chars layout (level + 1) v ++ s), ?_⟩
    rw [itemChars, hs, List.append_assoc, List.append_assoc]

theorem exists_memberChars_eq (layout : Layout) (level : Nat) (members : List (Key × Json)) :
    ∃ s, memberChars layout level members = s ++ ['\x7d'] := by
  induction members with
  | nil => exact ⟨_, memberChars.eq_1 _ _⟩
  | cons m members ih =>
    obtain ⟨s, hs⟩ := ih
    refine ⟨layout.between level ++ (stringChars layout (keyText m.1) ++ ':' :: ' ' ::
      (chars layout (level + 1) m.2 ++ s)), ?_⟩
    rw [memberChars, hs]
    simp only [List.append_assoc, List.cons_append]

theorem endsOutside_concat {p : Char → Bool} {c : Char} (hc : p c = false) (s : List Char) :
    EndsOutside p (s ++ [c]) := by
  intro d hd
  rw [List.getLast?_concat] at hd
  cases hd
  exact hc

theorem Standard.endsOutside_isBlank {v : Json} (h : Standard v) (layout : Layout)
    (level : Nat) : EndsOutside isBlank (chars layout level v) := by
  cases h with
  | null =>
    rw [chars]
    decide
  | bool b =>
    rw [chars]
    cases b <;> decide
  | int hn =>
    rw [chars]
    exact (isNumberText_intChars hn).endsOutside_isBlank
  | float hd =>
    rw [chars]
    exact (isNumberText_floatChars hd).endsOutside_isBlank
  | string s =>
    rw [chars, stringChars, ← List.cons_append]
    exact endsOutside_concat rfl _
  | @array items _ =>
    cases items with
    | nil =>
      rw [chars]
      decide
    | cons v items =>
      obtain ⟨s, hs⟩ := exists_itemChars_eq layout level items
      rw [chars, hs, ← List.append_assoc, ← List.append_assoc, ← List.cons_append]
      exact endsOutside_concat rfl _
  | @object fields _ _ =>
    cases fields with
    | nil =>
      rw [named, List.map_nil, chars]
      decide
    | cons f fields =>
      obtain ⟨s, hs⟩ := exists_memberChars_eq layout level (namedMembers fields)
      rw [chars_named_cons, hs, ← List.append_assoc, ← List.append_assoc, ← List.cons_append]
      exact endsOutside_concat rfl _

end JsonTemplate.Json
