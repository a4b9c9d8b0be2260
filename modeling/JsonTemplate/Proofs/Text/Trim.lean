import JsonTemplate.Text.Blank
import JsonTemplate.Text.Word
import Mathlib.Data.List.TakeWhile

/-!
# Trimmed and split texts

A text is cut into runs by `takeWhile` and `dropWhile`, trimmed of the blanks or the spacing at its
ends, and split at a separator. The lemmas say which cut of a text these functions make, and that
they are the only ones with the shape of such a cut.
-/

namespace JsonTemplate.Text

def StartsOutside (p : Char → Bool) (s : List Char) : Prop :=
  ∀ c ∈ s.head?, p c = false

def EndsOutside (p : Char → Bool) (s : List Char) : Prop :=
  ∀ c ∈ s.getLast?, p c = false

def Within (p : Char → Bool) (s : List Char) : Prop :=
  ∀ c ∈ s, p c = true

-- Characters are finitely many, so another way to decide these would be to try them all.
instance (p : Char → Bool) (s : List Char) : Decidable (StartsOutside p s) :=
  decidable_of_iff (s.head?.all (!p ·) = true) (by
    unfold StartsOutside
    cases s.head? <;> simp)

instance (p : Char → Bool) (s : List Char) : Decidable (EndsOutside p s) :=
  decidable_of_iff (s.getLast?.all (!p ·) = true) (by
    unfold EndsOutside
    cases s.getLast? <;> simp)

instance (p : Char → Bool) (s : List Char) : Decidable (Within p s) :=
  decidable_of_iff (s.all p = true) (by simp [Within])

section Runs

variable {p q : Char → Bool} {s t : List Char} {c : Char}

theorem within_nil : Within p [] := by
  intro c hc
  cases hc

theorem Within.append (hs : Within p s) (ht : Within p t) : Within p (s ++ t) := by
  intro c hc
  rcases List.mem_append.mp hc with hc | hc
  · exact hs c hc
  · exact ht c hc

theorem Within.reverse (hs : Within p s) : Within p s.reverse :=
  fun c hc => hs c (List.mem_reverse.mp hc)

theorem within_takeWhile (p : Char → Bool) (s : List Char) : Within p (s.takeWhile p) :=
  fun _ hc => List.mem_takeWhile_imp hc

theorem startsOutside_nil : StartsOutside p [] := by
  intro c hc
  cases hc

theorem startsOutside_cons : StartsOutside p (c :: s) ↔ p c = false := by
  simp [StartsOutside]

theorem startsOutside_dropWhile (p : Char → Bool) (s : List Char) :
    StartsOutside p (s.dropWhile p) := by
  induction s with
  | nil => exact startsOutside_nil
  | cons c s ih =>
    cases hc : p c with
    | true => simpa [List.dropWhile_cons, hc] using ih
    | false => simp [hc, startsOutside_cons]

theorem startsOutside_append (hs : ∀ c ∈ s, p c = false) (ht : s = [] → StartsOutside p t) :
    StartsOutside p (s ++ t) := by
  cases s with
  | nil => exact ht rfl
  | cons c s => exact startsOutside_cons.mpr (hs c List.mem_cons_self)

theorem endsOutside_reverse : EndsOutside p s.reverse ↔ StartsOutside p s := by
  unfold EndsOutside StartsOutside
  rw [List.getLast?_reverse]

theorem startsOutside_reverse : StartsOutside p s.reverse ↔ EndsOutside p s := by
  rw [← endsOutside_reverse, List.reverse_reverse]

theorem endsOutside_append (ht : t ≠ []) (h : EndsOutside p t) : EndsOutside p (s ++ t) := by
  intro c hc
  apply h
  rw [List.getLast?_append, List.getLast?_eq_some_getLast ht] at hc
  rw [List.getLast?_eq_some_getLast ht]
  exact hc

theorem StartsOutside.of_append (h : StartsOutside p (s ++ t)) : StartsOutside p s := by
  cases s with
  | nil => exact startsOutside_nil
  | cons c s => exact h

theorem EndsOutside.of_append (h : EndsOutside p (s ++ t)) : EndsOutside p t := by
  rw [← startsOutside_reverse, List.reverse_append] at h
  exact startsOutside_reverse.mp h.of_append

theorem eq_nil_of_startsOutside (h : StartsOutside p (s ++ t)) (hs : Within p s) : s = [] := by
  cases s with
  | nil => rfl
  | cons c s =>
    rw [List.cons_append, startsOutside_cons, hs c List.mem_cons_self] at h
    cases h

theorem eq_nil_of_endsOutside (h : EndsOutside p (s ++ t)) (ht : Within p t) : t = [] := by
  rw [← startsOutside_reverse, List.reverse_append] at h
  exact List.reverse_eq_nil_iff.mp (eq_nil_of_startsOutside h ht.reverse)

theorem StartsOutside.mono (hs : StartsOutside p s) (h : ∀ c, q c = true → p c = true) :
    StartsOutside q s := by
  intro c hc
  cases hq : q c with
  | false => rfl
  | true =>
    have hp := hs c hc
    rw [h c hq] at hp
    cases hp

theorem EndsOutside.mono (hs : EndsOutside p s) (h : ∀ c, q c = true → p c = true) :
    EndsOutside q s :=
  startsOutside_reverse.mp ((startsOutside_reverse.mpr hs).mono h)

theorem takeWhile_append (hs : Within p s) (ht : StartsOutside p t) :
    (s ++ t).takeWhile p = s := by
  rw [List.takeWhile_append_of_pos hs]
  cases t with
  | nil => simp
  | cons c t => simp [startsOutside_cons.mp ht]

theorem takeWhile_append_of_mem (hc : c ∈ s) (hout : p c = false) (t : List Char) :
    (s ++ t).takeWhile p = s.takeWhile p := by
  rw [List.takeWhile_append, if_neg]
  intro hlength
  have hall := List.takeWhile_eq_self_iff.mp ((List.takeWhile_prefix p).eq_of_length hlength)
  rw [hall c hc] at hout
  cases hout

theorem dropWhile_append (hs : Within p s) (ht : StartsOutside p t) :
    (s ++ t).dropWhile p = t := by
  rw [List.dropWhile_append_of_pos hs]
  cases t with
  | nil => rfl
  | cons c t => simp [startsOutside_cons.mp ht]

theorem dropWhile_append_cons (hc : p c = false) (s t : List Char) :
    (s ++ c :: t).dropWhile p = s.dropWhile p ++ c :: t := by
  rw [List.dropWhile_append, List.dropWhile_cons_of_neg (by simp [hc])]
  split
  · next hs => rw [List.isEmpty_iff.mp hs, List.nil_append]
  · rfl

/-- What satisfies `p` is dropped where nothing is left before it. -/
theorem dropWhile_append_within (ht : Within p t) (s : List Char) :
    (s ++ t).dropWhile p = s.dropWhile p ∨ (s ++ t).dropWhile p = s.dropWhile p ++ t := by
  rw [List.dropWhile_append]
  split
  · next hs =>
    left
    rw [List.isEmpty_iff.mp hs]
    exact List.dropWhile_eq_nil_iff.mpr ht
  · exact .inr rfl

/-- Where a reversed text is cut by `p`. -/
theorem reverse_eq_dropWhile (p : Char → Bool) (s : List Char) :
    s.reverse = (s.dropWhile p).reverse ++ (s.takeWhile p).reverse := by
  rw [← List.reverse_append, List.takeWhile_append_dropWhile]

end Runs

section Ends

variable {p : Char → Bool} {s t : List Char}

theorem eq_dropWhileEnd_append (p : Char → Bool) (s : List Char) :
    ∃ t, Within p t ∧ s = dropWhileEnd p s ++ t := by
  refine ⟨(s.reverse.takeWhile p).reverse, (within_takeWhile p _).reverse, ?_⟩
  have h := reverse_eq_dropWhile p s.reverse
  rw [List.reverse_reverse] at h
  exact h

theorem endsOutside_dropWhileEnd (p : Char → Bool) (s : List Char) :
    EndsOutside p (dropWhileEnd p s) :=
  endsOutside_reverse.mpr (startsOutside_dropWhile p _)

theorem dropWhileEnd_append (hs : EndsOutside p s) (ht : Within p t) :
    dropWhileEnd p (s ++ t) = s := by
  unfold dropWhileEnd
  rw [List.reverse_append, dropWhile_append ht.reverse (startsOutside_reverse.mpr hs),
    List.reverse_reverse]

theorem dropWhileEnd_append_cons {c : Char} (hc : p c = false) (s t : List Char) :
    dropWhileEnd p (s ++ c :: t) = s ++ c :: dropWhileEnd p t := by
  unfold dropWhileEnd
  rw [List.reverse_append, List.reverse_cons, List.append_assoc, List.singleton_append,
    dropWhile_append_cons hc]
  simp

theorem dropWhileEnd_within_append (hs : Within p s) (t : List Char) :
    dropWhileEnd p (s ++ t) = dropWhileEnd p t ∨
      dropWhileEnd p (s ++ t) = s ++ dropWhileEnd p t := by
  unfold dropWhileEnd
  rw [List.reverse_append]
  rcases dropWhile_append_within hs.reverse t.reverse with h | h
  · exact .inl (congrArg List.reverse h)
  · right
    rw [h, List.reverse_append, List.reverse_reverse]

/-- A text that ends outside `p` is not longer than any other text with the same end. -/
theorem append_within_inj {s' t' : List Char} (hs : EndsOutside p s) (ht : Within p t)
    (hs' : EndsOutside p s') (ht' : Within p t') (h : s ++ t = s' ++ t') : s = s' := by
  rw [← dropWhileEnd_append hs ht, h, dropWhileEnd_append hs' ht']

/-- Without a part of what satisfies `p`, a text still has its beginning. -/
theorem eq_append_of_append_within {s' t' : List Char} (hs : EndsOutside p s) (ht : Within p t)
    (ht' : Within p t') (h : s ++ t = s' ++ t') : ∃ u, Within p u ∧ s' = s ++ u := by
  obtain ⟨u, hu, hs'⟩ := eq_dropWhileEnd_append p s'
  rw [hs', List.append_assoc] at h
  rw [← append_within_inj hs ht (endsOutside_dropWhileEnd p s') (hu.append ht') h] at hs'
  exact ⟨u, hu, hs'⟩

end Ends

section Trimming

variable {p q : Char → Bool} {s t u : List Char}

theorem eq_of_isSpacing {c : Char} (h : isSpacing c = true) : c = ' ' ∨ c = '\t' := by
  unfold isSpacing at h
  rcases Bool.or_eq_true_iff.mp h with h | h
  · exact .inl (eq_of_beq h)
  · exact .inr (eq_of_beq h)

theorem isBlank_of_isSpacing {c : Char} (h : isSpacing c = true) : isBlank c = true := by
  rcases eq_of_isSpacing h with rfl | rfl <;> rfl

theorem Within.isBlank (hs : Within isSpacing s) : Within isBlank s :=
  fun c hc => isBlank_of_isSpacing (hs c hc)

theorem isWord_of_isSpacing {c : Char} (h : isSpacing c = true) : isWord c = false := by
  rcases eq_of_isSpacing h with rfl | rfl <;> rfl

theorem isSpacing_of_isWord {c : Char} (h : isWord c = true) : isSpacing c = false := by
  cases hc : isSpacing c with
  | false => rfl
  | true =>
    rw [isWord_of_isSpacing hc] at h
    cases h

def blanks : List Nat :=
  [9, 10, 11, 12, 13, 28, 29, 30, 31, 32, 0x85, 0xA0, 0x1680, 0x2000, 0x2001, 0x2002, 0x2003,
   0x2004, 0x2005, 0x2006, 0x2007, 0x2008, 0x2009, 0x200A, 0x2028, 0x2029, 0x202F, 0x205F, 0x3000]

theorem mem_blanks_of_isBlank {c : Char} (h : isBlank c = true) : c.toNat ∈ blanks := by
  simp only [isBlank, Bool.or_eq_true, Bool.and_eq_true, decide_eq_true_eq, beq_iff_eq] at h
  simp only [blanks, List.mem_cons, List.not_mem_nil, or_false]
  omega

theorem isBlank_of_isWord {c : Char} (h : isWord c = true) : isBlank c = false := by
  cases hc : isBlank c with
  | false => rfl
  | true =>
    have hword : ∀ n ∈ blanks, isWord (Char.ofNat n) = false := by decide +kernel
    have hout := hword c.toNat (mem_blanks_of_isBlank hc)
    rw [Char.ofNat_toNat, h] at hout
    cases hout

theorem StartsOutside.dropWhileEnd (hs : StartsOutside q s) :
    StartsOutside q (dropWhileEnd p s) := by
  obtain ⟨t, -, h⟩ := eq_dropWhileEnd_append p s
  rw [h] at hs
  cases hd : Text.dropWhileEnd p s with
  | nil => exact startsOutside_nil
  | cons c r =>
    rw [hd] at hs
    exact hs

def strip (p : Char → Bool) (s : List Char) : List Char :=
  dropWhileEnd p (s.dropWhile p)

theorem trim_eq_strip (s : List Char) : trim s = strip isBlank s := rfl

theorem trimSpacing_eq_strip (s : List Char) : trimSpacing s = strip isSpacing s := rfl

theorem startsOutside_strip (p : Char → Bool) (s : List Char) : StartsOutside p (strip p s) :=
  (startsOutside_dropWhile p s).dropWhileEnd

theorem endsOutside_strip (p : Char → Bool) (s : List Char) : EndsOutside p (strip p s) :=
  endsOutside_dropWhileEnd p _

theorem eq_append_strip (p : Char → Bool) (s : List Char) :
    ∃ t u, Within p t ∧ Within p u ∧ s = t ++ strip p s ++ u := by
  obtain ⟨u, hu, hs⟩ := eq_dropWhileEnd_append p (s.dropWhile p)
  refine ⟨s.takeWhile p, u, within_takeWhile p s, hu, ?_⟩
  unfold strip
  rw [List.append_assoc, ← hs, List.takeWhile_append_dropWhile]

theorem strip_append (hs : Within p s) (ht : StartsOutside p t) (ht' : EndsOutside p t)
    (hu : Within p u) : strip p (s ++ t ++ u) = t := by
  unfold strip
  cases t with
  | nil =>
    have h := dropWhile_append (hs.append hu) (startsOutside_nil (p := p))
    rw [List.append_nil] at h
    rw [List.append_nil, h]
    rfl
  | cons c t =>
    have hstart : StartsOutside p (c :: t ++ u) := ht
    rw [List.append_assoc, dropWhile_append hs hstart, dropWhileEnd_append ht' hu]

/-- More of what is stripped changes nothing. -/
theorem strip_append_append (hs : Within p s) (hu : Within p u) :
    strip p (s ++ t ++ u) = strip p t := by
  obtain ⟨t₁, t₂, h₁, h₂, ht⟩ := eq_append_strip p t
  have hshape : s ++ (t₁ ++ strip p t ++ t₂) ++ u = s ++ t₁ ++ strip p t ++ (t₂ ++ u) := by
    simp only [List.append_assoc]
  rw [← ht] at hshape
  rw [hshape]
  exact strip_append (hs.append h₁) (startsOutside_strip p t) (endsOutside_strip p t)
    (h₂.append hu)

theorem strip_of_within (hs : Within p s) : strip p s = [] := by
  have h := strip_append hs startsOutside_nil (startsOutside_reverse.mp startsOutside_nil)
    within_nil
  rwa [List.append_nil, List.append_nil] at h

end Trimming

section Splitting

variable {c : Char} {s t : List Char}

theorem splitOn_of_not_mem (h : c ∉ s) : splitOn c s = [s] := by
  induction s with
  | nil => rfl
  | cons d s ih =>
    have hd : d ≠ c := fun hd => h (hd ▸ List.mem_cons_self)
    rw [splitOn, if_neg hd, ih fun hc => h (List.mem_cons_of_mem d hc)]

theorem splitOn_append_cons (c : Char) (s t : List Char) :
    splitOn c (s ++ c :: t) = splitOn c s ++ splitOn c t := by
  induction s with
  | nil =>
    change splitOn c (c :: t) = [] :: splitOn c t
    rw [splitOn, if_pos rfl]
  | cons d s ih =>
    rw [List.cons_append, splitOn, splitOn, ih]
    split
    · rfl
    · obtain ⟨piece, pieces, hs⟩ := List.exists_cons_of_ne_nil (splitOn_ne_nil c s)
      rw [hs]
      rfl

theorem splitOn_append (h : c ∉ s) (t : List Char) :
    splitOn c (s ++ c :: t) = s :: splitOn c t := by
  rw [splitOn_append_cons, splitOn_of_not_mem h, List.singleton_append]

/-- The part of a text before a character is settled by not having it. -/
theorem append_cons_inj {s' t' : List Char} (hs : c ∉ s) (hs' : c ∉ s')
    (h : s ++ c :: t = s' ++ c :: t') : s = s' ∧ t = t' := by
  have hsplit := congrArg (splitOn c) h
  rw [splitOn_append hs, splitOn_append hs'] at hsplit
  obtain ⟨rfl, -⟩ := List.cons.inj hsplit
  exact ⟨rfl, (List.cons.inj (List.append_cancel_left h)).2⟩

theorem not_mem_of_mem_splitOn (h : t ∈ splitOn c s) : c ∉ t := by
  induction s generalizing t with
  | nil =>
    rw [splitOn, List.mem_singleton] at h
    rw [h]
    exact List.not_mem_nil
  | cons d s ih =>
    rw [splitOn] at h
    split at h
    · rcases List.mem_cons.mp h with rfl | h
      · exact List.not_mem_nil
      · exact ih h
    · next hd =>
      obtain ⟨piece, pieces, hs⟩ := List.exists_cons_of_ne_nil (splitOn_ne_nil c s)
      rw [hs] at h ih
      rcases List.mem_cons.mp h with rfl | h
      · intro hc
        rcases List.mem_cons.mp hc with rfl | hc
        · exact hd rfl
        · exact ih List.mem_cons_self hc
      · exact ih (List.mem_cons_of_mem piece h)

end Splitting

end JsonTemplate.Text
