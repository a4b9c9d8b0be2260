import JsonTemplate.Proofs.Expression.Segment

/-!
# Pipelines

A pipeline is one segment after another. Taking segments off the end of a text gives the transforms
of a pipeline that ends the text, and all of them if what comes before it does not end in a segment.
-/

namespace JsonTemplate.Expression

open Text

inductive Pipeline : List Transform → List Char → Prop where
  | nil : Pipeline [] []
  | cons {t : Transform} {ts : List Transform} {segment rest : List Char} :
      Segment t segment → Pipeline ts rest → Pipeline (t :: ts) (segment ++ rest)

def EndsInSegment (s : List Char) : Prop :=
  ∃ p segment t, s = p ++ segment ∧ Segment t segment

theorem Segment.ne_nil {t : Transform} {s : List Char} (h : Segment t s) : s ≠ [] := by
  cases h
  exact List.append_ne_nil_of_right_ne_nil _ (List.cons_ne_nil _ _)

theorem within_isBlank_tail {b newline : List Char} (hb : Within isSpacing b)
    (hnewline : newline = [] ∨ newline = ['\n']) : Within isBlank (b ++ newline) := by
  refine Within.append hb.isBlank ?_
  rcases hnewline with rfl | rfl
  · exact within_nil
  · intro c hc
    rw [List.mem_singleton.mp hc]
    rfl

/-- A segment ends in a name or a parenthesis, and after it there may be some spacing and the end of
a line. -/
theorem Segment.exists_core {t : Transform} {s : List Char} (h : Segment t s) :
    ∃ core b newline, s = core ++ (b ++ newline) ∧ Segment t core ∧ EndsOutside isBlank core ∧
      Within isSpacing b ∧ (newline = [] ∨ newline = ['\n']) := by
  obtain @⟨b₁, b₂, b₃, list, b₄, newline, h₁, h₂, hname, h₃, hlist, h₄, hnewline⟩ := h
  obtain ⟨name, args⟩ := t
  dsimp only at hname hlist
  cases hlist with
  | missing =>
    obtain ⟨hne, hword⟩ := isIdentifier_iff.mp hname
    have hend : EndsOutside isBlank name.toList := fun c hc =>
      isBlank_of_isWord (hword c (List.mem_of_getLast? hc))
    refine ⟨b₁ ++ '|' :: (b₂ ++ name.toList), b₃ ++ b₄, newline, by simp, ?_, ?_,
      h₃.append h₄, hnewline⟩
    · have hcore := Segment.mk (t := ⟨name, none⟩) h₁ h₂ hname within_nil .missing within_nil
        (.inl rfl)
      simpa using hcore
    · have hcore := endsOutside_append (s := b₁ ++ '|' :: b₂) hne hend
      simpa using hcore
  | @parens args raw hraw hargs =>
    refine ⟨b₁ ++ '|' :: (b₂ ++ name.toList ++ b₃ ++ '(' :: (raw ++ [')'])), b₄, newline,
      by simp, ?_, ?_, h₄, hnewline⟩
    · have hcore := Segment.mk (t := ⟨name, some args⟩) h₁ h₂ hname h₃ (.parens hraw hargs)
        within_nil (.inl rfl)
      simpa using hcore
    · have hcore := endsOutside_append (p := isBlank)
        (s := b₁ ++ '|' :: (b₂ ++ name.toList ++ b₃ ++ '(' :: raw)) (t := [')'])
        (List.cons_ne_nil _ _) (fun c hc => by cases hc; rfl)
      simpa using hcore

theorem Segment.lastSegment?_dropWhile {t : Transform} {s : List Char} (h : Segment t s)
    (p : List Char) : Expression.lastSegment? ((p ++ s).reverse.dropWhile isSpacing) =
      some (t, p.reverse.dropWhile isSpacing) := by
  obtain ⟨core, b, newline, hs, hcore, hend, hb, hnewline⟩ := h.exists_core
  rcases hnewline with rfl | rfl
  · have hstart : StartsOutside isSpacing (p ++ core).reverse :=
      startsOutside_reverse.mpr
        (endsOutside_append hcore.ne_nil (hend.mono fun c hc => isBlank_of_isSpacing hc))
    rw [hs, List.append_nil, ← List.append_assoc, List.reverse_append,
      dropWhile_append hb.reverse hstart]
    exact hcore.lastSegment? p
  · have hkeep : (p ++ s).reverse.dropWhile isSpacing = (p ++ s).reverse := by
      rw [hs]
      simp [isSpacing]
    rw [hkeep]
    exact h.lastSegment? p

theorem EndsInSegment.of_blanks {s b : List Char} (h : EndsInSegment (s ++ b))
    (hs : EndsOutside isBlank s) (hb : Within isBlank b) : EndsInSegment s := by
  obtain ⟨p, segment, t, heq, hsegment⟩ := h
  obtain ⟨core, b', newline, rfl, hcore, hend, hb', hnewline⟩ := hsegment.exists_core
  rw [← List.append_assoc] at heq
  refine ⟨p, core, t, ?_, hcore⟩
  exact append_within_inj hs hb (endsOutside_append hcore.ne_nil hend)
    (within_isBlank_tail hb' hnewline) heq

/-- What has been taken so far stands between what is left and the end of the text. -/
theorem pipeline_of_takePipeline {fuel : Nat} {r before : List Char} {taken ts : List Transform}
    (h : takePipeline fuel r taken = (ts, before)) {s : List Char} (hs : Pipeline taken s) :
    ∃ s', Pipeline ts s' ∧ r.reverse ++ s = before.reverse ++ s' := by
  induction fuel generalizing r taken s with
  | zero =>
    cases h
    exact ⟨s, hs, rfl⟩
  | succ fuel ih =>
    rw [takePipeline] at h
    cases hlast : lastSegment? r with
    | none =>
      rw [hlast] at h
      cases h
      exact ⟨s, hs, rfl⟩
    | some found =>
      obtain ⟨t, r'⟩ := found
      rw [hlast] at h
      obtain ⟨-, segment, hsegment, hr⟩ := segment_of_lastSegment? hlast
      obtain ⟨s', hs', heq⟩ := ih h (.cons hsegment hs)
      exact ⟨s', hs', by rw [hr, List.append_assoc, heq]⟩

theorem length_lt_of_lastSegment? {r before : List Char} {t : Transform}
    (h : lastSegment? r = some (t, before)) : before.length < r.length := by
  obtain ⟨-, segment, hsegment, hr⟩ := segment_of_lastSegment? h
  have hlength := congrArg List.length hr
  have hpos := List.length_pos_iff.mpr hsegment.ne_nil
  rw [List.length_append, List.length_reverse, List.length_reverse] at hlength
  omega

def Rest (r s : List Char) : Prop :=
  r = s.reverse ∨ r = s.reverse.dropWhile isSpacing

theorem Rest.blanks {r s b : List Char} (h : Rest r (s ++ b)) (hs : EndsOutside isBlank s)
    (hb : Within isBlank b) : ∃ b', Within isBlank b' ∧ r.reverse = s ++ b' := by
  rcases h with rfl | rfl
  · exact ⟨b, hb, List.reverse_reverse _⟩
  · obtain ⟨t, ht, heq⟩ := eq_dropWhileEnd_append isSpacing (s ++ b)
    exact eq_append_of_append_within hs hb ht.isBlank heq

theorem Segment.lastSegment?_rest {t : Transform} {s p r : List Char} (h : Segment t s)
    (hr : Rest r (p ++ s)) :
    Expression.lastSegment? r = some (t, p.reverse.dropWhile isSpacing) := by
  rcases hr with rfl | rfl
  · exact h.lastSegment? p
  · exact h.lastSegment?_dropWhile p

/-- The whole pipeline is taken with fuel to spare. The last segments are taken first, so by
induction all segments but the first are gone already. -/
theorem takePipeline_of_pipeline {ts : List Transform} {s : List Char} (h : Pipeline ts s)
    {p r : List Char} (hr : Rest r (p ++ s)) {fuel : Nat} (hfuel : r.length ≤ fuel)
    (taken : List Transform) :
    ∃ fuel' r', Rest r' p ∧ r'.length ≤ fuel' ∧
      takePipeline fuel r taken = takePipeline fuel' r' (ts ++ taken) := by
  induction h generalizing p with
  | nil =>
    rw [List.append_nil] at hr
    exact ⟨fuel, r, hr, hfuel, rfl⟩
  | @cons t ts segment rest hsegment _ ih =>
    rw [← List.append_assoc] at hr
    obtain ⟨fuel', r', hr', hfuel', htake⟩ := ih hr
    have hlast := hsegment.lastSegment?_rest hr'
    have hlt := length_lt_of_lastSegment? hlast
    obtain ⟨fuel'', rfl⟩ : ∃ n, fuel' = n + 1 := ⟨fuel' - 1, by omega⟩
    refine ⟨fuel'', _, .inr rfl, by omega, ?_⟩
    rw [htake, takePipeline, hlast]
    rfl

theorem takePipeline_of_lastSegment? {r : List Char} (h : lastSegment? r = none) (fuel : Nat)
    (taken : List Transform) : takePipeline fuel r taken = (taken, r) := by
  cases fuel with
  | zero => rfl
  | succ fuel => rw [takePipeline, h]

theorem lastSegment?_eq_none {r : List Char} (h : ¬EndsInSegment r.reverse) :
    lastSegment? r = none := by
  cases hlast : lastSegment? r with
  | none => rfl
  | some found =>
    obtain ⟨t, before⟩ := found
    obtain ⟨-, segment, hsegment, hr⟩ := segment_of_lastSegment? hlast
    exact absurd ⟨before.reverse, segment, t, hr, hsegment⟩ h

end JsonTemplate.Expression
