import JsonTemplate.Proofs.Expression.Reading
import JsonTemplate.Proofs.Expression.Trimming
import Mathlib.Data.List.Basic

/-!
# Widened expressions

Blanks that are inserted next to the parentheses of a call, and spacing that is inserted next to its
commas, do not change what an expression says, as long as it still is an expression. Its path is
settled by what comes before the call; the segments before the call and those after it can be read
apart; and the arguments do not depend on the blanks.
-/

namespace JsonTemplate.Expression

open Text

variable {ts ts' : List Transform} {t : Transform} {s s' b b' A B p p' : List Char}

theorem Pipeline.append (h : Pipeline ts s) (h' : Pipeline ts' s') :
    Pipeline (ts ++ ts') (s ++ s') := by
  induction h with
  | nil => exact h'
  | cons hsegment _ ih =>
    rw [List.append_assoc]
    exact .cons hsegment ih

theorem Segment.pipeline (h : Segment t s) : Pipeline [t] s := by
  have hone := Pipeline.cons h .nil
  rwa [List.append_nil] at hone

theorem Segment.bar_mem (h : Segment t s) : '|' ∈ s := by
  cases h
  simp

theorem not_endsInSegment_of_blanks (hb : Within isBlank b) : ¬EndsInSegment b := by
  rintro ⟨p, segment, t, rfl, hsegment⟩
  cases hb '|' (List.mem_append_right p hsegment.bar_mem)

/-- Blanks before a pipeline do not change how it is read. -/
theorem Pipeline.transforms_eq (hs : Pipeline ts s) (hs' : Pipeline ts' s')
    (hb : Within isBlank b) (hb' : Within isBlank b') (h : b ++ s = b' ++ s') : ts = ts' := by
  have htake : ∀ {ts s b}, Pipeline ts s → Within isBlank b →
      ∃ r, takePipeline (b ++ s).length (b ++ s).reverse [] = (ts, r) := by
    intro ts s b hs hb
    obtain ⟨fuel, r, hr, -, htake⟩ := takePipeline_of_pipeline hs (p := b) (.inl rfl)
      (le_of_eq List.length_reverse) []
    have hnil : EndsOutside isBlank [] := startsOutside_reverse.mp startsOutside_nil
    obtain ⟨b', hb', hr'⟩ := hr.blanks (s := []) hnil hb
    have hlast : lastSegment? r = none :=
      lastSegment?_eq_none (hr' ▸ not_endsInSegment_of_blanks hb')
    exact ⟨r, by rw [htake, takePipeline_of_lastSegment? hlast, List.append_nil]⟩
  obtain ⟨r, htaken⟩ := htake hs hb
  obtain ⟨r', htaken'⟩ := htake hs' hb'
  rw [h] at htaken
  exact congrArg Prod.fst (htaken.symm.trans htaken')

theorem Pipeline.exists_core (h : Pipeline ts s) (hts : ts ≠ []) :
    ∃ core b, s = core ++ b ∧ core ≠ [] ∧ Pipeline ts core ∧ EndsOutside isBlank core ∧
      Within isBlank b := by
  induction h with
  | nil => exact absurd rfl hts
  | @cons t ts segment rest hsegment hrest ih =>
    by_cases hnil : ts = []
    · subst hnil
      cases hrest
      obtain ⟨core, b, newline, rfl, hcore, hend, hb, hnewline⟩ := hsegment.exists_core
      exact ⟨core, b ++ newline, List.append_nil _, hcore.ne_nil, hcore.pipeline, hend,
        within_isBlank_tail hb hnewline⟩
    · obtain ⟨core, b, rfl, hne, hcore, hend, hb⟩ := ih hnil
      exact ⟨segment ++ core, b, (List.append_assoc _ _ _).symm,
        List.append_ne_nil_of_right_ne_nil _ hne, .cons hsegment hcore,
        endsOutside_append hne hend, hb⟩

/-- Nor do blanks after it. -/
theorem Pipeline.transforms_eq_of_blanks (hs : Pipeline ts s) (hs' : Pipeline ts' s')
    (hts : ts ≠ []) (hts' : ts' ≠ []) (hb : Within isBlank b) (hb' : Within isBlank b')
    {w : List Char} (hw : Within isBlank w) (h : b ++ s ++ w = b' ++ s') : ts = ts' := by
  obtain ⟨core, u, rfl, hne, hcore, hend, hu⟩ := hs.exists_core hts
  obtain ⟨core', u', rfl, hne', hcore', hend', hu'⟩ := hs'.exists_core hts'
  have hcores : (b ++ core) ++ (u ++ w) = (b' ++ core') ++ u' := by
    simpa only [List.append_assoc] using h
  exact hcore.transforms_eq hcore' hb hb' (append_within_inj (endsOutside_append hne hend)
    (hu.append hw) (endsOutside_append hne' hend') hu' hcores)

/-- An opening parenthesis between the two texts belongs to a call: what comes before it would also
be the call without arguments, and what follows are the arguments, blanks and more segments. -/
inductive CallAt : List Transform → List Char → List Char → Prop where
  | mk {before after : List Transform} {name : String} {A raw blanks rest : List Char} :
      Pipeline (before ++ [⟨name, none⟩]) A → (∀ c ∈ raw, isParenthesis c = false) →
        Within isBlank blanks → Pipeline after rest →
          CallAt (before ++ ⟨name, some (readArgs raw)⟩ :: after) A (raw ++ ')' :: (blanks ++ rest))

theorem not_mem_of_isParenthesis {c : Char} (hc : isParenthesis c = true)
    (hs : ∀ c ∈ s, isParenthesis c = false) : c ∉ s := by
  intro hmem
  rw [hs c hmem] at hc
  cases hc

theorem CallAt.prepend (hs : Pipeline ts s) (h : CallAt ts' A B) :
    CallAt (ts ++ ts') (s ++ A) B := by
  obtain ⟨hcall, hraw, hblanks, hrest⟩ := h
  rw [← List.append_assoc]
  refine .mk ?_ hraw hblanks hrest
  rw [List.append_assoc]
  exact hs.append hcall

theorem CallAt.append (h : CallAt ts A B) (hs : Pipeline ts' s) :
    CallAt (ts ++ ts') A (B ++ s) := by
  obtain ⟨hcall, hraw, hblanks, hrest⟩ := h
  rw [List.append_assoc, List.append_assoc, List.cons_append, List.cons_append, List.append_assoc]
  exact .mk hcall hraw hblanks (hrest.append hs)

/-- A segment has no opening parenthesis but the one before its arguments. -/
theorem Segment.callAt (h : Segment t (A ++ '(' :: B)) : CallAt [t] A B := by
  generalize hs : A ++ '(' :: B = s at h
  obtain @⟨b₁, b₂, b₃, list, b₄, newline, h₁, h₂, hname, h₃, hlist, h₄, hnewline⟩ := h
  obtain ⟨name, args⟩ := t
  dsimp only at hname hlist
  have hblanks := within_isBlank_tail h₄ hnewline
  have hout : ∀ {b}, Within isBlank b → '(' ∉ b := by
    intro b hb hmem
    cases hb '(' hmem
  have hcalled : '(' ∉ b₁ ++ '|' :: (b₂ ++ name.toList ++ b₃) := by
    have hname : '(' ∉ name.toList := by
      intro hmem
      cases (isIdentifier_iff.mp hname).2 '(' hmem
    simp [hout h₁.isBlank, hout h₂.isBlank, hname, hout h₃.isBlank]
  cases hlist with
  | missing =>
    have hmem : '(' ∈ (b₁ ++ '|' :: (b₂ ++ name.toList ++ b₃)) ++ (b₄ ++ newline) := by
      have hshape : (b₁ ++ '|' :: (b₂ ++ name.toList ++ b₃)) ++ (b₄ ++ newline) =
          A ++ '(' :: B := by
        rw [hs]
        simp
      rw [hshape]
      simp
    rcases List.mem_append.mp hmem with hmem | hmem
    · exact absurd hmem hcalled
    · exact absurd hmem (hout hblanks)
  | @parens args raw hraw hargs =>
    have hrest : '(' ∉ raw ++ ')' :: (b₄ ++ newline) := by
      have hraw' := not_mem_of_isParenthesis (c := '(') rfl hraw
      have hblanks' := hout hblanks
      simp_all
    have hshape : (b₁ ++ '|' :: (b₂ ++ name.toList ++ b₃)) ++
        '(' :: (raw ++ ')' :: (b₄ ++ newline)) = A ++ '(' :: B := by
      rw [hs]
      simp
    obtain ⟨rfl, -, rfl⟩ := (List.append_cons_inj_of_notMem hcalled hrest).mp hshape
    have hsegment := Segment.mk (t := ⟨name, none⟩) h₁ h₂ hname h₃ .missing within_nil (.inl rfl)
    rw [List.append_nil, List.append_nil, List.append_nil] at hsegment
    have hcall := @CallAt.mk [] [] _ _ _ _ _ hsegment.pipeline hraw hblanks .nil
    rwa [List.append_nil, arguments_iff.mp hargs] at hcall

theorem Pipeline.callAt (h : Pipeline ts (A ++ '(' :: B)) : CallAt ts A B := by
  generalize hs : A ++ '(' :: B = s at h
  induction h generalizing A B with
  | nil => exact absurd hs (List.append_ne_nil_of_right_ne_nil _ (List.cons_ne_nil _ _))
  | @cons t ts segment rest hsegment hrest ih =>
    have hlater : ∀ A', A = segment ++ A' → A' ++ '(' :: B = rest → CallAt (t :: ts) A B := by
      rintro A' rfl hA'
      exact (ih hA').prepend hsegment.pipeline
    rcases List.append_eq_append_iff.mp hs with ⟨C, rfl, hC⟩ | ⟨C, hA, hC⟩
    · cases C with
      | nil => exact hlater [] (by simp) hC
      | cons c C =>
        obtain ⟨rfl, rfl⟩ := List.cons.inj hC
        exact hsegment.callAt.append hrest
    · exact hlater C hA hC.symm

/-- A call is the same in two texts if what comes before it is the same up to blanks at its two
ends, and what follows it is the same up to blanks at its start. -/
theorem CallAt.transforms_eq {raw raw' after w w' : List Char} {A' : List Char}
    (h : CallAt ts A (raw ++ ')' :: after)) (h' : CallAt ts' A' (raw' ++ ')' :: (w' ++ after)))
    (hb : Within isBlank b) (hb' : Within isBlank b') (hw : Within isBlank w)
    (hA : b ++ A ++ w = b' ++ A') (hraw : ∀ c ∈ raw, isParenthesis c = false)
    (hraw' : ∀ c ∈ raw', isParenthesis c = false) (hargs : readArgs raw' = readArgs raw)
    (hw' : Within isBlank w') : ts = ts' := by
  generalize hB : raw ++ ')' :: after = B at h
  generalize hB' : raw' ++ ')' :: (w' ++ after) = B' at h'
  obtain @⟨before, ts₂, name, A, raw₁, blanks, rest, hcall, hraw₁, hblanks, hrest⟩ := h
  obtain @⟨before', ts₂', name', A', raw₁', blanks', rest', hcall', hraw₁', hblanks', hrest'⟩ := h'
  have hclosed : ∀ {raw : List Char}, (∀ c ∈ raw, isParenthesis c = false) → ')' ∉ raw :=
    fun hraw => not_mem_of_isParenthesis rfl hraw
  obtain ⟨rfl, rfl⟩ := append_cons_inj (hclosed hraw) (hclosed hraw₁) hB
  obtain ⟨rfl, hafter⟩ := append_cons_inj (hclosed hraw') (hclosed hraw₁') hB'
  have hbefore : before ++ [⟨name, none⟩] = before' ++ [⟨name', none⟩] :=
    hcall.transforms_eq_of_blanks hcall' (by simp) (by simp) hb hb' hw hA
  have hlater : ts₂ = ts₂' := by
    rw [← List.append_assoc] at hafter
    exact hrest.transforms_eq hrest' (hw'.append hblanks) hblanks' hafter
  obtain ⟨rfl, hname⟩ := List.append_inj' hbefore rfl
  obtain ⟨rfl, -⟩ : name = name' ∧ True := by simpa using hname
  rw [hargs, hlater]

/-- Bars outside of brackets and quotes end a path. -/
theorem not_balanced_of_bar (h : Balanced none p) (s : List Char) : ¬Balanced none (p ++ '|' :: s) := by
  intro hbar
  have hcheck := checkBalance_iff.mpr hbar
  rw [checkBalance_append h rfl] at hcheck
  cases hcheck

theorem balanced_of_blanks (hb : Within isBlank b) : Balanced none b := by
  induction b with
  | nil => exact .nil
  | cons c b ih =>
    obtain ⟨hc, hb⟩ := List.forall_mem_cons.mp hb
    have hne : ∀ d, isBlank d = false → c ≠ d := by
      rintro d hd rfl
      rw [hc] at hd
      cases hd
    refine .plain ?_ ?_ nofun (fun hbar => absurd hbar (hne '|' rfl)) (ih hb)
    · simp [isQuote, hne '\'' rfl, hne '"' rfl]
    · simp [closerOf?, hne '[' rfl, hne '(' rfl]

theorem Balanced.append_blanks (h : Balanced none p) (hb : Within isBlank b) :
    Balanced none (p ++ b) := by
  apply checkBalance_iff.mp
  rw [checkBalance_append h rfl]
  exact checkBalance_iff.mpr (balanced_of_blanks hb)

/-- A text has one place where a balanced part ends and a bar or nothing follows, if a bar follows
at all. -/
theorem eq_of_balanced_of_bar (hp : Balanced none p) (hp' : Balanced none p') {u : List Char}
    (hu : ∀ c ∈ u.head?, c = '|') (h : p ++ '|' :: s = p' ++ u) : p = p' := by
  rcases List.append_eq_append_iff.mp h with ⟨C, rfl, hC⟩ | ⟨C, rfl, hC⟩
  · cases C with
    | nil => exact (List.append_nil p).symm
    | cons c C =>
      obtain ⟨rfl, -⟩ := List.cons.inj hC
      exact absurd hp' (not_balanced_of_bar hp C)
  · cases C with
    | nil => exact List.append_nil p'
    | cons c C =>
      obtain rfl : c = '|' := hu c (by rw [hC]; rfl)
      exact absurd hp (not_balanced_of_bar hp' C)

/-- A pipeline starts with a bar, after some spacing. -/
theorem Pipeline.exists_bar (h : Pipeline ts s) :
    ∃ b u, Within isSpacing b ∧ s = b ++ u ∧ (∀ c ∈ u.head?, c = '|') ∧ (u = [] → ts = []) := by
  cases h with
  | nil => exact ⟨[], [], within_nil, rfl, nofun, fun _ => rfl⟩
  | cons hsegment hrest =>
    obtain @⟨b₁, b₂, b₃, list, b₄, newline, h₁, -⟩ := hsegment
    refine ⟨b₁, _, h₁, List.append_assoc _ _ _, ?_, fun h => (List.cons_ne_nil _ _ h).elim⟩
    intro c hc
    exact (Option.some.inj hc).symm

/-- The path of a text ends where its pipeline starts, and both are settled by the beginning of the
text up to some segments of the pipeline. -/
theorem PathText.eq_of_pipeline {path path' : List Char} (hpath : PathText path)
    (hpath' : PathText path') (hs : Pipeline ts s) (hts : ts ≠ []) (hs' : Pipeline ts' s')
    (hb : Within isBlank b) (hb' : Within isBlank b') (more : List Char)
    (h : path ++ b ++ s ++ more = path' ++ b' ++ s') : path = path' := by
  obtain ⟨b₁, u, h₁, rfl, hu, hnil⟩ := hs.exists_bar
  obtain ⟨b₁', u', h₁', rfl, hu', -⟩ := hs'.exists_bar
  obtain ⟨c, u, rfl⟩ := List.exists_cons_of_ne_nil (mt hnil hts)
  obtain rfl : c = '|' := hu c rfl
  have hblanks := hb.append h₁.isBlank
  have hblanks' := hb'.append h₁'.isBlank
  have hbar : (path ++ (b ++ b₁)) ++ '|' :: (u ++ more) = (path' ++ (b' ++ b₁')) ++ u' := by
    simpa only [List.append_assoc, List.cons_append] using h
  have heq := eq_of_balanced_of_bar (hpath.balanced.append_blanks hblanks)
    (hpath'.balanced.append_blanks hblanks') hu' hbar
  exact append_within_inj hpath.ends hblanks hpath'.ends hblanks' heq

/-- The second text is the first one, with more blanks next to the parentheses of a call and more
spacing next to its commas. The call comes after the given start. -/
inductive Widened (start : List Char) : List Char → List Char → Prop where
  | mk {before raw raw' after w₁ w₂ w₃ w₄ : List Char} :
      start <+: before → (∀ c ∈ raw, isParenthesis c = false) → Loosened raw raw' →
        Within isBlank w₁ → Within isBlank w₂ → Within isBlank w₃ → Within isBlank w₄ →
          Widened start (before ++ '(' :: (raw ++ ')' :: after))
            (before ++ w₁ ++ '(' :: (w₂ ++ raw' ++ w₃ ++ ')' :: (w₄ ++ after)))

def stem (e : Expression) : List Char :=
  '$' :: (e.input.toList ++ e.path.toList)

theorem Reading.exists_call {e : Expression} {text : String} (h : Reading e text)
    (htext : text.toList = p ++ '(' :: B) (hp : e.stem <+: p) :
    ∃ b A, Within isBlank b ∧ p = e.stem ++ b ++ A ∧ CallAt e.transforms A B := by
  obtain ⟨b, pipeline, hb, hpipeline, hspelled⟩ := h.spelled
  obtain ⟨q, rfl⟩ := hp
  have hrest : q ++ '(' :: B = b ++ pipeline := by
    apply @List.append_cancel_left _ e.stem
    rw [← List.append_assoc, ← htext, hspelled]
    simp [stem]
  rcases List.append_eq_append_iff.mp hrest with ⟨C, rfl, hC⟩ | ⟨C, rfl, hC⟩
  · cases C with
    | nil =>
      obtain rfl : '(' :: B = pipeline := hC
      rw [List.append_nil] at hb
      exact ⟨q, [], hb, (List.append_nil _).symm, hpipeline.callAt (A := [])⟩
    | cons c C =>
      obtain ⟨rfl, -⟩ := List.cons.inj hC
      cases hb '(' (List.mem_append_right q List.mem_cons_self)
  · exact ⟨b, C, hb, (List.append_assoc _ _ _).symm, (hC ▸ hpipeline).callAt⟩

theorem CallAt.exists_pipeline (h : CallAt ts A B) : ∃ ts', ts' ≠ [] ∧ Pipeline ts' A := by
  cases h with
  | mk hcall => exact ⟨_, by simp, hcall⟩

/-- The beginning of a text up to some segments settles the input and the path. -/
theorem Reading.stem_eq {e e' : Expression} {text text' : String} (h : Reading e text)
    (h' : Reading e' text') (hb : Within isBlank b) (hs : Pipeline ts s) (hts : ts ≠ [])
    {more more' : List Char} (htext : text.toList = e.stem ++ b ++ s ++ more)
    (htext' : text'.toList = e.stem ++ b ++ s ++ more') :
    e'.input = e.input ∧ e'.path = e.path := by
  obtain ⟨b', pipeline', hb', hpipeline', hspelled'⟩ := h'.spelled
  have hinput : e'.input = e.input := by
    have hbar : '|' ∈ e.input.toList ++ e.path.toList ++ b ++ s := by
      obtain ⟨b₁, u, -, rfl, hu, hnil⟩ := hs.exists_bar
      obtain ⟨c, u, rfl⟩ := List.exists_cons_of_ne_nil (mt hnil hts)
      obtain rfl : c = '|' := hu c rfl
      simp
    have hcut : ∀ {text : String} {more}, text.toList = e.stem ++ b ++ s ++ more →
        text.toList.tail.takeWhile isWord =
          (e.input.toList ++ e.path.toList ++ b ++ s).takeWhile isWord := by
      intro text more htext
      rw [htext]
      exact takeWhile_append_of_mem hbar rfl more
    apply String.toList_inj.mp
    rw [h'.input, h.input, hcut htext, hcut htext']
  refine ⟨hinput, String.toList_inj.mp ?_⟩
  refine (h.path.eq_of_pipeline h'.path hs hts hpipeline' hb hb' more' ?_).symm
  rw [htext', hinput] at hspelled'
  simpa [stem] using hspelled'

theorem Widened.reading_eq {e e' : Expression} {text text' : String}
    (hw : Widened e.stem text.toList text'.toList) (h : Reading e text) (h' : Reading e' text') :
    e' = e := by
  generalize htext : text.toList = s, htext' : text'.toList = s' at hw
  obtain @⟨before, raw, raw', after, w₁, w₂, w₃, w₄, hstart, hraw, hloosened, h₁, h₂, h₃, h₄⟩ := hw
  obtain ⟨b, A, hb, rfl, hcall⟩ := h.exists_call htext hstart
  obtain ⟨ts, hts, hpipeline⟩ := hcall.exists_pipeline
  obtain ⟨hinput, hpath⟩ := h.stem_eq h' hb hpipeline hts htext
    (htext'.trans (by simp only [List.append_assoc]; rfl))
  have hstem : e'.stem = e.stem := by
    unfold stem
    rw [hinput, hpath]
  obtain ⟨b', A', hb', hbefore, hcall'⟩ := h'.exists_call htext'
    (by simp only [hstem, List.append_assoc]; exact List.prefix_append _ _)
  have hblanks : ∀ {w : List Char}, Within isBlank w → ∀ c ∈ w, isParenthesis c = false :=
    fun hw c hc => isParenthesis_of_isBlank (hw c hc)
  have hraw' : ∀ c ∈ w₂ ++ raw' ++ w₃, isParenthesis c = false :=
    List.forall_mem_append.mpr ⟨List.forall_mem_append.mpr
      ⟨hblanks h₂, hloosened.isParenthesis hraw⟩, hblanks h₃⟩
  have hargs : readArgs (w₂ ++ raw' ++ w₃) = readArgs raw := by
    rw [readArgs_of_blanks h₂ h₃, hloosened.readArgs]
  have hA : b ++ A ++ w₁ = b' ++ A' := by
    apply @List.append_cancel_left _ e.stem
    simpa only [hstem, List.append_assoc] using hbefore
  have htransforms := hcall.transforms_eq hcall' hb hb' h₁ hA hraw hraw' hargs h₄
  rcases e with ⟨input, path, transforms⟩
  rcases e' with ⟨input', path', transforms'⟩
  dsimp only at hinput hpath htransforms
  rw [hinput, hpath, htransforms]

theorem Pipeline.exists_arguments (h : Pipeline ts s) (ht : t ∈ ts) {args : List String}
    (hargs : t.args = some args) : ∃ raw, raw ⊆ s ∧ Arguments args raw := by
  induction h with
  | nil => cases ht
  | @cons t' ts segment rest hsegment _ ih =>
    rcases List.mem_cons.mp ht with rfl | ht
    · obtain @⟨b₁, b₂, b₃, list, b₄, newline, -, -, -, -, hlist, -, -⟩ := hsegment
      rw [hargs] at hlist
      cases hlist with
      | parens _ harguments =>
        refine ⟨_, fun c hc => ?_, harguments⟩
        simp [hc]
    · obtain ⟨raw, hraw, harguments⟩ := ih ht
      exact ⟨raw, fun c hc => List.mem_append_right segment (hraw hc), harguments⟩

/-- The arguments of an expression are trimmed of spacing, and at the ends of their list of blanks.
More blanks next to a parenthesis and more spacing next to a comma do not change the expression, as
long as it still is one. -/
theorem parse_trims_arguments {text : String} {e : Expression} (h : parse text = .ok (some e)) :
    (∀ t ∈ e.transforms, ∀ args ∈ t.args, TrimmedList args ∧
      ((∀ c ∈ text.toList, isBlank c = true → isSpacing c = true) →
        ∀ a ∈ args, Trimmed isBlank a)) ∧
    ∀ (text' : String) (e' : Expression), Widened e.stem text.toList text'.toList →
      parse text' = .ok (some e') → e' = e := by
  have hread : ∀ {text e}, parse text = .ok (some e) → Reading e text := by
    intro text e h
    rcases (parse_sound text).2 with hnone | ⟨flaw, hflaw, -⟩ | ⟨e', he', hreading⟩
    · cases h.symm.trans hnone
    · cases h.symm.trans hflaw
    · cases h.symm.trans he'
      exact hreading
  constructor
  · intro t ht args hargs
    obtain ⟨b, pipeline, -, hpipeline, hspelled⟩ := (hread h).spelled
    obtain ⟨raw, hraw, harguments⟩ := hpipeline.exists_arguments ht hargs
    have hsubset : raw ⊆ text.toList := by
      intro c hc
      rw [hspelled]
      simp [hraw hc]
    refine ⟨harguments.trimmedList, fun hblank a ha => ?_⟩
    exact (harguments.trimmedList.each a ha).isBlank fun c hc =>
      hblank c (hsubset (harguments.subset a ha hc))
  · intro text' e' hw h'
    exact hw.reading_eq (hread h) (hread h')

def calling (first second : String) : Expression :=
  ⟨"x", "", [⟨"f", some [first, second]⟩]⟩

/-- With a tab before the parentheses, a line end and a blank inside, and spacing at the comma. -/
theorem parse_trims_calling :
    parse "$x | f( a,b)" = .ok (some (calling "a" "b")) ∧
      TrimmedList ["a", "b"] ∧
      ∃ e, parse "$x | f\t(\n a\t, b ) " = .ok (some e) ∧ e = calling "a" "b" := by
  have hparse : parse "$x | f( a,b)" = .ok (some (calling "a" "b")) := rfl
  obtain ⟨htrimmed, hwidened⟩ := parse_trims_arguments hparse
  have hcall := (htrimmed ⟨"f", some ["a", "b"]⟩ List.mem_cons_self _ rfl).1
  refine ⟨hparse, hcall, _, rfl, hwidened "$x | f\t(\n a\t, b ) " _ ?_ rfl⟩
  have hstart : (calling "a" "b").stem <+: "$x | f".toList := ⟨" | f".toList, rfl⟩
  have hraw : ∀ c ∈ " a,b".toList, isParenthesis c = false := by simp [isParenthesis]
  have hloosened : Loosened " a,b".toList " a\t, b".toList :=
    @Loosened.comma [' ', 'a'] ['b'] ['b'] ['\t'] [' '] (by decide) (by decide) (.same ['b'])
  exact @Widened.mk _ _ _ _ [] ['\t'] ['\n'] [' '] [' '] hstart hraw hloosened (by decide)
    (by decide) (by decide) (by decide)

/-- A line end after a comma is a part of the argument that follows. -/
theorem parse_keeps_newline :
    parse "$x | f(a,b)" = .ok (some (calling "a" "b")) ∧
      parse "$x | f(a,\nb)" = .ok (some (calling "a" "\nb")) ∧
      ¬ Trimmed isBlank "\nb" := by
  have htrimmed : ¬ Trimmed isBlank "\nb" := by
    rintro ⟨hstart, -⟩
    cases hstart '\n' rfl
  exact ⟨rfl, rfl, htrimmed⟩

end JsonTemplate.Expression
