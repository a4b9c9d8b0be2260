import JsonTemplate.Proofs.Expression.Reading

/-!
# Spaced expressions

An expression can be written with spacing around its bars, commas and parentheses. However that is
done, a well-formed expression is what the text is parsed as.
-/

namespace JsonTemplate

open Text

structure Expression.IsArgument (a : String) : Prop where
  no_opening : '(' ∉ a.toList
  no_closing : ')' ∉ a.toList
  no_comma : ',' ∉ a.toList
  starts : StartsOutside isBlank a.toList
  ends : EndsOutside isBlank a.toList

/-- A single empty argument cannot be told from no argument. -/
structure Transform.WellFormed (t : Transform) : Prop where
  name : isIdentifier t.name.toList = true
  args : ∀ args ∈ t.args, args ≠ [""] ∧ ∀ a ∈ args, Expression.IsArgument a

/-- A path that ends in `)` could end in what looks like a transform. -/
structure Expression.WellFormed (e : Expression) : Prop where
  input : Within isWord e.input.toList
  path : readPath e.path.toList = .ok e.path.toList
  last : EndsOutside (· == ')') e.path.toList
  transforms : ∀ t ∈ e.transforms, t.WellFormed

namespace Expression

theorem IsArgument.isPiece {a : String} (h : IsArgument a) : IsPiece a where
  no_comma := h.no_comma
  starts := h.starts.mono fun _ hc => isBlank_of_isSpacing hc
  ends := h.ends.mono fun _ hc => isBlank_of_isSpacing hc

theorem IsArgument.isParenthesis {a : String} (h : IsArgument a) {c : Char} (hc : c ∈ a.toList) :
    isParenthesis c = false := by
  simp only [Expression.isParenthesis, Bool.or_eq_false_iff, beq_eq_false_iff_ne]
  constructor
  · rintro rfl
    exact h.no_opening hc
  · rintro rfl
    exact h.no_closing hc

inductive SpacedCall : Option (List String) → List Char → Prop where
  | missing : SpacedCall none []
  | empty {b₁ b₂ : List Char} :
      Within isSpacing b₁ → Within isSpacing b₂ → SpacedCall (some []) (b₁ ++ '(' :: (b₂ ++ [')']))
  | listed {args : List String} {b s : List Char} :
      Within isSpacing b → Spread args s → SpacedCall (some args) (b ++ '(' :: (s ++ [')']))

inductive SpacedPipeline : List Transform → List Char → Prop where
  | nil {b : List Char} : Within isSpacing b → SpacedPipeline [] b
  | cons {t : Transform} {ts : List Transform} {b₁ b₂ call rest : List Char} :
      Within isSpacing b₁ → Within isSpacing b₂ → SpacedCall t.args call →
        SpacedPipeline ts rest →
          SpacedPipeline (t :: ts) (b₁ ++ '|' :: (b₂ ++ t.name.toList ++ call ++ rest))

/-- The text is the expression, written with any spacing where spacing may stand. -/
def Spaced (e : Expression) (text : String) : Prop :=
  ∃ pipeline, SpacedPipeline e.transforms pipeline ∧
    text.toList = '$' :: (e.input.toList ++ e.path.toList ++ pipeline)

theorem Spread.trimStart {args : List String} {s : List Char} (h : Spread args s)
    (hargs : ∀ a ∈ args, IsArgument a) :
    ∃ b core, Within isSpacing b ∧ s = b ++ core ∧ Spread args core ∧
      StartsOutside isBlank core := by
  -- An empty first argument leaves the spacing on its right at the start.
  have hstart : ∀ {a : String} {b₁ b₂ rest : List Char}, IsArgument a → Within isSpacing b₁ →
      Within isSpacing b₂ → StartsOutside isBlank rest →
        ∃ b b', Within isSpacing b ∧ Within isSpacing b' ∧
          b₁ ++ a.toList ++ b₂ = b ++ ([] ++ a.toList ++ b') ∧
            StartsOutside isBlank ([] ++ a.toList ++ b' ++ rest) := by
    intro a b₁ b₂ rest ha h₁ h₂ hrest
    cases hcs : a.toList with
    | nil =>
      exact ⟨b₁ ++ b₂, [], h₁.append h₂, within_nil, by simp, hrest⟩
    | cons c cs =>
      have hc := ha.starts
      rw [hcs] at hc
      exact ⟨b₁, b₂, h₁, h₂, by simp, startsOutside_cons.mpr (startsOutside_cons.mp hc)⟩
  cases h with
  | last h₁ h₂ =>
    obtain ⟨b, b', hb, hb', heq, hout⟩ :=
      hstart (hargs _ List.mem_cons_self) h₁ h₂ startsOutside_nil
    rw [List.append_nil] at hout
    exact ⟨b, _, hb, heq, .last within_nil hb', hout⟩
  | @cons a args b₁ b₂ s h₁ h₂ hs =>
    have hcomma : StartsOutside isBlank (',' :: s) := startsOutside_cons.mpr rfl
    obtain ⟨b, b', hb, hb', heq, hout⟩ := hstart (hargs _ List.mem_cons_self) h₁ h₂ hcomma
    refine ⟨b, _, hb, ?_, .cons within_nil hb' hs, hout⟩
    rw [heq, List.append_assoc]

theorem Spread.trimEnd {args : List String} {s : List Char} (h : Spread args s)
    (hargs : ∀ a ∈ args, IsArgument a) :
    ∃ core b, Within isSpacing b ∧ s = core ++ b ∧ Spread args core ∧ EndsOutside isBlank core := by
  induction h with
  | @last a b₁ b₂ h₁ h₂ =>
    have ha := hargs a List.mem_cons_self
    by_cases hne : a.toList = []
    · refine ⟨[] ++ a.toList ++ [], b₁ ++ b₂, h₁.append h₂, by simp [hne],
        .last within_nil within_nil, ?_⟩
      rw [hne]
      exact startsOutside_reverse.mp startsOutside_nil
    · refine ⟨b₁ ++ a.toList ++ [], b₂, h₂, by simp, .last h₁ within_nil, ?_⟩
      rw [List.append_nil]
      exact endsOutside_append hne ha.ends
  | @cons a args b₁ b₂ s h₁ h₂ _ ih =>
    obtain ⟨core, b, hb, rfl, hcore, hend⟩ := ih fun a ha => hargs a (List.mem_cons_of_mem _ ha)
    refine ⟨_, b, hb, ?_, .cons h₁ h₂ hcore, ?_⟩
    · simp only [List.append_assoc, List.cons_append]
    · apply endsOutside_append (List.cons_ne_nil _ _)
      cases core with
      | nil =>
        intro c hc
        cases hc
        rfl
      | cons c core => exact endsOutside_append (s := [',']) (List.cons_ne_nil _ _) hend

theorem Spread.eq_of_nil {args : List String} (h : Spread args []) : args = [""] := by
  generalize hs : [] = s at h
  cases h with
  | @last a b₁ b₂ =>
    have ha : a.toList = [] := by
      have hnil := List.append_eq_nil_iff.mp hs.symm
      exact (List.append_eq_nil_iff.mp hnil.1).2
    rw [← String.ofList_toList (s := a), ha]
  | cons => exact absurd hs.symm (List.append_ne_nil_of_right_ne_nil _ (List.cons_ne_nil _ _))

theorem Spread.arguments {args : List String} {s : List Char} (h : Spread args s)
    (hargs : ∀ a ∈ args, IsArgument a) (hne : args ≠ [""]) : Arguments args s := by
  obtain ⟨b, core, hb, rfl, hcore, hstart⟩ := h.trimStart hargs
  obtain ⟨core, b', hb', rfl, hcore, hend⟩ := hcore.trimEnd hargs
  rw [← List.append_assoc]
  refine .listed hb.isBlank hb'.isBlank ?_ ?_ hend hcore fun a ha => (hargs a ha).isPiece
  · rintro rfl
    exact hne hcore.eq_of_nil
  · cases core with
    | nil => exact startsOutside_nil
    | cons c core => exact startsOutside_cons.mpr (startsOutside_cons.mp hstart)

theorem Spread.isParenthesis {args : List String} {s : List Char} (h : Spread args s)
    (hargs : ∀ a ∈ args, IsArgument a) : ∀ c ∈ s, isParenthesis c = false := by
  have hpart : ∀ {a : String} {b₁ b₂ : List Char}, IsArgument a → Within isSpacing b₁ →
      Within isSpacing b₂ → ∀ c ∈ b₁ ++ a.toList ++ b₂, Expression.isParenthesis c = false := by
    intro a b₁ b₂ ha h₁ h₂ c hc
    rcases List.mem_append.mp hc with hc | hc
    · rcases List.mem_append.mp hc with hc | hc
      · exact isParenthesis_of_isSpacing (h₁ c hc)
      · exact ha.isParenthesis hc
    · exact isParenthesis_of_isSpacing (h₂ c hc)
  induction h with
  | last h₁ h₂ => exact hpart (hargs _ List.mem_cons_self) h₁ h₂
  | @cons a args b₁ b₂ s h₁ h₂ _ ih =>
    intro c hc
    rcases List.mem_append.mp hc with hc | hc
    · exact hpart (hargs _ List.mem_cons_self) h₁ h₂ c hc
    · rcases List.mem_cons.mp hc with rfl | hc
      · rfl
      · exact ih (fun a ha => hargs a (List.mem_cons_of_mem _ ha)) c hc

theorem SpacedCall.argumentList {args : Option (List String)} {s : List Char}
    (h : SpacedCall args s)
    (hargs : ∀ list ∈ args, list ≠ [""] ∧ ∀ a ∈ list, IsArgument a) :
    ∃ b list, Within isSpacing b ∧ s = b ++ list ∧ ArgumentList args list := by
  cases h with
  | missing => exact ⟨[], [], within_nil, rfl, .missing⟩
  | empty h₁ h₂ =>
    refine ⟨_, _, h₁, rfl, .parens (fun c hc => isParenthesis_of_isSpacing (h₂ c hc)) ?_⟩
    exact .empty h₂.isBlank
  | listed hb hspread =>
    obtain ⟨hne, hall⟩ := hargs _ rfl
    exact ⟨_, _, hb, rfl, .parens (hspread.isParenthesis hall) (hspread.arguments hall hne)⟩

/-- The spacing in front of a bar belongs to the segment before it. -/
theorem SpacedPipeline.exists_pipeline {ts : List Transform} {s : List Char}
    (h : SpacedPipeline ts s) (hts : ∀ t ∈ ts, t.WellFormed) :
    ∃ b pipeline, Within isSpacing b ∧ s = b ++ pipeline ∧ Pipeline ts pipeline := by
  induction h with
  | nil hb => exact ⟨_, [], hb, (List.append_nil _).symm, .nil⟩
  | @cons t ts b₁ b₂ call rest h₁ h₂ hcall _ ih =>
    obtain ⟨b₄, pipeline, h₄, rfl, hpipeline⟩ := ih fun t ht => hts t (List.mem_cons_of_mem _ ht)
    have ht := hts t List.mem_cons_self
    obtain ⟨b₃, list, h₃, rfl, hlist⟩ := hcall.argumentList ht.args
    have hsegment := Segment.mk h₁ h₂ ht.name h₃ hlist h₄ (.inl rfl)
    refine ⟨[], _, within_nil, ?_, .cons hsegment hpipeline⟩
    simp only [List.append_assoc, List.cons_append, List.nil_append]

theorem SpacedPipeline.startsOutside_isWord {ts : List Transform} {s : List Char}
    (h : SpacedPipeline ts s) : StartsOutside isWord s := by
  cases h with
  | nil hb =>
    have hout := startsOutside_append (t := []) (fun c hc => isWord_of_isSpacing (hb c hc))
      fun _ => startsOutside_nil
    rwa [List.append_nil] at hout
  | cons h₁ =>
    exact startsOutside_append (fun c hc => isWord_of_isSpacing (h₁ c hc))
      fun _ => startsOutside_cons.mpr rfl

theorem isMark_of_isSpacing {c : Char} (h : isSpacing c = true) : isMark c = false := by
  rcases eq_of_isSpacing h with rfl | rfl <;> rfl

theorem isMark_of_isWord {c : Char} (h : isWord c = true) : isMark c = false := by
  simp only [isMark, isQuote, Bool.or_eq_false_iff, decide_eq_false_iff_not]
  refine ⟨⟨⟨⟨⟨?_, ?_⟩, ?_⟩, ?_⟩, ?_⟩, ?_⟩ <;> rintro rfl <;> cases h

/-- A path that does not end in `)` does not end in a segment: after the bar of that segment, no
character closes what is open at the bar. -/
theorem WellFormed.not_endsInSegment {e : Expression} (h : e.WellFormed) :
    ¬EndsInSegment e.path.toList := by
  rintro ⟨p, segment, t, hpath, hsegment⟩
  have hends := (pathText_of_readPath h.path).1.ends
  have hbalance := checkBalance_iff.mpr (pathText_of_readPath h.path).1.balanced
  have hlast := h.last
  rw [hpath] at hends hbalance hlast
  obtain @⟨b₁, b₂, b₃, list, b₄, newline, h₁, h₂, hname, h₃, hlist, h₄, hnewline⟩ := hsegment
  have hshape : p ++ (b₁ ++ '|' :: (b₂ ++ t.name.toList ++ b₃ ++ list ++ b₄ ++ newline)) =
      (p ++ b₁ ++ '|' :: (b₂ ++ t.name.toList ++ b₃ ++ list)) ++ (b₄ ++ newline) := by
    simp only [List.append_assoc, List.cons_append]
  rw [hshape] at hends hbalance hlast
  rw [eq_nil_of_endsOutside hends (within_isBlank_tail h₄ hnewline), List.append_nil] at hbalance hlast
  generalize t.args = args at hlist
  cases hlist with
  | missing =>
    refine checkBalance_bar_ne_ok (fun c hc => ?_) (p ++ b₁)
      ⟨fun _ hq => (Option.not_mem_none _ hq).elim, fun _ hd => (List.not_mem_nil hd).elim⟩ hbalance
    rw [List.append_nil] at hc
    rcases List.mem_append.mp hc with hc | hc
    · rcases List.mem_append.mp hc with hc | hc
      · exact isMark_of_isSpacing (h₂ c hc)
      · exact isMark_of_isWord ((isIdentifier_iff.mp hname).2 c hc)
    · exact isMark_of_isSpacing (h₃ c hc)
  | @parens args raw =>
    have hclosed : ')' ∈ (p ++ b₁ ++ '|' :: (b₂ ++ t.name.toList ++ b₃ ++
        '(' :: (raw ++ [')']))).getLast? := by
      simp [List.getLast?_cons]
    cases hlast ')' hclosed

theorem reading_of_spaced {e : Expression} {text : String} (he : e.WellFormed)
    (h : Spaced e text) : Reading e text := by
  obtain ⟨s, hs, htext⟩ := h
  obtain ⟨b, pipeline, hb, rfl, hpipeline⟩ := hs.exists_pipeline he.transforms
  have hpath := (pathText_of_readPath he.path).1
  refine ⟨?_, hpath, b, pipeline, hb.isBlank, hpipeline, ?_⟩
  · have hout : StartsOutside isWord (e.path.toList ++ (b ++ pipeline)) := by
      rcases hpath.start with hnil | ⟨c, path, hcons, hc⟩
      · rw [hnil]
        exact hs.startsOutside_isWord
      · rw [hcons]
        rcases hc with rfl | rfl <;> exact startsOutside_cons.mpr rfl
    rw [htext, List.tail_cons, List.append_assoc, takeWhile_append he.input hout]
  · rw [htext]
    simp only [List.append_assoc]

/-- A well-formed expression is read back from every text that it is written as. -/
theorem parse_of_spaced {e : Expression} {text : String} (he : e.WellFormed) (h : Spaced e text) :
    parse text = .ok (some e) := by
  have hreading := reading_of_spaced he h
  obtain ⟨pipeline, -, htext⟩ := h
  rw [parse_of_cons htext, parseChars_of_reading hreading he.not_endsInSegment htext]
  rfl

def sample : Expression :=
  ⟨"x", ".a['b|c']", [⟨"f", none⟩, ⟨"f", some []⟩, ⟨"g", some ["", "a|b c", ""]⟩]⟩

theorem sample_wellFormed : sample.WellFormed where
  input := by decide
  path := rfl
  last := by decide
  transforms := by
    have hf : ∀ args, args = none ∨ args = some [] → Transform.WellFormed ⟨"f", args⟩ := by
      rintro args (rfl | rfl)
      · exact ⟨by decide, by simp⟩
      · exact ⟨by decide, by simp⟩
    have hempty : IsArgument "" := ⟨by decide, by decide, by decide, by decide, by decide⟩
    have hg : Transform.WellFormed ⟨"g", some ["", "a|b c", ""]⟩ := by
      refine ⟨by decide, ?_⟩
      rintro _ ⟨⟩
      refine ⟨by decide, List.forall_mem_cons.mpr ⟨hempty, List.forall_mem_cons.mpr ⟨?_, ?_⟩⟩⟩
      · exact ⟨by decide, by decide, by decide, by decide, by decide⟩
      · exact List.forall_mem_singleton.mpr hempty
    exact List.forall_mem_cons.mpr ⟨hf _ (.inl rfl), List.forall_mem_cons.mpr
      ⟨hf _ (.inr rfl), List.forall_mem_singleton.mpr hg⟩⟩

theorem sample_spaced :
    Spaced sample "$x.a['b|c'] \t| f|f ( ) |\tg\t( , a|b c ,\t) " := by
  have hspace : Within isSpacing [' '] := by decide
  have htab : Within isSpacing ['\t'] := by decide
  have hboth : Within isSpacing [' ', '\t'] := by decide
  have hlist : Spread ["", "a|b c", ""] (" , a|b c ,\t").toList :=
    .cons hspace within_nil (.cons hspace hspace (.last htab within_nil))
  exact ⟨_, .cons hboth hspace .missing (.cons within_nil within_nil (.empty hspace hspace)
    (.cons hspace htab (.listed htab hlist) (.nil hspace))), rfl⟩

theorem parse_sample : sample.WellFormed ∧
    Spaced sample "$x.a['b|c'] \t| f|f ( ) |\tg\t( , a|b c ,\t) " ∧
      parse "$x.a['b|c'] \t| f|f ( ) |\tg\t( , a|b c ,\t) " = .ok (some sample) :=
  ⟨sample_wellFormed, sample_spaced, parse_of_spaced sample_wellFormed sample_spaced⟩

end Expression

end JsonTemplate
