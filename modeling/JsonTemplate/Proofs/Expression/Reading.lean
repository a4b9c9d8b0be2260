import JsonTemplate.Evaluation.Template
import JsonTemplate.Proofs.Expression.Balance
import JsonTemplate.Proofs.Expression.Pipeline

/-!
# Readings of a text

A `Reading` says how a text is spelled by an expression, with every character accounted for. What
parsing a text gives is a reading of it, and a text is parsed as what it is a reading of, unless the
end of the path could be taken for a transform.
-/

namespace JsonTemplate.Expression

open Text

structure PathText (path : List Char) : Prop where
  start : path = [] ∨ ∃ c s, path = c :: s ∧ (c = '.' ∨ c = '[')
  ends : EndsOutside isBlank path
  balanced : Balanced none path

theorem pathText_of_readPath {s path : List Char} (h : readPath s = .ok path) :
    PathText path ∧ ∃ blanks, Within isBlank blanks ∧ s = path ++ blanks := by
  obtain ⟨blanks, hblanks, hs⟩ := eq_dropWhileEnd_append isBlank s
  have hends := endsOutside_dropWhileEnd isBlank s
  change readPath s = .ok path at h
  unfold readPath trimEnd at h
  generalize dropWhileEnd isBlank s = found at h hs hends
  cases found with
  | nil =>
    cases h
    exact ⟨⟨.inl rfl, hends, .nil⟩, blanks, hblanks, hs⟩
  | cons c rest =>
    dsimp only at h
    split at h
    · next hstart =>
      cases hbalance : checkBalance none [] (c :: rest) with
      | error flaw =>
        rw [hbalance] at h
        cases h
      | ok u =>
        rw [hbalance] at h
        cases h
        refine ⟨⟨.inr ⟨c, rest, rfl, ?_⟩, hends, checkBalance_iff.mp hbalance⟩, blanks, hblanks, hs⟩
        simpa using hstart
    · cases h

theorem PathText.readPath {path : List Char} (h : PathText path) {blanks : List Char}
    (hblanks : Within isBlank blanks) : readPath (path ++ blanks) = .ok path := by
  unfold Expression.readPath trimEnd
  rw [dropWhileEnd_append h.ends hblanks]
  rcases h.start with rfl | ⟨c, s, rfl, hc⟩
  · rfl
  · dsimp only
    rw [if_pos (by simpa using hc), checkBalance_iff.mpr h.balanced]
    rfl

/-- The text is a `$` and then the name, the path, blanks and the segments of the expression. -/
structure Reading (e : Expression) (text : String) : Prop where
  input : e.input.toList = text.toList.tail.takeWhile isWord
  path : PathText e.path.toList
  spelled : ∃ blanks pipeline, Within isBlank blanks ∧ Pipeline e.transforms pipeline ∧
    text.toList = '$' :: (e.input.toList ++ e.path.toList ++ blanks ++ pipeline)

theorem reading_of_parseChars {s : List Char} {e : Expression} (h : parseChars s = .ok e)
    {text : String} (htext : text.toList = '$' :: s) : Reading e text := by
  unfold parseChars at h
  dsimp only at h
  rcases htake : takePipeline (s.dropWhile isWord).length (s.dropWhile isWord).reverse [] with
    ⟨ts, before⟩
  obtain ⟨pipeline, hpipeline, heq⟩ := pipeline_of_takePipeline htake .nil
  rw [List.reverse_reverse, List.append_nil] at heq
  rw [htake] at h
  cases hpath : readPath before.reverse with
  | error flaw =>
    rw [hpath] at h
    cases h
  | ok path =>
    rw [hpath] at h
    cases h
    obtain ⟨hpathText, blanks, hblanks, hbefore⟩ := pathText_of_readPath hpath
    refine ⟨?_, ?_, blanks, pipeline, hblanks, hpipeline, ?_⟩
    · rw [String.toList_ofList, htext]
      rfl
    · rw [String.toList_ofList]
      exact hpathText
    · rw [htext, String.toList_ofList, String.toList_ofList, List.append_assoc, List.append_assoc,
        ← List.append_assoc path, ← hbefore, ← heq, List.takeWhile_append_dropWhile]

theorem parseChars_of_reading {e : Expression} {text : String} (h : Reading e text)
    (hpath : ¬EndsInSegment e.path.toList) {s : List Char} (htext : text.toList = '$' :: s) :
    parseChars s = .ok e := by
  obtain ⟨blanks, pipeline, hblanks, hpipeline, hspelled⟩ := h.spelled
  have hinput : e.input.toList = s.takeWhile isWord := by
    rw [h.input, htext, List.tail_cons]
  have hrest : s.dropWhile isWord = e.path.toList ++ blanks ++ pipeline := by
    rw [htext, hinput, List.append_assoc, List.append_assoc] at hspelled
    apply @List.append_cancel_left _ (s.takeWhile isWord)
    rw [List.takeWhile_append_dropWhile, List.append_assoc]
    exact (List.cons.inj hspelled).2
  obtain ⟨fuel, r, hr, -, htake⟩ := takePipeline_of_pipeline hpipeline
    (r := (s.dropWhile isWord).reverse) (.inl (by rw [hrest])) (le_of_eq List.length_reverse) []
  obtain ⟨blanks', hblanks', hr'⟩ := hr.blanks h.path.ends hblanks
  have hlast : lastSegment? r = none :=
    lastSegment?_eq_none fun hends =>
      hpath (EndsInSegment.of_blanks (hr' ▸ hends) h.path.ends hblanks')
  unfold parseChars
  dsimp only
  rw [htake, takePipeline_of_lastSegment? hlast, List.append_nil, hr', h.path.readPath hblanks',
    ← hinput]
  simp only [Except.map, String.ofList_toList]

theorem parse_of_head? {text : String} (h : text.toList.head? ≠ some '$') :
    parse text = .ok none := by
  unfold parse
  split
  · next s hs =>
    rw [hs] at h
    exact absurd rfl h
  · rfl

theorem parse_of_cons {text : String} {s : List Char} (h : text.toList = '$' :: s) :
    parse text = (parseChars s).map some := by
  unfold parse
  rw [h]
  rfl

/-- A text that does not start with `$` is no expression. Any other text is refused, and named by
the failure, or is spelled by the expression that it is parsed as. -/
theorem parse_sound (text : String) :
    (parse text = .ok none ↔ text.toList.head? ≠ some '$') ∧
      (parse text = .ok none ∨
        (∃ flaw, parse text = .error flaw ∧
          ∀ (ev : Evaluator) (call : Call) (context : Json),
            ev.evaluateText call text context = .fail (.soft (.malformed text flaw))) ∨
        ∃ e, parse text = .ok (some e) ∧ Reading e text) := by
  by_cases hstart : text.toList.head? = some '$'
  · obtain ⟨s, hs⟩ := List.head?_eq_some_iff.mp hstart
    have hparse := parse_of_cons hs
    cases hchars : parseChars s with
    | error flaw =>
      rw [hchars] at hparse
      have hflaw : parse text = .error flaw := hparse
      refine ⟨⟨fun h => ?_, fun h => absurd hstart h⟩, .inr (.inl ⟨flaw, hflaw, ?_⟩)⟩
      · rw [hflaw] at h
        cases h
      · intro ev call context
        unfold Evaluator.evaluateText
        rw [hflaw]
    | ok e =>
      rw [hchars] at hparse
      have he : parse text = .ok (some e) := hparse
      refine ⟨⟨fun h => ?_, fun h => absurd hstart h⟩,
        .inr (.inr ⟨e, he, reading_of_parseChars hchars hs⟩)⟩
      rw [he] at h
      cases h
  · have hnone := parse_of_head? hstart
    exact ⟨⟨fun _ => hstart, fun _ => hnone⟩, .inl hnone⟩

end JsonTemplate.Expression
