import JsonTemplate.CommandLine.Run
import JsonTemplate.Proofs.Spec.Growing
import JsonTemplate.Proofs.Spec.Refusal

/-!
# Null outputs

In a spec document, and in a spec that is merged, a null output is no output. An inline output that
says null sets no output either; but where a spec file has set one it counts as a second output, and
is refused.
-/

namespace JsonTemplate

namespace Spec

variable {s t other : Spec}

/-- A document is read by its uses, its description, its inputs and its output alone. -/
theorem ofJson?_congr {members others : List (Key × Json)}
    (huses : Json.member? "use" members = Json.member? "use" others)
    (hdescription : Json.member? "description" members = Json.member? "description" others)
    (hinputs : Json.member? "input" members = Json.member? "input" others)
    (houtput : (Json.member? "output" members).bind outputOf =
      (Json.member? "output" others).bind outputOf)
    (origin : String) : ofJson? (.object members) origin = ofJson? (.object others) origin := by
  simp only [ofJson?, huses, hdescription, hinputs, houtput]

theorem output_of_ofJson? {members : List (Key × Json)} {origin : String}
    (houtput : (Json.member? "output" members).bind outputOf = none)
    (h : ofJson? (.object members) origin = .ok s) : s.output = none := by
  obtain ⟨uses, description, items, t, -, -, -, -, rfl⟩ := ofJson?_object_eq_ok_iff.mp h
  exact houtput

/-- A spec without an output leaves the output of the spec it is merged into alone, even if one of
its inputs is refused. -/
theorem output_merge (ho : other.output = none) : (s.merge other).spec.output = s.output := by
  apply merge_induction (P := fun t => t.output = s.output)
  case start => rfl
  case input =>
    rintro t r d - ht hr
    obtain ⟨-, -, rfl⟩ := addInput_eq_ok_iff.mp hr
    exact ht
  case output =>
    intro v r hv
    rw [ho] at hv
    cases hv
  case describe =>
    intro t description ht
    rw [output_describe, ht]

theorem failure_merge_ne_secondOutput (ho : other.output = none) :
    (s.merge other).failure ≠ some .secondOutput := by
  intro hf
  have hnull : other.output ≠ some .null := by
    rw [ho]
    exact nofun
  have hmerge : s.merge other = ⟨(s.merge other).spec, some .secondOutput⟩ := by rw [← hf]
  generalize (s.merge other).spec = t at hmerge
  cases Addition.fails_merge hnull hmerge with
  | mergedOutput _ hsome =>
    rw [ho] at hsome
    cases hsome
  | mergedInput _ _ hrefused => exact addInput_ne_secondOutput _ _ hrefused

/-- To add null is no more than to ask whether there is an output. -/
theorem addOutput_null (s : Spec) :
    s.addOutput .null = if s.output.isSome then .error .secondOutput else .ok s := by
  rcases s with ⟨uses, inputs, _ | v, description⟩ <;> rfl

end Spec

namespace CommandLine

theorem buildSpec_null (h : Host) (readers : Readers) (uses : List (Option String)) {text : String}
    (htext : Json.parse text = .ok .null) :
    buildSpec h readers uses (some text) =
      (buildSpec h readers uses none).bind fun s => s.addOutput .null := by
  have htemplate : outputTemplate text = .null := by
    unfold outputTemplate Json.ofTextOrItself
    rw [htext]
    rfl
  simp only [buildSpec, htemplate]
  cases mergeFiles (specFiles h readers) uses .empty { directory := h.directory } <;> rfl

/-- A null output is no output in a document and in a merge. On the command line it is none unless
a spec file has an output, and a second output if one has. -/
theorem null_output_is_none_or_second (h : Host) (readers : Readers)
    (uses : List (Option String)) {text : String} (htext : Json.parse text = .ok .null)
    {members others : List (Key × Json)}
    (hnull : Json.member? "output" members = some .null)
    (hnone : Json.member? "output" others = none)
    (hsame : ∀ name, name ≠ "output" → Json.member? name members = Json.member? name others)
    (origin : String) (s : Spec) {other : Spec} (hother : other.output = none) :
    (buildSpec h readers uses (some text) = (buildSpec h readers uses none).bind fun s =>
      if s.output.isSome then .error .secondOutput else .ok s) ∧
    (Spec.ofJson? (.object members) origin = Spec.ofJson? (.object others) origin ∧
      ∀ r, Spec.ofJson? (.object members) origin = .ok r → r.output = none) ∧
    (s.merge other).spec.output = s.output ∧
    (s.merge other).failure ≠ some .secondOutput := by
  have hmembers : (Json.member? "output" members).bind Spec.outputOf = none := by
    rw [hnull]
    rfl
  have houtputs : (Json.member? "output" members).bind Spec.outputOf =
      (Json.member? "output" others).bind Spec.outputOf := by
    rw [hmembers, hnone]
    rfl
  refine ⟨?_, ⟨?_, fun r => Spec.output_of_ofJson? hmembers⟩, Spec.output_merge hother,
    Spec.failure_merge_ne_secondOutput hother⟩
  · rw [buildSpec_null h readers uses htext]
    simp only [Spec.addOutput_null]
  · exact Spec.ofJson?_congr (hsame _ (by decide)) (hsame _ (by decide)) (hsame _ (by decide))
      houtputs origin

def printing : Host where
  files := ⟨[(["a.json"], .file (Text.Utf8.encode "\x7b\"output\": 1\x7d".toList))]⟩

/-- Null with blanks around it, after a spec file with an output. -/
theorem null_output_is_second :
    Json.parse " null\n" = .ok .null ∧
      (buildSpec printing {} [some "a.json"] (some " null\n") =
        (buildSpec printing {} [some "a.json"] none).bind fun s =>
          if s.output.isSome then .error .secondOutput else .ok s) ∧
      Spec.ofJson? (.named [("use", .array []), ("output", .null)]) "b.json" =
        Spec.ofJson? (.named [("use", .array [])]) "b.json" := by
  have htext : Json.parse " null\n" = .ok .null := rfl
  have hsame : ∀ name, name ≠ "output" →
      Json.member? name [(.name "use", .array []), (.name "output", .null)] =
        Json.member? name [(.name "use", .array [])] := by
    intro name hname
    simp [Json.member?, Assoc.get?, hname.symm]
  have hempty : Spec.empty.output = none := rfl
  obtain ⟨hbuild, ⟨hread, -⟩, -⟩ := null_output_is_none_or_second printing {} [some "a.json"] htext
    rfl rfl hsame "b.json" .empty hempty
  exact ⟨htext, hbuild, hread⟩

/-- The inline output `null` is refused where no inline output at all is accepted. -/
theorem buildSpec_null_refused :
    (∃ s, buildSpec printing {} [some "a.json"] none = .ok s) ∧
      Json.parse "null" = .ok .null ∧
      buildSpec printing {} [some "a.json"] (some "null") = .error .secondOutput := by
  have hbuilt : (buildSpec printing {} [some "a.json"] none).toOption.any (·.output.isSome) := by
    decide +kernel
  have htext : Json.parse "null" = .ok .null := rfl
  cases hs : buildSpec printing {} [some "a.json"] none with
  | error f =>
    rw [hs] at hbuilt
    cases hbuilt
  | ok s =>
    refine ⟨⟨s, rfl⟩, htext, ?_⟩
    have hsome : s.output.isSome = true := by simpa [hs, Except.toOption] using hbuilt
    rw [buildSpec_null printing {} _ htext, hs]
    change s.addOutput .null = _
    rw [Spec.addOutput_null, if_pos hsome]

end CommandLine

end JsonTemplate
