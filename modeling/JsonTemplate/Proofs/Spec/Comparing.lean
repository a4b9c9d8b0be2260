import JsonTemplate.Proofs.Json.Proper
import JsonTemplate.Proofs.Spec.Closure
import JsonTemplate.Proofs.Spec.WellFormed

/-!
# Specs that can be compared

Declarations are compared when specs are merged, and that breaks the run down if their keys have no
order. Declarations whose keys are all names never do that, and no others come from documents whose
keys are names.
-/

namespace JsonTemplate

/-- A result with `P`, or a failure that is no breakdown. -/
def Answers {α : Type} (P : α → Prop) : Except SpecFailure α → Prop
  | .ok a => P a
  | .error f => ∀ b, f ≠ .breakdown b

section

variable {α β ε : Type} {P : α → Prop} {Q : β → Prop}

theorem Answers.bind {x : Except SpecFailure α} {f : α → Except SpecFailure β} (hx : Answers P x)
    (hf : ∀ a, P a → Answers Q (f a)) : Answers Q (x >>= f) := by
  cases x with
  | error e => exact hx
  | ok a => exact hf a hx

theorem answers_mapError {x : Except ε α} {g : ε → SpecFailure} (hg : ∀ e b, g e ≠ .breakdown b)
    (hx : ∀ a, x = .ok a → P a) : Answers P (x.mapError g) := by
  cases x with
  | error e => exact hg e
  | ok a => exact hx a rfl

end

namespace Declaration

structure Named (d : Declaration) : Prop where
  source : d.source.Named
  bindings : ∀ b ∈ d.bindings.getD [], b.2.Named

theorem named_of_fields {fields : List (String × Json)} (h : ∀ f ∈ fields, f.2.Named) :
    (Json.named fields).Named := by
  refine .object ?_ ?_
  · intro m hm
    obtain ⟨f, -, rfl⟩ := List.mem_map.mp hm
    rfl
  · intro m hm
    obtain ⟨f, hf, rfl⟩ := List.mem_map.mp hm
    exact h f hf

theorem Named.bindingsJson {d : Declaration} (h : d.Named) :
    (Declaration.bindingsJson d.bindings).Named := by
  have hbindings := h.bindings
  unfold Declaration.bindingsJson
  cases hb : d.bindings with
  | none => exact .null
  | some bs =>
    rw [hb] at hbindings
    exact named_of_fields hbindings

theorem Named.toJson {d : Declaration} (h : d.Named) : d.toJson.Named := by
  have hparams : (Json.stringArray d.params).Named := by
    refine .array fun v hv => ?_
    obtain ⟨s, -, rfl⟩ := List.mem_map.mp hv
    exact .string s
  apply named_of_fields
  simp only [List.forall_mem_cons, List.not_mem_nil, false_implies, implies_true, and_true]
  exact ⟨.string _, .string _, h.source, h.bindingsJson, .bool _, hparams⟩

theorem Named.same?_eq_ok {a b : Declaration} (ha : a.Named) (hb : b.Named) :
    a.same? b = .ok (a.same b) := by
  unfold same?
  rw [ha.toJson.keyClash?_eq_none, hb.toJson.keyClash?_eq_none]
  rfl

theorem named_of_named {fields : List (String × Json)} (h : (Json.named fields).Named) :
    ∀ f ∈ fields, f.2.Named := by
  intro f hf
  cases h with
  | object _ hmembers => exact hmembers (.name f.1, f.2) (List.mem_map_of_mem hf)

theorem named_of_ofJson? {v : Json} {index : Int} {origin : String} {d : Declaration}
    (hv : v.Named) (h : ofJson? v index origin = .ok d) : d.Named := by
  obtain ⟨members, rfl, hd⟩ := readFrom_of_ofJson? h
  cases hv with
  | object _ hmembers =>
    have hbindings : (bindingsJson d.bindings).Named := by
      rw [← bindings?_eq_some_iff.mp hd.bindings]
      cases hlet : Json.member? "let" members with
      | none => exact .null
      | some w => exact hmembers _ (Assoc.mem_of_get? hlet)
    refine ⟨hmembers _ (Assoc.mem_of_get? hd.source), ?_⟩
    cases hb : d.bindings with
    | none => exact nofun
    | some bs =>
      rw [hb] at hbindings
      exact named_of_named hbindings

end Declaration

namespace Spec

def Named (s : Spec) : Prop :=
  ∀ d ∈ s.declarations, d.Named

variable {s other : Spec}

theorem Named.put (h : s.Named) {d : Declaration} (hd : d.Named) : (s.put d).Named := by
  intro d' hd'
  obtain ⟨e, he, rfl⟩ := List.mem_map.mp hd'
  obtain rfl | he := Assoc.mem_of_mem_put he
  · exact hd
  · exact h e.2 (List.mem_map_of_mem he)

theorem Named.withOutput (h : s.Named) (output : Option Json) : { s with output }.Named := h

theorem named_blank (uses : List String) (description : Option String) :
    ({ uses, description } : Spec).Named := by
  intro d hd
  cases hd

theorem Named.describe (h : s.Named) (description : Option String) :
    (s.describe description).Named := by
  unfold Named declarations
  rw [inputs_describe]
  exact h

theorem addInput_answers (h : s.Named) {d : Declaration} (hd : d.Named) :
    Answers Named (s.addInput d) := by
  unfold addInput
  split
  · exact nofun
  · cases he : s.input? d.name with
    | none => exact h.put hd
    | some e =>
      have hmem : (d.name, e) ∈ s.inputs := Assoc.mem_of_get? he
      have hsame : e.same? d = .ok (e.same d) :=
        (h e (List.mem_map_of_mem hmem)).same?_eq_ok hd
      simp only [hsame]
      cases e.same d with
      | true => exact h.put hd
      | false => exact nofun

theorem addOutput_answers (h : s.Named) (v : Json) : Answers Named (s.addOutput v) := by
  unfold addOutput
  split
  · exact nofun
  · exact h.withOutput _

theorem declare_answers (h : s.Named) {items : List Json} (hitems : ∀ v ∈ items, v.Named)
    (origin : String) (index : Nat) : Answers Named (declare origin index s items) := by
  induction items generalizing s index with
  | nil => exact h
  | cons v items ih =>
    obtain ⟨hv, hitems⟩ := List.forall_mem_cons.mp hitems
    have hd : Answers Declaration.Named
        ((Declaration.ofJson? v index origin).mapError .declaration) :=
      answers_mapError (fun _ _ => nofun) fun _ => Declaration.named_of_ofJson? hv
    exact hd.bind fun d hd => (addInput_answers h hd).bind fun r hr => ih hr hitems (index + 1)

theorem answers_orFlaw {α : Type} {P : α → Prop} {x : Option α} (hx : ∀ a ∈ x, P a)
    (origin : String) (flaw : DocumentFlaw) : Answers P (orFlaw origin flaw x) := by
  cases x with
  | none => exact nofun
  | some a => exact hx a rfl

theorem named_of_listMember? {v : Option Json} {items : List Json} (hv : ∀ w ∈ v, w.Named)
    (h : listMember? v = some items) : ∀ w ∈ items, w.Named := by
  intro w hw
  cases hv _ (eq_array_of_listMember? h hw) with
  | array hitems => exact hitems w hw

theorem ofJson?_answers {v : Json} (hv : v.Named) (origin : String) :
    Answers Named (ofJson? v origin) := by
  cases hv with
  | @object members _ hmembers =>
    have hfield : ∀ name, ∀ w ∈ Json.member? name members, w.Named :=
      fun name w hw => hmembers _ (Assoc.mem_of_get? hw)
    refine (answers_orFlaw (fun _ _ => trivial) _ _).bind fun uses _ => ?_
    refine (answers_orFlaw (fun _ _ => trivial) _ _).bind fun description _ => ?_
    refine (answers_orFlaw (fun _ => named_of_listMember? (hfield _)) _ _).bind
      fun items hitems => ?_
    refine (declare_answers (named_blank uses description) hitems _ _).bind fun s hs => ?_
    split
    · exact hs
    · exact addOutput_answers hs _
  | _ => exact nofun

structure Change.Answers (c : Change) : Prop where
  failure : ∀ f, c.failure = some f → ∀ b, f ≠ .breakdown b
  named : c.spec.Named

theorem addInputs_answers (h : s.Named) {ds : List Declaration} (hds : ∀ d ∈ ds, d.Named) :
    (s.addInputs ds).Answers := by
  induction ds generalizing s with
  | nil => exact ⟨nofun, h⟩
  | cons d ds ih =>
    obtain ⟨hd, hds⟩ := List.forall_mem_cons.mp hds
    have hstep := addInput_answers h hd
    unfold addInputs
    cases hr : s.addInput d with
    | ok r =>
      rw [hr] at hstep
      exact ih hstep hds
    | error f =>
      rw [hr] at hstep
      refine ⟨?_, h⟩
      rintro g ⟨⟩
      exact hstep

theorem addInputsOf_answers (h : s.Named) (ho : other.Named) :
    (s.addInputsOf other).Answers := by
  have hinputs : (s.addInputs (other.inputs.map (·.2))).Answers := addInputs_answers h ho
  unfold addInputsOf
  generalize s.addInputs (other.inputs.map (·.2)) = c at hinputs
  rcases c with ⟨t, _ | f⟩
  · exact ⟨nofun, hinputs.named.describe _⟩
  · exact hinputs

theorem merge_answers (h : s.Named) (ho : other.Named) : (s.merge other).Answers := by
  unfold merge
  cases other.output with
  | none => exact addInputsOf_answers h ho
  | some v =>
    have hstep := addOutput_answers h v
    dsimp only
    cases hr : s.addOutput v with
    | ok r =>
      rw [hr] at hstep
      exact addInputsOf_answers hstep ho
    | error f =>
      rw [hr] at hstep
      refine ⟨?_, h⟩
      rintro g ⟨⟩
      exact hstep

theorem merged_answers (h : s.Named) (ho : other.Named) : Answers Named (s.merged other) := by
  have hmerge := merge_answers h ho
  unfold merged
  generalize s.merge other = c at hmerge
  rcases c with ⟨t, _ | f⟩
  · exact hmerge.named
  · exact hmerge.failure f rfl

end Spec

namespace Loader

/-- If a file is one of YAML, the reader takes it for an error or for a value with only names as
keys. -/
def Legible (files : SpecFiles) (l : Location) : Prop :=
  isYaml l = true → ∀ text, textOfFile l.text (files.tree.read l) = .ok text →
    (∀ message, files.yaml text ≠ .raised message) ∧ ∀ v, files.yaml text = .value v → v.Named

def Located (files : SpecFiles) (l : Location) : Prop :=
  ∀ own, readSpec files l = .ok own → ∀ use ∈ own.uses, ∀ b,
    l.parent.locate files.homes use ≠ .error b

variable {files : SpecFiles} {l : Location}

theorem readDocument_answers (h : Legible files l) :
    Answers Json.Named (readDocument files l) := by
  unfold readDocument
  have htext : Answers (fun text => textOfFile l.text (files.tree.read l) = .ok text)
      ((textOfFile l.text (files.tree.read l)).mapError fun f => flawed l (.file f)) :=
    answers_mapError (fun _ _ => nofun) fun _ htext => htext
  refine htext.bind fun text htext => ?_
  split
  · next hyaml =>
    obtain ⟨hraised, hnamed⟩ := h hyaml text htext
    cases hread : files.yaml text with
    | value v => exact hnamed v hread
    | malformed => exact nofun
    | raised message => exact absurd hread (hraised message)
  · exact answers_mapError (fun _ _ => nofun) fun _ hv => (Json.proper_of_parse hv).named

theorem readSpec_answers (h : Legible files l) : Answers Spec.Named (readSpec files l) :=
  (readDocument_answers h).bind fun _ hv => Spec.ofJson?_answers hv l.text

theorem closedUnderLoading_named {P : Location → Prop}
    (hP : ∀ l, P l → Legible files l ∧ Located files l)
    (hused : ∀ l own, P l → readSpec files l = .ok own → ∀ use ∈ own.uses, ∀ l',
      l.parent.locate files.homes use = .ok l' → P l') :
    ClosedUnderLoading files P (Answers Spec.Named) where
  read l hl := readSpec_answers (hP l hl).1
  used := hused
  blank := Spec.named_blank
  merged _ _ := Spec.merged_answers
  unlocated l own hl hown use huse b hb := absurd hb ((hP l hl).2 own hown use huse b)
  circular _ := nofun

end Loader

end JsonTemplate
