import Mathlib.Tactic.Choose
import JsonTemplate.Proofs.Evaluation.Containment
import JsonTemplate.Proofs.Evaluation.DepthLimit
import JsonTemplate.Proofs.Evaluation.Restoration
import JsonTemplate.Proofs.Evaluation.Sequel

/-!
# Maps, element by element

A map resolves its input at one element after the other, each time on the stacks that the map
started on, since the resolution at an element leaves them alone even where it fails half-way. An
element at which the input cannot be resolved is kept and reported; any other failure of an input
ends the map with it. So a map of two arrays put together is the two maps put together.
-/

namespace JsonTemplate.Evaluator

open Evaluation

/-- What a map makes of an element: the value of the input at it, or the element itself if the input
cannot be resolved, which is reported unless the evaluator is quiet. -/
def element (ev : Evaluator) (name : String) (s : Stacks) (v : Json) : Outcome Json :=
  match ev.apply name v none s with
  | ⟨.error (.resolution f), s', l⟩ =>
    ⟨.ok v, s', l ++ if ev.settings.quiet then [] else [.keptElement name f]⟩
  | o => o

variable (ev : Evaluator) {name : String} {s : Stacks} {v : Json} {vs : List Json} {f : Failure}

theorem mapElement_eq_element :
    ev.mapElement (ev.call (s.room ev.settings.maxDepth + 1)) name v s = ev.element name s v := by
  unfold mapElement element apply withRoom
  dsimp only
  generalize ev.call (s.room ev.settings.maxDepth + 1) name v none = x
  rcases hx : x s with ⟨r, s', l⟩
  cases r with
  | ok w => exact rescue_of_ok hx
  | error f =>
    cases f with
    | resolution f =>
      rw [rescue_of_handled hx rfl, bind_of_ok rfl]
      cases hquiet : ev.settings.quiet <;>
        simp [pure_apply, Settings.shows, Diagnostic.isTrace, hquiet]
    | _ => exact rescue_of_unhandled hx rfl

theorem element_stack : (ev.element name s v).stack = s := by
  have hstack := ev.apply_restores name v none s
  unfold element
  split
  · next happly => rwa [happly] at hstack
  · exact hstack

/-- An element fails exactly if the input does there and is not one that cannot be resolved. -/
theorem element_error_iff :
    (ev.element name s v).result = .error f ↔
      (ev.apply name v none s).result = .error f ∧ ∀ g, f ≠ .resolution g := by
  unfold element
  rcases ev.apply name v none s with ⟨r, s', l⟩
  cases r with
  | ok w => simp
  | error e =>
    cases e with
    | resolution g =>
      constructor
      · nofun
      · rintro ⟨⟨⟩, hf⟩
        exact absurd rfl (hf g)
    | _ => simp +contextual [eq_comm]

/-- Only a failure that ends the run comes out of an element. -/
theorem endsRun_of_element (h : (ev.element name s v).result = .error f) : f.EndsRun := by
  obtain ⟨hf, hresolution⟩ := (ev.element_error_iff).mp h
  cases (ev.call_contained _ name v none s f hf).leaves with
  | resolution g => exact absurd rfl (hresolution g)
  | endsRun hends => exact hends

def elementOr (name : String) (s : Stacks) (v : Json) : Json :=
  (ev.element name s v).result.toOption.getD v

theorem elementOr_of_ok {w : Json} (h : (ev.element name s v).result = .ok w) :
    ev.elementOr name s v = w := by
  simp only [elementOr, h, Except.toOption, Option.getD_some]

theorem mapElements_eq_sequel :
    ev.mapElements (ev.call (s.room ev.settings.maxDepth + 1)) name vs s =
      sequel (ev.element name s) (vs.map (ev.elementOr name s)) s vs := by
  induction vs with
  | nil => rfl
  | cons v vs ih =>
    have hv : ev.mapElement (ev.call (s.room ev.settings.maxDepth + 1)) name v s =
        sequel (ev.element name s) (ev.elementOr name s v) s [v] := by
      rw [ev.mapElement_eq_element]
      exact eq_sequel_singleton ev.element_stack fun w hw => ev.elementOr_of_ok hw
    exact bind_eq_sequel hv (bind_pure_eq_sequel ih (ev.elementOr name s v :: ·))

def mapOver (ev : Evaluator) (name : String) (s : Stacks) (vs : List Json) : Outcome Json :=
  ev.pipe ⟨"map", some [name]⟩ (.array vs) s

theorem mapOver_eq_sequel :
    ev.mapOver name s vs =
      sequel (ev.element name s) (.array (vs.map (ev.elementOr name s))) s vs :=
  bind_pure_eq_sequel ev.mapElements_eq_sequel Json.array

theorem mapOver_of_ok {value : Json → Json}
    (h : ∀ v ∈ vs, (ev.element name s v).result = .ok (value v)) :
    ev.mapOver name s vs =
      ⟨.ok (.array (vs.map value)), s, vs.flatMap fun v => (ev.element name s v).log⟩ := by
  have hsame : vs.map value = vs.map (ev.elementOr name s) :=
    List.map_congr_left fun v hv => (ev.elementOr_of_ok (h v hv)).symm
  rw [hsame, ev.mapOver_eq_sequel]
  exact sequel_of_ok (fun v hv => ⟨value v, h v hv⟩) _

theorem mapOver_of_error {before after : List Json}
    (hbefore : ∀ u ∈ before, ∃ w, (ev.element name s u).result = .ok w)
    (h : (ev.element name s v).result = .error f) :
    ev.mapOver name s (before ++ v :: after) =
      ⟨.error f, s, (before ++ [v]).flatMap fun u => (ev.element name s u).log⟩ := by
  rw [ev.mapOver_eq_sequel]
  exact sequel_of_error hbefore h _

theorem mapOver_ok_iff :
    (∃ w, (ev.mapOver name s vs).result = .ok w) ↔
      ∀ v ∈ vs, ∃ w, (ev.element name s v).result = .ok w := by
  constructor
  · rintro ⟨w, hw⟩
    by_contra hall
    obtain ⟨before, v, after, f, rfl, hbefore, hf⟩ := exists_first_failure hall
    rw [ev.mapOver_of_error hbefore hf] at hw
    cases hw
  · intro hall
    choose! value hvalue using hall
    exact ⟨_, by rw [ev.mapOver_of_ok hvalue]⟩

/-- A map fails as one of its elements does. -/
theorem exists_element_error (h : (ev.mapOver name s vs).result = .error f) :
    ∃ v ∈ vs, (ev.element name s v).result = .error f := by
  have hall : ¬ ∀ v ∈ vs, ∃ w, (ev.element name s v).result = .ok w := by
    intro hall
    obtain ⟨w, hw⟩ := ev.mapOver_ok_iff.mpr hall
    cases h.symm.trans hw
  obtain ⟨before, v, after, g, rfl, hbefore, hg⟩ := exists_first_failure hall
  rw [ev.mapOver_of_error hbefore hg] at h
  cases h
  exact ⟨v, by simp, hg⟩

/-- Where no input breaks down, a map runs too deep or comes to a value. -/
theorem tooDeep_or_ok_of_mapOver
    (h : ∀ v ∈ vs, ∀ b, (ev.apply name v none s).result ≠ .error (.breakdown b)) :
    (ev.mapOver name s vs).TooDeep ∨ ∃ w, (ev.mapOver name s vs).result = .ok w := by
  cases hr : (ev.mapOver name s vs).result with
  | ok w => exact .inr ⟨w, rfl⟩
  | error f =>
    obtain ⟨v, hv, helement⟩ := ev.exists_element_error hr
    cases ev.endsRun_of_element helement with
    | depth chain limit => exact .inl ⟨chain, limit, hr⟩
    | clock fault => exact absurd (ev.element_error_iff.mp helement).1 (h v hv _)
    | nullByte => exact absurd (ev.element_error_iff.mp helement).1 (h v hv _)

theorem tooDeep_mapOver_iff
    (h : ∀ v ∈ vs, ∀ b, (ev.apply name v none s).result ≠ .error (.breakdown b)) :
    (ev.mapOver name s vs).TooDeep ↔ ∃ v ∈ vs, (ev.apply name v none s).TooDeep := by
  constructor
  · rintro ⟨chain, limit, hdeep⟩
    obtain ⟨v, hv, helement⟩ := ev.exists_element_error hdeep
    exact ⟨v, hv, chain, limit, (ev.element_error_iff.mp helement).1⟩
  · rintro ⟨v, hv, chain, limit, hdeep⟩
    refine (ev.tooDeep_or_ok_of_mapOver h).resolve_right fun hok => ?_
    obtain ⟨w, hw⟩ := ev.mapOver_ok_iff.mp hok v hv
    cases hw.symm.trans (ev.element_error_iff.mpr ⟨hdeep, nofun⟩)

theorem mapOver_append {us : List Json} {w : Json}
    (h : (ev.mapOver name s (us ++ vs)).result = .ok w) :
    ∃ xs ys, (ev.mapOver name s us).result = .ok (.array xs) ∧
      (ev.mapOver name s vs).result = .ok (.array ys) ∧
      ev.mapOver name s (us ++ vs) = ⟨.ok (.array (xs ++ ys)), s,
        (ev.mapOver name s us).log ++ (ev.mapOver name s vs).log⟩ := by
  have hall := ev.mapOver_ok_iff.mp ⟨w, h⟩
  choose! value hvalue using hall
  have hus : ∀ v ∈ us, (ev.element name s v).result = .ok (value v) :=
    fun v hv => hvalue v (List.mem_append_left vs hv)
  have hvs : ∀ v ∈ vs, (ev.element name s v).result = .ok (value v) :=
    fun v hv => hvalue v (List.mem_append_right us hv)
  rw [ev.mapOver_of_ok hus, ev.mapOver_of_ok hvs, ev.mapOver_of_ok hvalue]
  refine ⟨us.map value, vs.map value, rfl, rfl, ?_⟩
  rw [List.map_append, List.flatMap_append]

/-- A map comes to the array of what its elements become, each on the stacks that the map started
on, with the diagnostics of one element after the other; or it fails as the first element that
fails. Only a failure that ends the run comes out of an element: the input runs too deep there, or
the file or command of some input breaks down. So if none breaks down, the map runs too deep exactly
if the input does at some element, and comes to an array otherwise. -/
theorem map_elementwise (ev : Evaluator) (name : String) (vs : List Json) (s : Stacks) :
    let apply (v : Json) : Outcome Json := ev.apply name v none s
    let element (v : Json) : Outcome Json := ev.element name s v
    let map (vs : List Json) : Outcome Json := ev.pipe ⟨"map", some [name]⟩ (.array vs) s
    ((∃ w, (map vs).result = .ok w) ↔ ∀ v ∈ vs, ∃ w, (element v).result = .ok w) ∧
    (∀ value : Json → Json, (∀ v ∈ vs, (element v).result = .ok (value v)) →
      map vs = ⟨.ok (.array (vs.map value)), s, vs.flatMap fun v => (element v).log⟩) ∧
    (∀ before v after f, vs = before ++ v :: after →
      (∀ u ∈ before, ∃ w, (element u).result = .ok w) → (element v).result = .error f →
      map vs = ⟨.error f, s, (before ++ [v]).flatMap fun u => (element u).log⟩) ∧
    (∀ v f, (element v).result = .error f → (apply v).result = .error f ∧ f.EndsRun) ∧
    ((∀ v ∈ vs, ∀ b, (apply v).result ≠ .error (.breakdown b)) →
      ((map vs).TooDeep ↔ ∃ v ∈ vs, (apply v).TooDeep) ∧
        ((map vs).TooDeep ∨ ∃ w, (map vs).result = .ok w)) ∧
    (ev.Steady → ∀ v b, (apply v).result ≠ .error (.breakdown b)) ∧
    ∀ us w, (map (us ++ vs)).result = .ok w →
      ∃ xs ys, (map us).result = .ok (.array xs) ∧ (map vs).result = .ok (.array ys) ∧
        map (us ++ vs) = ⟨.ok (.array (xs ++ ys)), s, (map us).log ++ (map vs).log⟩ := by
  intro apply element map
  refine ⟨ev.mapOver_ok_iff, fun value h => ev.mapOver_of_ok h, ?_, fun v f hf => ?_,
    fun hanswer => ?_, fun hev v b hb => ?_, fun us w h => ev.mapOver_append h⟩
  · rintro before v after f rfl hbefore hf
    exact ev.mapOver_of_error hbefore hf
  · exact ⟨(ev.element_error_iff.mp hf).1, ev.endsRun_of_element hf⟩
  · exact ⟨ev.tooDeep_mapOver_iff hanswer, ev.tooDeep_or_ok_of_mapOver hanswer⟩
  · have hhard := (ev.call_contained _ name v none s _ hb).isHard hev
    cases hhard

def choosing : Evaluator where
  spec :=
    { inputs :=
        [("f", ⟨"f", .inline, .string "$ | ifelse(yes, nobody)", none, true, []⟩),
          ("yes", ⟨"yes", .inline, .string "yes", none, true, []⟩)] }

theorem map_choosing :
    let s : Stacks := ⟨[], ["g"]⟩
    let map (vs : List Json) : Outcome Json := choosing.pipe ⟨"map", some ["f"]⟩ (.array vs) s
    ¬ (map [.bool false]).TooDeep ∧
      ∃ xs ys, (map [.bool true]).result = .ok (.array xs) ∧
        (map [.bool false]).result = .ok (.array ys) ∧
        map [.bool true, .bool false] =
          ⟨.ok (.array (xs ++ ys)), s, [.keptElement "f" (.unknown "nobody")]⟩ := by
  intro s map
  obtain ⟨hok, -, -, -, hdepth, -, happend⟩ := map_elementwise choosing "f" [.bool false] s
  have hfalse : (choosing.apply "f" (.bool false) none s).failure? =
      some (.resolution (.unknown "nobody")) := by decide +kernel
  have hresult := Outcome.failure?_eq_some_iff.mp hfalse
  have hanswer : ∀ v ∈ [Json.bool false], ∀ b,
      (choosing.apply "f" v none s).result ≠ .error (.breakdown b) := by
    intro v hv b hb
    rw [List.mem_singleton.mp hv, hresult] at hb
    cases hb
  have hboth : (map [.bool true, .bool false]).failure? = none := by decide +kernel
  have hlog : (map [.bool true]).log ++ (map [.bool false]).log =
      [.keptElement "f" (.unknown "nobody")] := by decide +kernel
  obtain ⟨w, hw⟩ := Outcome.failure?_eq_none_iff.mp hboth
  obtain ⟨xs, ys, hxs, hys, hmap⟩ := happend [.bool true] w hw
  refine ⟨?_, xs, ys, hxs, hys, ?_⟩
  · rintro hdeep
    obtain ⟨v, hv, chain, limit, hv'⟩ := (hdepth hanswer).1.mp hdeep
    rw [List.mem_singleton.mp hv, hresult] at hv'
    cases hv'
  · rw [← hlog]
    exact hmap

def commanded (settings : Settings) : Evaluator where
  spec := { inputs := [("c", ⟨"c", .command, .string "echo 1", none, true, []⟩)] }
  settings
  host := { execute := fun _ _ => .ended (Text.Utf8.encode ['1', '\n']) 0 0 }

/-- No clock waits for four months, so a map of a command with that limit comes to nothing, though
nothing runs too deep. -/
theorem map_beyondWait :
    let o := (commanded seasonal).pipe ⟨"map", some ["c"]⟩ (.array [.int 1]) {}
    let call := (commanded seasonal).apply "c" (.int 1) none {}
    o.result = .error (.breakdown (.timeLimit .beyondWait)) ∧ ¬ o.TooDeep ∧ ¬ call.TooDeep := by
  intro o call
  have hbreakdown : o.failure? = some (.breakdown (.timeLimit .beyondWait)) := by decide +kernel
  exact ⟨Outcome.failure?_eq_some_iff.mp hbreakdown, by decide +kernel, by decide +kernel⟩

end JsonTemplate.Evaluator
