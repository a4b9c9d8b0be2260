import Mathlib.Tactic.Choose
import JsonTemplate.Proofs.Evaluation.Restoration
import JsonTemplate.Proofs.Evaluation.Sequel
import JsonTemplate.Proofs.Expression.Reading

/-!
# Templates leaf by leaf

A walk evaluates the texts of its template one after the other, each on the stacks that the walk
started on, and puts the values in their places. It ends with the first text that fails, so no text
has a part in what another one becomes.
-/

namespace JsonTemplate

namespace Json

mutual

def mapTexts (f : String → Json) : Json → Json
  | .string s => f s
  | .array items => .array (itemsMapTexts f items)
  | .object members => .object (membersMapTexts f members)
  | .null => .null
  | .bool b => .bool b
  | .int n => .int n
  | .float d => .float d

def itemsMapTexts (f : String → Json) : List Json → List Json
  | [] => []
  | v :: items => mapTexts f v :: itemsMapTexts f items

def membersMapTexts (f : String → Json) : List (Key × Json) → List (Key × Json)
  | [] => []
  | (k, v) :: members => (k, mapTexts f v) :: membersMapTexts f members

end

mutual

theorem mapTexts_congr {f g : String → Json} :
    ∀ {template : Json}, (∀ t ∈ template.texts, f t = g t) →
      template.mapTexts f = template.mapTexts g
  | .string t, h => h t (List.mem_singleton_self t)
  | .array _, h => congrArg Json.array (itemsMapTexts_congr h)
  | .object _, h => congrArg Json.object (membersMapTexts_congr h)
  | .null, _ => rfl
  | .bool _, _ => rfl
  | .int _, _ => rfl
  | .float _, _ => rfl

theorem itemsMapTexts_congr {f g : String → Json} :
    ∀ {items : List Json}, (∀ t ∈ itemsTexts items, f t = g t) →
      itemsMapTexts f items = itemsMapTexts g items
  | [], _ => rfl
  | _ :: _, h =>
    congrArg₂ List.cons (mapTexts_congr fun t ht => h t (List.mem_append_left _ ht))
      (itemsMapTexts_congr fun t ht => h t (List.mem_append_right _ ht))

theorem membersMapTexts_congr {f g : String → Json} :
    ∀ {members : List (Key × Json)}, (∀ t ∈ membersTexts members, f t = g t) →
      membersMapTexts f members = membersMapTexts g members
  | [], _ => rfl
  | (k, _) :: _, h =>
    congrArg₂ List.cons
      (congrArg (Prod.mk k) (mapTexts_congr fun t ht => h t (List.mem_append_left _ ht)))
      (membersMapTexts_congr fun t ht => h t (List.mem_append_right _ ht))

end

end Json

namespace Evaluator

open Evaluation

section

variable {ev : Evaluator} {call : Call} {context : Json} {s : Stacks} {value : String → Json}

mutual

theorem walk_eq_sequel (hstack : ∀ t, (ev.evaluateLeaf call t context s).stack = s)
    (hvalue : ∀ t v, (ev.evaluateLeaf call t context s).result = .ok v → value t = v) :
    ∀ template : Json, ev.walk call context template s =
      sequel (fun t => ev.evaluateLeaf call t context s) (template.mapTexts value) s template.texts
  | .string t => eq_sequel_singleton (hstack t) (hvalue t)
  | .array items => bind_pure_eq_sequel (walkItems_eq_sequel hstack hvalue items) Json.array
  | .object members =>
    bind_pure_eq_sequel (walkMembers_eq_sequel hstack hvalue members) Json.object
  | .null => rfl
  | .bool _ => rfl
  | .int _ => rfl
  | .float _ => rfl

theorem walkItems_eq_sequel (hstack : ∀ t, (ev.evaluateLeaf call t context s).stack = s)
    (hvalue : ∀ t v, (ev.evaluateLeaf call t context s).result = .ok v → value t = v) :
    ∀ items : List Json, ev.walkItems call context items s =
      sequel (fun t => ev.evaluateLeaf call t context s) (Json.itemsMapTexts value items) s
        (Json.itemsTexts items)
  | [] => rfl
  | v :: items =>
    bind_eq_sequel (walk_eq_sequel hstack hvalue v)
      (bind_pure_eq_sequel (walkItems_eq_sequel hstack hvalue items) (v.mapTexts value :: ·))

theorem walkMembers_eq_sequel (hstack : ∀ t, (ev.evaluateLeaf call t context s).stack = s)
    (hvalue : ∀ t v, (ev.evaluateLeaf call t context s).result = .ok v → value t = v) :
    ∀ members : List (Key × Json), ev.walkMembers call context members s =
      sequel (fun t => ev.evaluateLeaf call t context s) (Json.membersMapTexts value members) s
        (Json.membersTexts members)
  | [] => rfl
  | (k, v) :: members =>
    bind_eq_sequel (walk_eq_sequel hstack hvalue v)
      (bind_pure_eq_sequel (walkMembers_eq_sequel hstack hvalue members)
        ((k, v.mapTexts value) :: ·))

end

end

variable (ev : Evaluator)

def keepText (text : String) : Failure → Option (Evaluation Json)
  | .soft f => some do
    ev.report (.keptText f)
    return .string text
  | _ => none

theorem evaluateLeaf_eq_rescue (call : Call) (text : String) (context : Json) :
    ev.evaluateLeaf call text context =
      (ev.evaluateText call text context).rescue (ev.keepText text) := by
  unfold evaluateLeaf
  congr 1

theorem value_string_eq_rescue (text : String) (context : Json) (s : Stacks) :
    ev.value (.string text) context s = (ev.text text context).rescue (ev.keepText text) s := by
  unfold value withRoom
  dsimp only
  rw [walk, evaluateLeaf_eq_rescue]
  apply rescue_congr
  unfold Evaluator.text withRoom
  rfl

theorem value_string_of_head? {text : String} (h : text.toList.head? ≠ some '$') (context : Json)
    (s : Stacks) : ev.value (.string text) context s = ⟨.ok (.string text), s, []⟩ := by
  have htext : ev.text text context s = ⟨.ok (.string text), s, []⟩ := by
    unfold Evaluator.text withRoom evaluateText
    rw [Expression.parse_of_head? h]
    rfl
  rw [value_string_eq_rescue]
  exact rescue_of_ok htext

/-- A text becomes what it evaluates to, or stays after a soft failure, which is reported. -/
theorem value_string (text : String) (context : Json) (s : Stacks) :
    ev.value (.string text) context s =
      match ev.text text context s with
      | ⟨.error (.soft f), _, l⟩ =>
        ⟨.ok (.string text), s, l ++ if ev.settings.quiet then [] else [.keptText f]⟩
      | o => o := by
  have hstack := ev.text_restores text context s
  rw [value_string_eq_rescue]
  rcases htext : ev.text text context s with ⟨r, s', l⟩
  obtain rfl : s' = s := by rw [← hstack, htext]
  cases r with
  | ok v => exact rescue_of_ok htext
  | error e =>
    cases e with
    | soft f =>
      rw [rescue_of_handled htext rfl, bind_of_ok rfl]
      cases hquiet : ev.settings.quiet <;>
        simp [pure_apply, Settings.shows, Diagnostic.isTrace, hquiet]
    | _ => exact rescue_of_unhandled htext rfl

theorem value_string_eq_leaf (text : String) (context : Json) (s : Stacks) :
    ev.value (.string text) context s =
      ev.evaluateLeaf (ev.call (s.room ev.settings.maxDepth + 1)) text context s := by
  unfold value withRoom
  dsimp only
  rw [walk]

def valueOr (default : String → Json) (context : Json) (s : Stacks) (text : String) : Json :=
  (ev.value (.string text) context s).result.toOption.getD (default text)

theorem valueOr_of_ok {default : String → Json} {context v : Json} {s : Stacks} {text : String}
    (h : (ev.value (.string text) context s).result = .ok v) :
    ev.valueOr default context s text = v := by
  simp only [valueOr, h, Except.toOption, Option.getD_some]

theorem value_eq_sequel (default : String → Json) (template context : Json) (s : Stacks) :
    ev.value template context s =
      sequel (fun t => ev.value (.string t) context s)
        (template.mapTexts (ev.valueOr default context s)) s template.texts := by
  have hvalue : ∀ t v, (ev.value (.string t) context s).result = .ok v →
      ev.valueOr default context s t = v := fun t v => ev.valueOr_of_ok
  simp only [value_string_eq_leaf] at hvalue ⊢
  refine walk_eq_sequel (fun t => ?_) hvalue template
  rw [← value_string_eq_leaf]
  exact ev.value_restores (.string t) context s

theorem value_of_texts_ok {template context : Json} {s : Stacks} {value : String → Json}
    (h : ∀ t ∈ template.texts, (ev.value (.string t) context s).result = .ok (value t)) :
    ev.value template context s = ⟨.ok (template.mapTexts value), s,
      template.texts.flatMap fun t => (ev.value (.string t) context s).log⟩ := by
  have hsame : template.mapTexts value = template.mapTexts (ev.valueOr value context s) :=
    Json.mapTexts_congr fun t ht => (ev.valueOr_of_ok (h t ht)).symm
  rw [hsame, ev.value_eq_sequel value]
  exact sequel_of_ok (fun t ht => ⟨value t, h t ht⟩) _

theorem value_of_text_error {template context : Json} {s : Stacks} {before after : List String}
    {text : String} {f : Failure} (htexts : template.texts = before ++ text :: after)
    (hbefore : ∀ t ∈ before, ∃ v, (ev.value (.string t) context s).result = .ok v)
    (h : (ev.value (.string text) context s).result = .error f) :
    ev.value template context s = ⟨.error f, s,
      (before ++ [text]).flatMap fun t => (ev.value (.string t) context s).log⟩ := by
  rw [ev.value_eq_sequel .string, htexts]
  exact sequel_of_error hbefore h _

/-- A template has a value exactly if all its texts have values on the same stacks, and then it is
the template with these in their places. Otherwise it fails as the first text that has none. The
diagnostics are those of the texts up to there. A text that is no expression stays; another one
becomes what it evaluates to, or stays after a soft failure, which is reported. -/
theorem value_leafwise (ev : Evaluator) (template context : Json) (s : Stacks) :
    let leaf (text : String) : Outcome Json := ev.value (.string text) context s
    ((∃ v, (ev.value template context s).result = .ok v) ↔
      ∀ t ∈ template.texts, ∃ v, (leaf t).result = .ok v) ∧
    (∀ value : String → Json, (∀ t ∈ template.texts, (leaf t).result = .ok (value t)) →
      ev.value template context s =
        ⟨.ok (template.mapTexts value), s, template.texts.flatMap fun t => (leaf t).log⟩) ∧
    (∀ before text after f, template.texts = before ++ text :: after →
      (∀ t ∈ before, ∃ v, (leaf t).result = .ok v) → (leaf text).result = .error f →
      ev.value template context s =
        ⟨.error f, s, (before ++ [text]).flatMap fun t => (leaf t).log⟩) ∧
    (∀ text, text.toList.head? ≠ some '$' → leaf text = ⟨.ok (.string text), s, []⟩) ∧
    ∀ text, leaf text =
      match ev.text text context s with
      | ⟨.error (.soft f), _, l⟩ =>
        ⟨.ok (.string text), s, l ++ if ev.settings.quiet then [] else [.keptText f]⟩
      | o => o := by
  intro leaf
  refine ⟨⟨?_, ?_⟩, fun value h => ev.value_of_texts_ok h,
    fun before text after f htexts hbefore h => ev.value_of_text_error htexts hbefore h,
    fun text h => ev.value_string_of_head? h context s,
    fun text => ev.value_string text context s⟩
  · rintro ⟨v, hv⟩
    by_contra hall
    obtain ⟨before, text, after, f, htexts, hbefore, hf⟩ := exists_first_failure hall
    rw [ev.value_of_text_error htexts hbefore hf] at hv
    cases hv
  · intro hall
    choose! value hvalue using hall
    exact ⟨_, by rw [ev.value_of_texts_ok hvalue]⟩

theorem value_stops_at_unknown (context : Json) :
    let ev : Evaluator := { spec := {} }
    ev.value (.array [.string "a", .object [(.name "k", .string "$b")], .string "$c"]) context {} =
      ⟨.error (.resolution (.unknown "b")), {}, []⟩ := by
  intro ev
  obtain ⟨-, -, hfails, htext, -⟩ := ev.value_leafwise
    (.array [.string "a", .object [(.name "k", .string "$b")], .string "$c"]) context {}
  have ha := htext "a" (by decide)
  have hb : (ev.value (.string "$b") context {}).result = .error (.resolution (.unknown "b")) := rfl
  have hlog : (ev.value (.string "$b") context {}).log = [] := rfl
  have h := hfails ["a"] "$b" ["$c"] _ rfl (by simp [ha]) hb
  simpa [ha, hlog] using h

end Evaluator

end JsonTemplate
