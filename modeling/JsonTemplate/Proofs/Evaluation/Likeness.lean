import JsonTemplate.Proofs.Evaluation.Resolving
import JsonTemplate.Proofs.Path.Plain
import JsonTemplate.Proofs.Spec.Sameness

/-!
# Members in another order

Where no query and no command shows the order of members, that order has a part in an output only as
the order of its own members: a spec whose declarations are alike renders alike whatever is alike.
The members of an object and the local bindings of an input may then fail in another order too, so
the runs are related up to the failure that is met first.
-/

namespace JsonTemplate

open List (Forall₂)

def Expression.queriesOf (text : String) : List String :=
  match parse text with
  | .ok (some e) => if e.path = "" then [] else [e.query]
  | _ => []

def Json.queries (template : Json) : List String :=
  template.texts.flatMap Expression.queriesOf

theorem Json.queries_array (items : List Json) :
    (Json.array items).queries = items.flatMap Json.queries := by
  change (itemsTexts items).flatMap Expression.queriesOf = _
  induction items with
  | nil => rfl
  | cons v items ih =>
    rw [itemsTexts, List.flatMap_append, ih, List.flatMap_cons]
    rfl

theorem Json.queries_object (members : List (Key × Json)) :
    (Json.object members).queries = members.flatMap (·.2.queries) := by
  change (membersTexts members).flatMap Expression.queriesOf = _
  induction members with
  | nil => rfl
  | cons m members ih =>
    rw [membersTexts, List.flatMap_append, ih, List.flatMap_cons]
    rfl

/-- The queries in the local bindings of an input and in the template that its source leads to. -/
def Declaration.queries (h : Host) (d : Declaration) : List String :=
  (d.bindings.getD []).flatMap (·.2.queries) ++ ((d.template? h).map Json.queries).getD []

namespace Evaluator

def queries (ev : Evaluator) : List String :=
  (ev.spec.output.map Json.queries).getD [] ++ ev.spec.declarations.flatMap (·.queries ev.host)

/-- The query leads from values that are alike to values that are alike. -/
def BlindQuery (ev : Evaluator) (query : String) : Prop :=
  ∀ v w, v.Alike w →
    Option.Rel (Forall₂ Json.Alike) (ev.select? v query) (ev.select? w query)

def BlindCommand (ev : Evaluator) (command : String) : Prop :=
  ∀ v w, v.Alike w → Option.Rel Json.Alike
    (Command.run ev.host ev.settings.timeLimit command v true).toOption
    (Command.run ev.host ev.settings.timeLimit command w true).toOption

/-- No query and no command that receives a value shows the order of members. -/
structure OrderBlind (ev : Evaluator) : Prop where
  queries : ∀ query ∈ ev.queries, ev.BlindQuery query
  commands : ∀ d ∈ ev.spec.declarations, d.kind = .command → d.stdin = true →
    ∀ command, d.source = .string command → ev.BlindCommand command

/-- Plain paths are order blind, and so are commands that receive nothing. -/
theorem orderBlind_of_plain {ev : Evaluator} (hselect : ev.select? = Path.select?)
    (hqueries : ∀ query ∈ ev.queries, (Path.parse? query).all Path.isPlain = true)
    (hcommands : ∀ d ∈ ev.spec.declarations, d.kind = .command → d.stdin = false) :
    ev.OrderBlind where
  queries query hquery v w hvw := by
    rw [hselect]
    refine Path.select?_alike (fun p hp => ?_) hvw
    simpa [hp] using hqueries query hquery
  commands d hd hkind hstdin := by
    rw [hcommands d hd hkind] at hstdin
    cases hstdin

end Evaluator

structure Declaration.Restated (d e : Declaration) : Prop extends d.Alike e where
  left : d.toJson.Proper
  right : e.toJson.Proper

namespace Declaration

theorem proper_source {d : Declaration} (h : d.toJson.Proper) : d.source.Proper :=
  h.fields.2 ("source", d.source) (by simp)

theorem proper_bindings {d : Declaration} (h : d.toJson.Proper) :
    (Assoc.keys (d.bindings.getD [])).Nodup ∧ ∀ b ∈ d.bindings.getD [], b.2.Proper := by
  have hbindings : (bindingsJson d.bindings).Proper :=
    h.fields.2 ("lets", bindingsJson d.bindings) (by simp)
  cases hb : d.bindings with
  | none => exact ⟨List.nodup_nil, nofun⟩
  | some bs =>
    rw [hb] at hbindings
    exact hbindings.fields

theorem rel_of_alike_bindings {bs cs : Option (List (String × Json))}
    (h : (bindingsJson bs).Alike (bindingsJson cs)) :
    (bs = none ↔ cs = none) ∧ Assoc.Rel Json.Alike (bs.getD []) (cs.getD []) := by
  cases bs with
  | none =>
    cases cs with
    | none => exact ⟨Iff.rfl, fun _ => .none⟩
    | some cs => cases h
  | some bs =>
    cases cs with
    | none => cases h
    | some cs => exact ⟨by simp, Json.rel_of_alike_named h⟩

theorem Alike.sameShape {d e : Declaration} (h : d.Alike e) : d.SameShape e where
  name := h.name
  params := h.params
  none_iff := (rel_of_alike_bindings h.bindings).1

end Declaration

structure Evaluator.Restated (ev₁ ev₂ : Evaluator) : Prop where
  output : ev₁.spec.output = ev₂.spec.output
  inputs : ∀ name, Option.Rel Declaration.Restated (ev₁.spec.input? name) (ev₂.spec.input? name)
  settings : ev₁.settings = ev₂.settings
  host : ev₁.host = ev₂.host
  select : ev₁.select? = ev₂.select?

theorem Builtin.misuse?_alike {v w : Json} (h : v.Alike w) (b : Builtin)
    (args : Option (List String)) : b.misuse? v args = b.misuse? w args := by
  cases b with
  | unwrap =>
    cases h with
    | @array items others hlength _ =>
      rcases items with _ | ⟨v, _ | ⟨v', items⟩⟩ <;>
        rcases others with _ | ⟨w, _ | ⟨w', others⟩⟩ <;> simp_all [misuse?, Json.shape]
    | _ => rfl
  | map => cases h <;> rcases args with _ | _ | ⟨name, _ | _⟩ <;> rfl
  | ifelse => rfl

namespace Evaluator

open Evaluation Spec Stacks

variable {ev₁ ev₂ : Evaluator} {room : Nat} {v w : Json}

section

variable (hcalls : RelatesCalls Json.Alike ev₁ ev₂ room)

include hcalls

theorem baseValue_alike (e : Expression) (text : String) (hvw : v.Alike w) :
    Relates Json.Alike Json.Alike (baseValue (ev₁.call room) e text v)
      (baseValue (ev₂.call room) e text w) := by
  unfold baseValue
  rw [hvw.isNull_eq]
  split
  · split
    · exact relates_fail _
    · exact relates_pure hvw
  · exact hcalls e.input v w none hvw

theorem mapElements_alike (name : String) {vs ws : List Json} (h : Forall₂ Json.Alike vs ws) :
    Relates Json.Alike (Forall₂ Json.Alike) (ev₁.mapElements (ev₁.call room) name vs)
      (ev₂.mapElements (ev₂.call room) name ws) := by
  induction h with
  | nil => exact relates_pure .nil
  | @cons v w vs ws hvw _ ih =>
    have h₁ := ev₁.call_restores room name v none
    have h₂ := ev₂.call_restores room name w none
    exact (mapElement_relates (hcalls name v w none hvw) h₁ h₂ hvw).bind
      (ev₁.mapElement_restores h₁) (ev₂.mapElement_restores h₂) fun _ _ h =>
        ih.then_pure (ev₁.mapElements_restores room name vs) (ev₂.mapElements_restores room name ws)
          fun _ _ hs => .cons h hs

theorem applyBuiltin_alike (b : Builtin) (args : Option (List String)) (hvw : v.Alike w) :
    Relates Json.Alike Json.Alike (ev₁.applyBuiltin (ev₁.call room) b v args)
      (ev₂.applyBuiltin (ev₂.call room) b w args) := by
  have hmisuse := Builtin.misuse?_alike hvw b args
  cases hm : b.misuse? v args with
  | some m =>
    rw [applyBuiltin_of_misuse hm, applyBuiltin_of_misuse (hmisuse ▸ hm)]
    exact relates_fail _
  | none =>
    cases b with
    | unwrap =>
      simp only [Builtin.misuse?] at hm
      split at hm
      · next v =>
        cases w with
        | array ws =>
          obtain ⟨w, ws, hitem, hnil, rfl⟩ :=
            List.forall₂_cons_left_iff.mp (Json.alike_array_iff.mp hvw)
          obtain rfl := List.forall₂_nil_left_iff.mp hnil
          exact relates_pure hitem
        | _ => cases hvw
      · cases hm
    | map =>
      simp only [Builtin.misuse?] at hm
      split at hm
      · next vs name =>
        cases w with
        | array ws =>
          exact (mapElements_alike hcalls name (Json.alike_array_iff.mp hvw)).then_pure
            (ev₁.mapElements_restores room name vs) (ev₂.mapElements_restores room name ws)
            fun _ _ => Json.alike_array_iff.mpr
        | _ => cases hvw
      · cases hm
      · cases hm
    | ifelse =>
      simp only [Builtin.misuse?] at hm
      split at hm
      · unfold applyBuiltin
        rw [hvw.isTruthy_eq]
        exact hcalls _ v w none hvw
      · cases hm

theorem applyTransform_alike (t : Transform) (hvw : v.Alike w) :
    Relates Json.Alike Json.Alike (ev₁.applyTransform (ev₁.call room) t v)
      (ev₂.applyTransform (ev₂.call room) t w) := by
  unfold applyTransform
  split
  · exact applyBuiltin_alike hcalls _ _ hvw
  · exact hcalls t.name v w t.args hvw

theorem applyAll_alike (ts : List Transform) (hvw : v.Alike w) :
    Relates Json.Alike Json.Alike (ev₁.applyAll (ev₁.call room) ts v)
      (ev₂.applyAll (ev₂.call room) ts w) := by
  induction ts generalizing v w with
  | nil => exact relates_pure hvw
  | cons t ts ih =>
    exact (applyTransform_alike hcalls t hvw).bind (ev₁.applyTransform_restores room t v)
      (ev₂.applyTransform_restores room t w) fun _ _ h => ih h

end

theorem follow_alike (hselect : ev₁.select? = ev₂.select?) {e : Expression}
    (hquery : e.path ≠ "" → ev₁.BlindQuery e.query) (hvw : v.Alike w) :
    Relates Json.Alike Json.Alike (ev₁.follow e v) (ev₂.follow e w) := by
  unfold follow
  by_cases he : e.path = ""
  · rw [if_pos he, if_pos he]
    exact relates_pure hvw
  · rw [if_neg he, if_neg he, ← hselect]
    have hfound := hquery he v w hvw
    generalize ev₁.select? v e.query = found, ev₁.select? w e.query = found' at hfound
    cases hfound with
    | none => exact relates_fail _
    | some h => exact relates_pure (Json.alike_array_iff.mpr h)

theorem evaluateText_alike (hselect : ev₁.select? = ev₂.select?)
    (hcalls : RelatesCalls Json.Alike ev₁ ev₂ room) {text : String}
    (hqueries : ∀ query ∈ Expression.queriesOf text, ev₁.BlindQuery query) (hvw : v.Alike w) :
    Relates Json.Alike Json.Alike (ev₁.evaluateText (ev₁.call room) text v)
      (ev₂.evaluateText (ev₂.call room) text w) := by
  unfold evaluateText
  unfold Expression.queriesOf at hqueries
  cases hp : Expression.parse text with
  | error flaw => exact relates_fail _
  | ok parsed =>
    cases parsed with
    | none => exact relates_pure (.string text)
    | some e =>
      rw [hp] at hqueries
      have hquery : e.path ≠ "" → ev₁.BlindQuery e.query :=
        fun he => hqueries e.query (by simp [he])
      refine (baseValue_alike hcalls e text hvw).bind (ev₁.baseValue_restores room e text v)
        (ev₂.baseValue_restores room e text w) fun a b hab => ?_
      exact (follow_alike hselect hquery hab).bind (ev₁.follow_restores e a)
        (ev₂.follow_restores e b) fun _ _ h => applyAll_alike hcalls e.transforms h

theorem walk_alike (hselect : ev₁.select? = ev₂.select?)
    (hcalls : RelatesCalls Json.Alike ev₁ ev₂ room) (hvw : v.Alike w) {t t' : Json}
    (h : t.Alike t') (ht : t.Proper) (ht' : t'.Proper)
    (hqueries : ∀ query ∈ t.queries, ev₁.BlindQuery query) :
    Relates Json.Alike Json.Alike (ev₁.walk (ev₁.call room) v t)
      (ev₂.walk (ev₂.call room) w t') := by
  induction h with
  | null => exact relates_pure .null
  | bool b => exact relates_pure (.bool b)
  | int n => exact relates_pure (.int n)
  | float d => exact relates_pure (.float d)
  | string text =>
    have htext : ∀ query ∈ Expression.queriesOf text, ev₁.BlindQuery query := by
      simpa [Json.queries, Json.texts] using hqueries
    exact evaluateLeaf_relates (evaluateText_alike hselect hcalls htext hvw)
      (ev₁.evaluateText_restores room text v) (ev₂.evaluateText_restores room text w) (.string text)
  | @array items others hlength _ ih =>
    cases ht with
    | array ht =>
      cases ht' with
      | array ht' =>
        rw [Json.queries_array] at hqueries
        have hitems : Forall₂ (fun t t' => Relates Json.Alike Json.Alike
            (ev₁.walk (ev₁.call room) v t) (ev₂.walk (ev₂.call room) w t')) items others := by
          refine List.forall₂_iff_get.mpr ⟨hlength, fun i hi hi' => ?_⟩
          have hmem : items[i] ∈ items := List.getElem_mem hi
          exact ih i _ _ (List.getElem?_eq_getElem hi) (List.getElem?_eq_getElem hi')
            (ht _ hmem) (ht' _ (List.getElem_mem hi'))
            fun query hq => hqueries query (List.mem_flatMap.mpr ⟨_, hmem, hq⟩)
        exact (walkItems_relates hitems).then_pure (ev₁.walkItems_restores room v items)
          (ev₂.walkItems_restores room w others) fun _ _ => Json.alike_array_iff.mpr
  | @object members others hkeys _ ih =>
    cases ht with
    | object hnodup _ ht =>
      cases ht' with
      | object hnodup' _ ht' =>
        rw [Json.queries_object] at hqueries
        have hmembers : Assoc.Rel (fun t t' => Relates Json.Alike Json.Alike
            (ev₁.walk (ev₁.call room) v t) (ev₂.walk (ev₂.call room) w t')) members others := by
          refine Assoc.rel_iff.mpr ⟨hkeys, fun k t t' hk hk' => ?_⟩
          have hmem : (k, t) ∈ members := Assoc.mem_of_get? hk
          exact ih k t t' hk hk' (ht _ hmem) (ht' _ (Assoc.mem_of_get? hk'))
            fun query hq => hqueries query (List.mem_flatMap.mpr ⟨_, hmem, hq⟩)
        exact (walkMembers_relates hmembers hnodup hnodup').then_pure
          (ev₁.walkMembers_restores room v members) (ev₂.walkMembers_restores room w others)
          fun _ _ => Json.alike_object_iff.mpr

variable {d e : Declaration}

theorem walkBindings_alike (hselect : ev₁.select? = ev₂.select?)
    (hcalls : RelatesCalls Json.Alike ev₁ ev₂ room) (hvw : v.Alike w) (hde : d.Restated e)
    (hqueries : ∀ query ∈ d.queries ev₁.host, ev₁.BlindQuery query) :
    Relates Json.Alike (Assoc.Rel Json.Alike)
      (ev₁.walkBindings (ev₁.call room) v (d.bindings.getD []))
      (ev₂.walkBindings (ev₂.call room) w (e.bindings.getD [])) := by
  obtain ⟨hnodup, hproper⟩ := Declaration.proper_bindings hde.left
  obtain ⟨hnodup', hproper'⟩ := Declaration.proper_bindings hde.right
  obtain ⟨hkeys, hbindings⟩ := Assoc.rel_iff.mp (Declaration.rel_of_alike_bindings hde.bindings).2
  refine walkBindings_relates (Assoc.rel_iff.mpr ⟨hkeys, fun k t t' hk hk' => ?_⟩) hnodup hnodup'
  have hmem : (k, t) ∈ d.bindings.getD [] := Assoc.mem_of_get? hk
  refine walk_alike hselect hcalls hvw (hbindings k t t' hk hk') (hproper _ hmem)
    (hproper' _ (Assoc.mem_of_get? hk')) fun query hquery => hqueries query ?_
  exact List.mem_append_left _ (List.mem_flatMap.mpr ⟨(k, t), hmem, hquery⟩)

theorem run_alike (hvw : v.Alike w) {ev : Evaluator} {command : String} {stdin : Bool}
    (hblind : stdin = true → ev.BlindCommand command) :
    Option.Rel Json.Alike (Command.run ev.host ev.settings.timeLimit command v stdin).toOption
      (Command.run ev.host ev.settings.timeLimit command w stdin).toOption := by
  cases stdin with
  | true => exact hblind rfl v w hvw
  | false =>
    have hrun : Command.run ev.host ev.settings.timeLimit command v false =
        Command.run ev.host ev.settings.timeLimit command w false := rfl
    rw [hrun]
    cases (Command.run ev.host ev.settings.timeLimit command w false).toOption with
    | none => exact .none
    | some v => exact .some (.refl v)

/-- Commands that answer values that are alike, or both fail. -/
theorem relates_answer (name command : String) {r r' : Except (Breakdown ⊕ CommandFault) Json} :
    (∀ f, r = .error f → (Failure.ofCommand name command f).Leaves) →
    (∀ f, r' = .error f → (Failure.ofCommand name command f).Leaves) →
    Option.Rel Json.Alike r.toOption r'.toOption →
      Relates Json.Alike Json.Alike
        (match r with
        | .ok v => pure v
        | .error f => .fail (.ofCommand name command f))
        (match r' with
        | .ok v => pure v
        | .error f => .fail (.ofCommand name command f)) := by
  intro hr hr' h
  cases r with
  | ok a =>
    cases r' with
    | ok b =>
      cases h with
      | some hab => exact relates_pure hab
    | error g => cases h
  | error f =>
    cases r' with
    | ok b => cases h
    | error g =>
      refine fun _ _ _ => similar_of_leaves ?_ ?_ nofun nofun nofun
      · rintro _ ⟨⟩
        exact hr f rfl
      · rintro _ ⟨⟩
        exact hr' g rfl

theorem proper_of_ofFile? {h : Host} {path : String} {template : Json}
    (ht : Json.ofFile? h path = .ok template) : template.Proper := by
  obtain ⟨text, -, ht⟩ := except_bind_eq_ok_iff.mp ht
  exact Json.proper_of_parse (mapError_eq_ok_iff.mp ht)

theorem resolveSource_alike (h : Restated ev₁ ev₂)
    (hcalls : RelatesCalls Json.Alike ev₁ ev₂ room) (hvw : v.Alike w) (hde : d.Restated e)
    (hqueries : ∀ query ∈ d.queries ev₁.host, ev₁.BlindQuery query)
    (hcommand : d.kind = .command → d.stdin = true → ∀ command, d.source = .string command →
      ev₁.BlindCommand command) :
    Relates Json.Alike Json.Alike (ev₁.resolveSource (ev₁.call room) d v)
      (ev₂.resolveSource (ev₂.call room) e w) := by
  have hwalk : ∀ {t t' : Json}, d.template? ev₁.host = some t → t.Alike t' → t.Proper → t'.Proper →
      Relates Json.Alike Json.Alike (ev₁.walk (ev₁.call room) v t)
        (ev₂.walk (ev₂.call room) w t') := by
    intro t t' ht htt' hproper hproper'
    refine walk_alike h.select hcalls hvw htt' hproper hproper' fun query hquery => ?_
    exact hqueries query (List.mem_append_right _ (by simpa [ht] using hquery))
  have hsource := hde.source
  have hproper := Declaration.proper_source hde.left
  have hproper' := Declaration.proper_source hde.right
  unfold resolveSource
  unfold Declaration.template? at hwalk
  rw [← hde.kind, ← hde.stdin, ← hde.name, ← h.host, ← h.settings]
  generalize e.source = source' at hsource hproper' ⊢
  cases hk : d.kind with
  | inline =>
    rw [hk] at hwalk
    exact hwalk rfl hsource hproper hproper'
  | file =>
    rw [hk] at hwalk
    cases hs : d.source with
    | string path =>
      rw [hs] at hsource hwalk
      cases hsource
      dsimp only
      cases hfile : Json.ofFile? ev₁.host path with
      | ok template =>
        have hproper : template.Proper := proper_of_ofFile? hfile
        exact hwalk (by simp [hfile, Except.toOption]) (.refl template) hproper hproper
      | error f => exact relates_fail _
    | _ =>
      rw [hs] at hsource
      cases hsource
      exact relates_fail _
  | command =>
    cases hs : d.source with
    | string command =>
      rw [hs] at hsource
      cases hsource
      have hrun := run_alike hvw fun hstdin => hcommand hk hstdin command hs
      exact relates_answer d.name command (fun _ hf => Command.leaves_of_run hf d.name)
        (fun _ hf => Command.leaves_of_run hf d.name) hrun
    | _ =>
      rw [hs] at hsource
      cases hsource
      exact relates_fail _

theorem relatesInputs_of_restated (h : Restated ev₁ ev₂) (hblind : ev₁.OrderBlind)
    (hd : d ∈ ev₁.spec.declarations) (hde : d.Restated e) :
    RelatesInputs Json.Alike ev₁ ev₂ d e := by
  have hqueries : ∀ query ∈ d.queries ev₁.host, ev₁.BlindQuery query := fun query hquery =>
    hblind.queries query (List.mem_append_right _ (List.mem_flatMap.mpr ⟨d, hd, hquery⟩))
  exact
    { shape := hde.sameShape
      bindings := fun room hcalls v w hvw => walkBindings_alike h.select hcalls hvw hde hqueries
      source := fun room hcalls v w hvw =>
        resolveSource_alike h hcalls hvw hde hqueries (hblind.commands d hd) }

/-- Where nothing shows the order of members, specs whose declarations are alike render alike. -/
theorem render_alike (h : Restated ev₁ ev₂) (hblind : ev₁.OrderBlind)
    (houtput : ∀ template ∈ ev₁.spec.output, template.Proper) (hvw : v.Alike w) (s t : Stacks) :
    Similar Json.Alike (ev₁.render v s).result (ev₂.render w t).result := by
  have hdepth : ev₁.settings.maxDepth = ev₂.settings.maxDepth := by rw [h.settings]
  have hcalls : ∀ room, RelatesCalls Json.Alike ev₁ ev₂ room := by
    refine call_relates Json.Alike.refl hdepth fun name => ?_
    have hinput := h.inputs name
    generalize hd : ev₁.spec.input? name = found, ev₂.spec.input? name = found' at hinput
    cases hinput with
    | none => exact .none
    | some hde =>
      exact .some (relatesInputs_of_restated h hblind (mem_declarations_of_input? hd) hde)
  unfold render
  rw [← h.output]
  cases htemplate : ev₁.spec.output with
  | none => exact .same (.spec .noOutput)
  | some template =>
    have hproper : template.Proper := houtput template htemplate
    have hqueries : ∀ query ∈ template.queries, ev₁.BlindQuery query := fun query hquery =>
      hblind.queries query (List.mem_append_left _ (by simpa [htemplate] using hquery))
    have hvalue : Relates Json.Alike Json.Alike (ev₁.value template v) (ev₂.value template w) :=
      value_relates hdepth fun room =>
        walk_alike h.select (hcalls room) hvw (.refl template) hproper hproper hqueries
    exact hvalue {} {} (sameScope_empty Json.Alike)

end Evaluator

end JsonTemplate
