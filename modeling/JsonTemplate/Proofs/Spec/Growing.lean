import JsonTemplate.Proofs.Spec.Closure
import JsonTemplate.Proofs.Spec.Reordering

/-!
# Specs only grow

Inputs, outputs and other specs can be added to a spec in any order, and some of these additions may
fail, a merge even halfway. Whatever has been added and whatever has failed, all names are
identifiers, each of them stands once and for its own declaration and none is taken by a builtin;
and nothing that was there before is lost.
-/

namespace JsonTemplate

namespace Spec

open Declaration (entries)

variable {s r t other : Spec} {d : Declaration} {ds : List Declaration} {f : SpecFailure}

structure Orderly (s : Spec) : Prop extends s.WellFormed where
  identifiers : ∀ d ∈ s.declarations, Text.isIdentifier d.name.toList = true

/-- Holds all that `s` holds: the names in their order with declarations that are the same, the
output, and the description unless it is empty. -/
structure Grows (s r : Spec) : Prop where
  names : Assoc.keys s.inputs <+: Assoc.keys r.inputs
  declarations : ∀ name d, s.input? name = some d →
    ∃ e, r.input? name = some e ∧ (e = d ∨ d.same? e = .ok true)
  output : ∀ v, s.output = some v → r.output = some v
  description : s.description.getD "" ≠ "" → r.description = s.description

def taking (s other : Spec) (ds : List Declaration) : Spec :=
  { s with output := other.output.or s.output, inputs := Assoc.putAll s.inputs (entries ds) }

theorem addInputs_of_ok (h : s.addInputs ds = ⟨t, none⟩) :
    t = { s with inputs := Assoc.putAll s.inputs (entries ds) } := by
  induction ds generalizing s with
  | nil =>
    cases h
    rfl
  | cons d ds ih =>
    obtain ⟨r, hr, h⟩ := addInputs_cons_eq_iff.mp h
    obtain ⟨-, -, rfl⟩ := addInput_eq_ok_iff.mp hr
    exact ih h

/-- Inputs are refused at the first one that is. -/
theorem addInputs_of_error (h : s.addInputs ds = ⟨t, some f⟩) :
    ∃ before d after, ds = before ++ d :: after ∧ s.addInputs before = ⟨t, none⟩ ∧
      t.addInput d = .error f := by
  induction ds generalizing s with
  | nil => cases h
  | cons d ds ih =>
    unfold addInputs at h
    cases hd : s.addInput d with
    | error g =>
      rw [hd] at h
      cases h
      exact ⟨[], d, ds, rfl, rfl, hd⟩
    | ok r =>
      rw [hd] at h
      obtain ⟨before, e, after, rfl, hbefore, he⟩ := ih h
      exact ⟨d :: before, e, after, rfl, addInputs_cons_eq_iff.mpr ⟨r, hd, hbefore⟩, he⟩

theorem addInputsOf_of_error (h : s.addInputsOf other = ⟨t, some f⟩) :
    s.addInputs other.declarations = ⟨t, some f⟩ := by
  unfold addInputsOf at h
  split at h
  · cases h
  · exact h

/-- A merge keeps what holds of the spec after every step of it. -/
theorem merge_induction {P : Spec → Prop} (start : P s)
    (input : ∀ t r, ∀ d ∈ other.declarations, P t → t.addInput d = .ok r → P r)
    (output : ∀ v r, other.output = some v → s.addOutput v = .ok r → P r)
    (describe : ∀ t description, P t → P (t.describe description)) : P (s.merge other).spec := by
  have hinputs : ∀ ds ⊆ other.declarations, ∀ t, P t → P (t.addInputs ds).spec := by
    intro ds hds
    induction ds with
    | nil => exact fun t ht => ht
    | cons d ds ih =>
      intro t ht
      obtain ⟨hd, hds⟩ := List.cons_subset.mp hds
      unfold addInputs
      cases hr : t.addInput d with
      | ok r => exact ih hds r (input t r d hd ht hr)
      | error f => exact ht
  have hall : ∀ t, P t → P (t.addInputsOf other).spec := by
    intro t ht
    have hadded := hinputs other.declarations (List.Subset.refl _) t ht
    unfold addInputsOf
    change P (t.addInputs (other.inputs.map (·.2))).spec at hadded
    generalize t.addInputs (other.inputs.map (·.2)) = c at hadded
    rcases c with ⟨r, _ | f⟩
    · exact describe r other.description hadded
    · exact hadded
  unfold merge
  split
  · exact hall s start
  · next v hv =>
    cases hr : s.addOutput v with
    | ok r => exact hall r (output v r hv hr)
    | error f => exact start

theorem orderly_blank (uses : List String) (description : Option String) :
    ({ uses, description } : Spec).Orderly :=
  { wellFormed_blank uses description with identifiers := nofun }

theorem Orderly.addInput (h : s.Orderly) (hd : Text.isIdentifier d.name.toList = true)
    (hr : s.addInput d = .ok r) : r.Orderly := by
  refine { h.toWellFormed.addInput hr with identifiers := ?_ }
  obtain ⟨-, -, rfl⟩ := addInput_eq_ok_iff.mp hr
  intro d' hd'
  obtain ⟨e, he, rfl⟩ := List.mem_map.mp hd'
  obtain rfl | he := Assoc.mem_of_mem_put he
  · exact hd
  · exact h.identifiers e.2 (List.mem_map_of_mem he)

theorem Orderly.addOutput (h : s.Orderly) {v : Json} (hr : s.addOutput v = .ok r) :
    r.Orderly := by
  obtain ⟨-, rfl⟩ := addOutput_eq_ok_iff.mp hr
  exact { h.toWellFormed.withOutput (outputOf_ne_null v) with identifiers := h.identifiers }

theorem Orderly.describe (h : s.Orderly) (description : Option String) :
    (s.describe description).Orderly := by
  refine { h.toWellFormed.describe description with identifiers := ?_ }
  unfold declarations
  rw [inputs_describe]
  exact h.identifiers

theorem Grows.refl (s : Spec) : Grows s s where
  names := List.prefix_refl _
  declarations _ d hd := ⟨d, hd, .inl rfl⟩
  output _ hv := hv
  description _ := rfl

theorem Grows.trans (h : Grows s r) (h' : Grows r t) : Grows s t where
  names := h.names.trans h'.names
  declarations := by
    intro name d hd
    obtain ⟨e, he, hde⟩ := h.declarations name d hd
    obtain ⟨e', he', hee'⟩ := h'.declarations name e he
    refine ⟨e', he', ?_⟩
    obtain rfl | hde := hde
    · exact hee'
    · obtain rfl | hee' := hee'
      · exact .inr hde
      · exact .inr (Declaration.same?_trans hde hee')
  output v hv := h'.output v (h.output v hv)
  description := by
    intro hs
    have hr : r.description = s.description := h.description hs
    rw [← hr] at hs ⊢
    exact h'.description hs

theorem grows_addInput (hr : s.addInput d = .ok r) : Grows s r := by
  obtain ⟨-, hsame, rfl⟩ := addInput_eq_ok_iff.mp hr
  constructor
  case names =>
    change Assoc.keys s.inputs <+: Assoc.keys (Assoc.put d.name d s.inputs)
    rw [Assoc.keys_put]
    split
    · exact List.prefix_refl _
    · exact List.prefix_append _ _
  case declarations =>
    intro name e he
    by_cases hname : d.name = name
    · subst hname
      exact ⟨d, Assoc.get?_put_self d.name d s.inputs, .inr (hsame e he)⟩
    · exact ⟨e, (Assoc.get?_put_of_ne hname d s.inputs).trans he, .inl rfl⟩
  case output => exact fun v hv => hv
  case description => exact fun _ => rfl

theorem grows_addOutput {v : Json} (hr : s.addOutput v = .ok r) : Grows s r := by
  obtain ⟨hnone, rfl⟩ := addOutput_eq_ok_iff.mp hr
  refine { Grows.refl s with output := ?_ }
  intro w hw
  rw [hnone] at hw
  cases hw

theorem grows_describe (s : Spec) (description : Option String) :
    Grows s (s.describe description) := by
  unfold describe
  split
  · next hsilent => exact { Grows.refl s with description := fun hs => absurd hsilent.1 hs }
  · exact Grows.refl s

/-- A merge keeps what was there and stays in order, even if it fails. -/
theorem Orderly.merge (h : s.Orderly) (ho : other.Orderly) :
    (s.merge other).spec.Orderly ∧ Grows s (s.merge other).spec := by
  apply merge_induction (P := fun t => t.Orderly ∧ Grows s t)
  case start => exact ⟨h, Grows.refl s⟩
  case input =>
    rintro t r d hd ⟨ht, hst⟩ hr
    exact ⟨ht.addInput (ho.identifiers d hd) hr, hst.trans (grows_addInput hr)⟩
  case output => exact fun v r _ hr => ⟨h.addOutput hr, grows_addOutput hr⟩
  case describe =>
    rintro t description ⟨ht, hst⟩
    exact ⟨ht.describe description, hst.trans (grows_describe t description)⟩

theorem Orderly.declare (h : s.Orderly) {origin : String} {items : List Json} {index : Nat}
    (hr : declare origin index s items = .ok r) : r.Orderly := by
  induction items generalizing s index with
  | nil =>
    cases hr
    exact h
  | cons v items ih =>
    unfold Spec.declare at hr
    obtain ⟨d, hd, hr⟩ := except_bind_eq_ok_iff.mp hr
    obtain ⟨t, ht, hr⟩ := except_bind_eq_ok_iff.mp hr
    have hidentifier : Text.isIdentifier d.name.toList = true :=
      Declaration.isIdentifier_of_ofJson? (mapError_eq_ok_iff.mp hd)
    exact ih (h.addInput hidentifier ht) hr

theorem orderly_of_ofJson? {v : Json} {origin : String} (h : ofJson? v origin = .ok s) :
    s.Orderly := by
  refine { wellFormed_of_ofJson? h with identifiers := ?_ }
  obtain ⟨members, rfl⟩ := exists_members h
  obtain ⟨uses, description, items, t, -, -, -, ht, rfl⟩ := ofJson?_object_eq_ok_iff.mp h
  exact ((orderly_blank uses description).declare ht).identifiers

theorem closedUnderLoading_orderly (files : SpecFiles) :
    Loader.ClosedUnderLoading files (fun _ => True) fun x => ∀ s, x = .ok s → s.Orderly where
  read l _ s h := by
    obtain ⟨v, -, h⟩ := except_bind_eq_ok_iff.mp h
    exact orderly_of_ofJson? h
  blank uses description s h := by
    cases h
    exact orderly_blank uses description
  merged s other hs ho r h := by
    obtain ⟨hmerge, -⟩ := (hs s rfl).merge (ho other rfl)
    unfold merged at h
    split at h
    · next t hc =>
      cases h
      rw [hc] at hmerge
      exact hmerge
    · cases h
  used _ _ _ _ _ _ _ _ := trivial
  unlocated _ _ _ _ _ _ b _ s h := by cases h
  circular chain s h := by cases h

end Spec

/-- A loader that has loaded files before, whatever they held at the time. -/
inductive Loader.InUse : Loader → Prop
  | new (directory : Location) : InUse { directory }
  | load {loader : Loader} (h : InUse loader) (files : SpecFiles) (path : String) :
      InUse (loader.load files path).2
  | clear {loader : Loader} (h : InUse loader) : InUse loader.clearCache

theorem Loader.InUse.keepsOnly {loader : Loader} (h : loader.InUse) :
    loader.KeepsOnly fun x => ∀ s, x = .ok s → s.Orderly := by
  induction h with
  | new directory => exact keepsOnly_new _ directory
  | load _ files path ih =>
    exact ((Spec.closedUnderLoading_orderly files).load ih (fun _ _ => trivial) nofun).loader
  | clear _ _ => exact nofun

namespace Spec

open Declaration (entries)

variable {s r t other : Spec} {f : SpecFailure}

inductive Built : Spec → Prop
  | read {v : Json} {origin : String} {s : Spec} (h : ofJson? v origin = .ok s) : Built s
  | loaded {loader : Loader} {files : SpecFiles} {path : String} {s : Spec}
      (hloader : loader.InUse) (h : (loader.load files path).1 = .ok s) : Built s

theorem Built.orderly (h : s.Built) : s.Orderly := by
  cases h with
  | read h => exact orderly_of_ofJson? h
  | @loaded loader files path _ hloader h =>
    exact ((closedUnderLoading_orderly files).load hloader.keepsOnly (fun _ _ => trivial)
      nofun).result s h

inductive Addition where
  | input (d : Declaration)
  | output (v : Json)
  | merge (other : Spec)
  | use (files : SpecFiles) (path : String) (loader : Loader)

def attempt (s : Spec) : Except SpecFailure Spec → Change
  | .ok r => ⟨r, none⟩
  | .error f => ⟨s, some f⟩

theorem attempt_eq_iff {x : Except SpecFailure Spec} :
    s.attempt x = ⟨t, some f⟩ ↔ x = .error f ∧ t = s := by
  cases x <;> simp [attempt, eq_comm, and_comm]

theorem addOutput_eq_error_iff {v : Json} :
    s.addOutput v = .error f ↔ s.output.isSome = true ∧ f = .secondOutput := by
  cases ho : s.output <;> simp [addOutput, ho, eq_comm]

namespace Addition

def apply (s : Spec) : Addition → Change
  | input d => s.attempt (s.addInput d)
  | output v => s.attempt (s.addOutput v)
  | merge other => s.merge other
  | use files path loader => (s.addUse files path loader).1

theorem apply_use (files : SpecFiles) (path : String) (loader : Loader) :
    (use files path loader).apply s =
      match (loader.load files path).1 with
      | .ok other => s.merge other
      | .error f => ⟨s, some f⟩ := by
  unfold apply addUse
  dsimp only
  rcases loader.load files path with ⟨f | other, after⟩ <;> rfl

inductive Admissible : Addition → Prop
  | input {v : Json} {index : Int} {origin : String} {d : Declaration}
      (h : Declaration.ofJson? v index origin = .ok d) : Admissible (.input d)
  | output (v : Json) : Admissible (.output v)
  | merge {other : Spec} (h : other.Built) : Admissible (.merge other)
  | use {loader : Loader} (h : loader.InUse) (files : SpecFiles) (path : String) :
      Admissible (.use files path loader)

/-- How an addition to `s` can fail, and with which spec. Only a merge that comes to an input which
is refused has changed anything by then: it has the output and exactly the inputs before that
one. -/
inductive Fails (s : Spec) : Addition → Spec → SpecFailure → Prop
  | input {d : Declaration} {f : SpecFailure} (h : s.addInput d = .error f) :
      Fails s (.input d) s f
  | output (v : Json) (h : s.output.isSome = true) : Fails s (.output v) s .secondOutput
  | load {files : SpecFiles} {path : String} {loader : Loader} {f : SpecFailure}
      (h : (loader.load files path).1 = .error f) : Fails s (.use files path loader) s f
  | used {files : SpecFiles} {path : String} {loader : Loader} {other t : Spec} {f : SpecFailure}
      (hload : (loader.load files path).1 = .ok other) (h : Fails s (.merge other) t f) :
      Fails s (.use files path loader) t f
  | mergedOutput {other : Spec} (hs : s.output.isSome = true) (ho : other.output.isSome = true) :
      Fails s (.merge other) s .secondOutput
  | mergedInput {other : Spec} {before after : List Declaration} {d : Declaration}
      {f : SpecFailure} (hs : s.output = none ∨ other.output = none)
      (ho : other.declarations = before ++ d :: after)
      (h : (s.taking other before).addInput d = .error f) :
      Fails s (.merge other) (s.taking other before) f

variable {a : Addition}

theorem fails_merge (ho : other.output ≠ some .null) (h : s.merge other = ⟨t, some f⟩) :
    Fails s (.merge other) t f := by
  have hinput : ∀ r, s.output = none ∨ other.output = none →
      r = { s with output := other.output.or s.output } → r.addInputsOf other = ⟨t, some f⟩ →
        Fails s (.merge other) t f := by
    rintro r hs rfl h
    obtain ⟨before, d, after, hds, hbefore, hd⟩ := addInputs_of_error (addInputsOf_of_error h)
    obtain rfl : t = s.taking other before := addInputs_of_ok hbefore
    exact .mergedInput hs hds hd
  unfold Spec.merge at h
  cases hv : other.output with
  | none =>
    rw [hv] at h
    refine hinput s (.inr hv) ?_ h
    rw [hv, Option.none_or]
  | some v =>
    rw [hv] at h
    dsimp only at h
    cases hr : s.addOutput v with
    | ok r =>
      rw [hr] at h
      obtain ⟨hs, hr⟩ := addOutput_eq_ok_iff.mp hr
      refine hinput r (.inl hs) ?_ h
      have hv' : outputOf v = some v := outputOf_of_ne_null fun hnull => ho (by rw [hv, hnull])
      rw [hr, hv', hv, Option.some_or]
    | error g =>
      rw [hr] at h
      cases h
      obtain ⟨hs, rfl⟩ := addOutput_eq_error_iff.mp hr
      exact .mergedOutput hs (Option.isSome_of_eq_some hv)

theorem Admissible.fails (ha : a.Admissible) (h : a.apply s = ⟨t, some f⟩) :
    Fails s a t f := by
  cases ha with
  | input _ =>
    obtain ⟨hd, rfl⟩ := attempt_eq_iff.mp h
    exact .input hd
  | output v =>
    obtain ⟨hv, rfl⟩ := attempt_eq_iff.mp h
    obtain ⟨hs, rfl⟩ := addOutput_eq_error_iff.mp hv
    exact .output v hs
  | merge ho => exact fails_merge ho.orderly.output h
  | @use loader hloader files path =>
    rw [apply_use] at h
    cases hload : (loader.load files path).1 with
    | error g =>
      rw [hload] at h
      cases h
      exact .load hload
    | ok other =>
      rw [hload] at h
      have hbuilt : other.Built := .loaded hloader hload
      exact .used hload (fails_merge hbuilt.orderly.output h)

/-- Nothing is lost by an addition, even if it fails. -/
theorem Admissible.grows (ha : a.Admissible) (hs : s.Orderly) :
    (a.apply s).spec.Orderly ∧ Grows s (a.apply s).spec := by
  cases ha with
  | @input v index origin d hd =>
    dsimp only [apply]
    cases hr : s.addInput d with
    | ok r => exact ⟨hs.addInput (Declaration.isIdentifier_of_ofJson? hd) hr, grows_addInput hr⟩
    | error f => exact ⟨hs, Grows.refl s⟩
  | output v =>
    dsimp only [apply]
    cases hr : s.addOutput v with
    | ok r => exact ⟨hs.addOutput hr, grows_addOutput hr⟩
    | error f => exact ⟨hs, Grows.refl s⟩
  | merge ho => exact hs.merge ho.orderly
  | @use loader hloader files path =>
    rw [apply_use]
    cases hload : (loader.load files path).1 with
    | error f => exact ⟨hs, Grows.refl s⟩
    | ok other =>
      have hbuilt : other.Built := .loaded hloader hload
      exact hs.merge hbuilt.orderly

end Addition

def after (s : Spec) (additions : List Addition) : Spec :=
  additions.foldl (fun s a => (a.apply s).spec) s

theorem Orderly.after (h : s.Orderly) {additions : List Addition}
    (ha : ∀ a ∈ additions, a.Admissible) :
    (s.after additions).Orderly ∧ Grows s (s.after additions) := by
  induction additions generalizing s with
  | nil => exact ⟨h, Grows.refl s⟩
  | cons a additions ih =>
    obtain ⟨ha, hadditions⟩ := List.forall_mem_cons.mp ha
    obtain ⟨hstep, hgrows⟩ := ha.grows h
    obtain ⟨hrest, hgrows'⟩ := ih hstep hadditions
    exact ⟨hrest, hgrows.trans hgrows'⟩

/-- Whatever is added to an empty spec, it stays in order and holds all that it held at any earlier
time; and an addition that fails then has done no more than `Addition.Fails` says. -/
theorem empty_only_grows {earlier later : List Addition}
    (h : ∀ a ∈ earlier ++ later, a.Admissible) :
    (empty.after (earlier ++ later)).Orderly ∧
      Grows (empty.after earlier) (empty.after (earlier ++ later)) ∧
      ∀ (a : Addition) (t : Spec) (f : SpecFailure), a.Admissible →
        a.apply (empty.after (earlier ++ later)) = ⟨t, some f⟩ →
          a.Fails (empty.after (earlier ++ later)) t f := by
  obtain ⟨hearlier, hlater⟩ := List.forall_mem_append.mp h
  obtain ⟨hs, -⟩ := (orderly_blank [] none).after hearlier
  obtain ⟨hr, hgrows⟩ := hs.after hlater
  have happend : empty.after (earlier ++ later) = (empty.after earlier).after later :=
    List.foldl_append
  rw [happend]
  exact ⟨hr, hgrows, fun a t f ha hf => ha.fails hf⟩

def doubleDocument : Json :=
  .named [("input", .array [
    .named [("name", .string "w"), ("kind", .string "INLINE"), ("source", .null)],
    .named [("name", .string "x"), ("kind", .string "INLINE"), ("source", .bool true)]])]

def double : Spec :=
  (empty.put
    { name := "w", kind := .inline, source := .null, bindings := none, stdin := true,
      params := [] }).put
    { name := "x", kind := .inline, source := .bool true, bindings := none, stdin := true,
      params := [] }

/-- A merge that is refused at its second input has added the first one. -/
theorem empty_grows_halfway :
    ofJson? doubleDocument "b.json" = .ok double ∧ ∃ t,
      (Addition.merge double).apply (empty.after [.merge (single .null)]) =
        ⟨t, some (.conflict "x")⟩ ∧
      Assoc.keys t.inputs = ["x", "w"] ∧
      Addition.Fails (empty.after [.merge (single .null)]) (.merge double) t (.conflict "x") := by
  have hdouble : ofJson? doubleDocument "b.json" = .ok double := rfl
  refine ⟨hdouble, _, rfl, rfl, ?_⟩
  have hsingle : ∀ a ∈ [Addition.merge (single .null)] ++ [], a.Admissible := by
    intro a ha
    rw [List.append_nil, List.mem_singleton] at ha
    rw [ha]
    exact .merge (.read (ofJson?_singleDocument .null "a.json"))
  obtain ⟨-, -, hfails⟩ := empty_only_grows hsingle
  exact hfails _ _ _ (.merge (.read hdouble)) rfl

end Spec

end JsonTemplate
