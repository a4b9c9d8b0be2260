import JsonTemplate.Proofs.Evaluation.DepthLimit
import JsonTemplate.Proofs.Evaluation.Restoration
import Mathlib.Data.List.Chain

/-!
# How deep inputs nest

The chain of inputs being resolved is at every moment a walk: its first name is mentioned by the
output, and each later one by the input before it. It never grows beyond the limit, so rendering
ends, whatever calls nested deeper than that would do; and a name that does not fit any more is
reported with a walk of one input too many.
-/

namespace JsonTemplate

namespace Evaluator

open Evaluation

variable (ev : Evaluator)

def Refers (m n : String) : Prop :=
  ∃ d, ev.spec.input? m = some d ∧ n ∈ d.mentions ev.host

/-- Declared inputs, the first of them mentioned by the output and each later one by the one
before it. -/
structure IsWalk (names : List String) : Prop where
  declared : ∀ n ∈ names, (ev.spec.input? n).isSome
  start : ∀ n ∈ names.head?, ∃ template, ev.spec.output = some template ∧ n ∈ template.mentions
  linked : names.IsChain ev.Refers

def Continues (names : List String) (n : String) : Prop :=
  match names.getLast? with
  | none => ∃ template, ev.spec.output = some template ∧ n ∈ template.mentions
  | some m => ev.Refers m n

variable {ev}

theorem isWalk_nil : ev.IsWalk [] where
  declared := nofun
  start := nofun
  linked := .nil

theorem IsWalk.concat {names : List String} (h : ev.IsWalk names) {n : String} {d : Declaration}
    (hn : ev.Continues names n) (hd : ev.spec.input? n = some d) : ev.IsWalk (names ++ [n]) := by
  unfold Continues at hn
  constructor
  case declared =>
    intro m hm
    rcases List.mem_append.mp hm with hm | hm
    · exact h.declared m hm
    · rw [List.mem_singleton.mp hm, hd]
      rfl
  case start =>
    intro m hm
    cases names with
    | nil =>
      cases hm
      exact hn
    | cons p names => exact h.start m hm
  case linked =>
    refine List.isChain_append.mpr ⟨h.linked, .singleton n, fun m hm p hp => ?_⟩
    cases hp
    rw [hm] at hn
    exact hn

theorem continues_concat {names : List String} {m n : String} {d : Declaration}
    (hd : ev.spec.input? m = some d) (hn : n ∈ d.mentions ev.host) :
    ev.Continues (names ++ [m]) n := by
  unfold Continues
  rw [List.getLast?_concat]
  exact ⟨d, hd, hn⟩

variable (ev)

/-- Whether a failure, if it is a full chain, is a walk of one input more than the limit. -/
def IsHonest (f : Failure) : Prop :=
  ∀ chain limit, f = .depth chain limit →
    limit = ev.settings.maxDepth ∧ chain.length = ev.settings.maxDepth + 1 ∧ ev.IsWalk chain

/-- Two evaluations with the same honest outcome wherever the given names are on the chain. -/
structure AlikeOn (names : List String) {α : Type} (x y : Evaluation α) : Prop where
  restores : y.Restores
  same : ∀ s, s.chain.reverse = names → x s = y s
  honest : ∀ s, s.chain.reverse = names → ∀ f, (y s).result = .error f → ev.IsHonest f

variable {ev} {names : List String} {α β : Type}

theorem alikeOn_of_ok {x : Evaluation α} (hrestores : x.Restores)
    (hok : ∀ s, ∃ a, (x s).result = .ok a) : ev.AlikeOn names x x where
  restores := hrestores
  same _ _ := rfl
  honest s _ f hf := by
    obtain ⟨a, ha⟩ := hok s
    rw [ha] at hf
    cases hf

theorem alikeOn_fail {f : Failure} (h : ∀ chain limit, f ≠ .depth chain limit) :
    ev.AlikeOn names (.fail f : Evaluation α) (.fail f) where
  restores _ := rfl
  same _ _ := rfl
  honest s _ g hg chain limit hdepth := by
    cases hg
    exact absurd hdepth (h chain limit)

theorem AlikeOn.bind {x y : Evaluation α} {f g : α → Evaluation β} (hx : ev.AlikeOn names x y)
    (hf : ∀ a, ev.AlikeOn names (f a) (g a)) : ev.AlikeOn names (x >>= f) (y >>= g) where
  restores := hx.restores.bind fun a => (hf a).restores
  same s hs := by
    have hstack := hx.restores s
    have hxs := hx.same s hs
    rcases hys : y s with ⟨r, s', l⟩
    rw [hys] at hxs hstack
    obtain rfl : s' = s := hstack
    cases r with
    | error e => rw [bind_of_error hxs, bind_of_error hys]
    | ok a => rw [bind_of_ok hxs, bind_of_ok hys, (hf a).same s' hs]
  honest s hs e he := by
    rcases result_bind_eq_error_iff.mp he with hy | ⟨a, -, hg⟩
    · exact hx.honest s hs e hy
    · rw [hx.restores s] at hg
      exact (hf a).honest s hs e hg

theorem AlikeOn.rescue {x y : Evaluation α} {h k : Failure → Option (Evaluation α)}
    (hx : ev.AlikeOn names x y) (hh : ∀ f, Option.Rel (ev.AlikeOn names) (h f) (k f)) :
    ev.AlikeOn names (x.rescue h) (y.rescue k) := by
  -- both handle the same failures, and alike
  have hcases : ∀ f, (h f = none ∧ k f = none) ∨
      ∃ w z, h f = some w ∧ k f = some z ∧ ev.AlikeOn names w z := by
    intro f
    have hf := hh f
    cases hw : h f with
    | none =>
      cases hz : k f with
      | none => exact .inl ⟨rfl, rfl⟩
      | some z =>
        rw [hw, hz] at hf
        cases hf
    | some w =>
      cases hz : k f with
      | none =>
        rw [hw, hz] at hf
        cases hf
      | some z =>
        rw [hw, hz] at hf
        cases hf with
        | some hwz => exact .inr ⟨w, z, rfl, rfl, hwz⟩
  constructor
  case restores =>
    refine hx.restores.rescue fun f y hy => ?_
    rcases hcases f with ⟨-, hnone⟩ | ⟨w, z, -, hz, hwz⟩
    · rw [hnone] at hy
      cases hy
    · rw [hz] at hy
      cases hy
      exact hwz.restores
  case same =>
    intro s hs
    have hstack := hx.restores s
    have hxs := hx.same s hs
    rcases hys : y s with ⟨r, s', l⟩
    rw [hys] at hxs hstack
    obtain rfl : s' = s := hstack
    cases r with
    | ok a => rw [rescue_of_ok hxs, rescue_of_ok hys]
    | error e =>
      rcases hcases e with ⟨hnone, hnone'⟩ | ⟨w, z, hw, hz, hwz⟩
      · rw [rescue_of_unhandled hxs hnone, rescue_of_unhandled hys hnone']
      · rw [rescue_of_handled hxs hw, rescue_of_handled hys hz, hwz.same s' hs]
  case honest =>
    intro s hs f hf
    have hstack := hx.restores s
    rcases hys : y s with ⟨r, s', l⟩
    rw [hys] at hstack
    obtain rfl : s' = s := hstack
    cases r with
    | ok a =>
      rw [rescue_of_ok hys] at hf
      cases hf
    | error e =>
      rcases hcases e with ⟨-, hnone⟩ | ⟨w, z, -, hz, hwz⟩
      · rw [rescue_of_unhandled hys hnone] at hf
        cases hf
        exact hx.honest s' hs f (by rw [hys])
      · rw [rescue_of_handled hys hz] at hf
        exact hwz.honest s' hs f hf

theorem AlikeOn.framed {x y : Evaluation α} (hx : ev.AlikeOn names x y) (f : Frame) :
    ev.AlikeOn names (x.framed f) (y.framed f) where
  restores := hx.restores.framed f
  same s hs := by
    unfold Evaluation.framed
    rw [hx.same (s.pushFrame f) hs]
  honest s hs e he := hx.honest (s.pushFrame f) hs e he

/-- A name that fits is followed by an evaluation on the longer chain; one that does not fit ends
the evaluation with the whole chain. -/
theorem AlikeOn.entered {x y : Evaluation α} {n : String} {d : Declaration}
    (hwalk : ev.IsWalk names) (hlength : names.length ≤ ev.settings.maxDepth)
    (hn : ev.Continues names n) (hd : ev.spec.input? n = some d) (hy : y.Restores)
    (hx : names.length < ev.settings.maxDepth → ev.AlikeOn (names ++ [n]) x y) :
    ev.AlikeOn names (.entered ev.settings.maxDepth n x) (.entered ev.settings.maxDepth n y) := by
  have hchain : ∀ s : Stacks, s.chain.reverse = names → s.chain.length = names.length := by
    rintro s rfl
    exact List.length_reverse.symm
  constructor
  case restores => exact hy.entered _ n
  case same =>
    intro s hs
    have hs' := hchain s hs
    by_cases hfull : (ev.settings.maxDepth : Int) ≤ s.chain.length
    · rw [entered_of_full hfull, entered_of_full hfull]
    · have hinner := (hx (by omega)).same { s with chain := n :: s.chain } (by simp [hs])
      rw [entered_of_room hfull, entered_of_room hfull, hinner]
  case honest =>
    intro s hs f hf
    have hs' := hchain s hs
    by_cases hfull : (ev.settings.maxDepth : Int) ≤ s.chain.length
    · rw [entered_of_full hfull, hs] at hf
      cases hf
      rintro chain limit ⟨⟩
      refine ⟨rfl, ?_, hwalk.concat hn hd⟩
      rw [List.length_append, List.length_singleton]
      omega
    · rw [entered_of_room hfull] at hf
      exact (hx (by omega)).honest { s with chain := n :: s.chain } (by simp [hs]) f hf

variable (ev names) in
def onChain : Congruence ev ev where
  rel := ev.AlikeOn names
  pure a := alikeOn_of_ok (fun _ => rfl) fun _ => ⟨a, rfl⟩
  fail := alikeOn_fail
  bind := AlikeOn.bind
  rescue hx hh _ := hx.rescue hh
  report _ := alikeOn_of_ok (fun _ => rfl) fun _ => ⟨(), rfl⟩
  lookup name := alikeOn_of_ok (fun _ => rfl) fun s => ⟨s.lookup? name, rfl⟩
  framed f _ _ hx := hx.framed f
  surroundings := .refl ev

variable (ev) in
/-- Resolves a name; names that are called more than `room` levels deep are resolved in a given
way. -/
def callOr (deeper : Call) : Nat → Call
  | 0 => deeper
  | room + 1 => fun name context args => ev.resolve (callOr deeper room) name context args

theorem call_alike (deeper : Call) {room room' : Nat} {names : List String}
    (hwalk : ev.IsWalk names) (hlength : names.length ≤ ev.settings.maxDepth)
    (hroom : ev.settings.maxDepth < room + names.length)
    (hroom' : ev.settings.maxDepth < room' + names.length) {n : String}
    (hn : ev.Continues names n) :
    (ev.onChain names).Calls (ev.callOr deeper room) (ev.call room') n := by
  -- no room is left only where the walk would have to be longer than the limit
  induction room generalizing room' names n with
  | zero => omega
  | succ room ih =>
    obtain ⟨rest, rfl⟩ : ∃ rest, room' = rest + 1 := ⟨room' - 1, by omega⟩
    intro context args
    refine (ev.onChain names).resolve rfl fun d hd => ?_
    have hcalls : ∀ m, ev.restoration.congruence.Calls (ev.call rest) (ev.call rest) m :=
      ev.call_restores rest
    have hrestores : (ev.resolveInput (ev.call rest) d context args).Restores :=
      ev.restoration.congruence.resolveInput (fun m _ => hcalls m) context args
    refine AlikeOn.entered hwalk hlength hn hd hrestores fun hshort => ?_
    refine (ev.onChain (names ++ [n])).resolveInput (fun m hm => ?_) context args
    refine ih (hwalk.concat hn hd) ?_ ?_ ?_ (continues_concat hd hm) <;>
      rw [List.length_append, List.length_singleton] <;> omega

/-- Rendering never gets to calls that nest deeper than the limit, so it ends. If it comes upon a
name that does not fit on the chain any more, the failure shows a walk of one input more than the
limit; so it never does if there is no such walk. -/
theorem render_ends_on_walks (ev : Evaluator) (input : Json) (s : Stacks) :
    (∀ template, ev.spec.output = some template → ∀ (deeper : Call) (room : Nat),
      ev.settings.maxDepth < room →
        ev.walk (ev.callOr deeper room) input template {} = ev.render input s) ∧
    (∀ chain limit, (ev.render input s).result = .error (.depth chain limit) →
      limit = ev.settings.maxDepth ∧ chain.length = ev.settings.maxDepth + 1 ∧
        ev.IsWalk chain) ∧
    ((∀ names, ev.IsWalk names → names.length ≤ ev.settings.maxDepth) →
      ¬ (ev.render input s).TooDeep) := by
  have hwalks : ∀ template, ev.spec.output = some template → ∀ (deeper : Call) (room : Nat),
      ev.settings.maxDepth < room → ev.AlikeOn []
        (ev.walk (ev.callOr deeper room) input template)
        (ev.walk (ev.call (ev.settings.maxDepth + 1)) input template) := by
    intro template houtput deeper room hroom
    refine (ev.onChain []).walk (fun n hn => ?_) input
    exact call_alike deeper isWalk_nil (Nat.zero_le _) hroom (Nat.lt_succ_self _)
      ⟨template, houtput, hn⟩
  have hrender : ∀ template, ev.spec.output = some template →
      ev.render input s = ev.walk (ev.call (ev.settings.maxDepth + 1)) input template {} := by
    intro template houtput
    unfold render
    rw [houtput]
    rfl
  have hhonest : ∀ chain limit, (ev.render input s).result = .error (.depth chain limit) →
      limit = ev.settings.maxDepth ∧ chain.length = ev.settings.maxDepth + 1 ∧
        ev.IsWalk chain := by
    intro chain limit hdeep
    cases houtput : ev.spec.output with
    | none =>
      unfold render at hdeep
      rw [houtput] at hdeep
      cases hdeep
    | some template =>
      rw [hrender template houtput] at hdeep
      have halike := hwalks template houtput (ev.call 0) _ (Nat.lt_succ_self _)
      exact halike.honest {} rfl _ hdeep chain limit rfl
  refine ⟨?_, hhonest, ?_⟩
  · intro template houtput deeper room hroom
    rw [hrender template houtput]
    exact (hwalks template houtput deeper room hroom).same {} rfl
  · rintro hshort ⟨chain, limit, hdeep⟩
    obtain ⟨-, hlength, hwalk⟩ := hhonest chain limit hdeep
    have hle := hshort chain hwalk
    omega

def settling : Evaluator :=
  { descending with spec :=
      { inputs := [("a", ⟨"a", .inline, .string "$", none, true, []⟩)]
        output := some (.string "$ | a") } }

theorem render_descending_ends :
    (descending.limited 2 (by decide)).walk
        ((descending.limited 2 (by decide)).callOr (fun _ _ _ => .fail (.spec .noOutput)) 3)
        (.array [.array []]) (.string "$ | a") {} =
      (descending.limited 2 (by decide)).render (.array [.array []]) {} ∧
    (descending.limited 1 (by decide)).IsWalk ["a", "a"] ∧
    ¬ ((settling.limited 1 (by decide)).render (.array [.array []]) {}).TooDeep := by
  refine ⟨?_, ?_, ?_⟩
  · exact ((descending.limited 2 _).render_ends_on_walks (.array [.array []]) {}).1 _ rfl _ 3
      (by decide)
  · have hdeep : ((descending.limited 1 (by decide)).render (.array [.array []]) {}).fullChain? =
        some ["a", "a"] := by decide +kernel
    obtain ⟨limit, hdeep⟩ := Outcome.fullChain?_eq_some_iff.mp hdeep
    exact (((descending.limited 1 _).render_ends_on_walks (.array [.array []]) {}).2.1 _ _ hdeep).2.2
  · refine ((settling.limited 1 _).render_ends_on_walks (.array [.array []]) {}).2.2 ?_
    rintro (_ | ⟨m, _ | ⟨n, names⟩⟩) hwalk
    · exact Nat.zero_le _
    · exact Nat.le_refl _
    · obtain ⟨d, hd, hn⟩ := hwalk.linked.rel
      change (if "a" = m then some _ else none) = some d at hd
      split at hd
      · cases hd
        exact absurd hn (List.eq_nil_iff_forall_not_mem.mp (by decide +kernel) n)
      · cases hd

end Evaluator

end JsonTemplate
