import JsonTemplate.Proofs.Evaluation.Outcome
import JsonTemplate.Proofs.Evaluation.Simulation

/-!
# The limit on nested inputs

A name that does not fit on the chain ends the whole evaluation, from inside any map, branch, local
binding, file or pipeline. So a run under a limit is the run under every greater limit as long as it
does not end that way.
-/

namespace JsonTemplate

def Outcome.TooDeep {α : Type} (o : Outcome α) : Prop :=
  ∃ chain limit, o.result = .error (.depth chain limit)

def Outcome.fullChain? {α : Type} (o : Outcome α) : Option (List String) :=
  match o.result with
  | .error (.depth chain _) => some chain
  | _ => none

theorem Outcome.fullChain?_eq_some_iff {α : Type} {o : Outcome α} {chain : List String} :
    o.fullChain? = some chain ↔ ∃ limit, o.result = .error (.depth chain limit) := by
  unfold fullChain?
  rcases o.result with f | a
  · cases f <;> simp
  · simp

theorem Outcome.tooDeep_iff {α : Type} {o : Outcome α} :
    o.fullChain?.isSome = true ↔ o.TooDeep := by
  rw [Option.isSome_iff_exists]
  exact exists_congr fun _ => fullChain?_eq_some_iff

instance {α : Type} (o : Outcome α) : Decidable o.TooDeep :=
  decidable_of_iff _ Outcome.tooDeep_iff

namespace Evaluation

variable {α β : Type}

/-- The first evaluation runs too deep, or else it is the second one. -/
def AgreesUnlessDeep (x y : Evaluation α) : Prop :=
  ∀ s, (x s).TooDeep ∨ x s = y s

theorem AgreesUnlessDeep.refl (x : Evaluation α) : x.AgreesUnlessDeep x :=
  fun _ => .inr rfl

theorem AgreesUnlessDeep.bind {x y : Evaluation α} {f g : α → Evaluation β}
    (hx : x.AgreesUnlessDeep y) (hf : ∀ a, (f a).AgreesUnlessDeep (g a)) :
    (x >>= f).AgreesUnlessDeep (y >>= g) := by
  intro s
  rcases hxs : x s with ⟨r, s', l⟩
  cases r with
  | error e =>
    rw [bind_of_error hxs]
    rcases hx s with ⟨chain, limit, hdeep⟩ | heq
    · rw [hxs] at hdeep
      cases hdeep
      exact .inl ⟨chain, limit, rfl⟩
    · exact .inr (bind_of_error (heq.symm.trans hxs) g).symm
  | ok a =>
    have hys : y s = ⟨.ok a, s', l⟩ := by
      rcases hx s with ⟨chain, limit, hdeep⟩ | heq
      · rw [hxs] at hdeep
        cases hdeep
      · exact heq.symm.trans hxs
    rw [bind_of_ok hxs, bind_of_ok hys]
    rcases hf a s' with hdeep | heq
    · exact .inl hdeep
    · exact .inr (by rw [heq])

theorem AgreesUnlessDeep.rescue {x y : Evaluation α} {h k : Failure → Option (Evaluation α)}
    (hx : x.AgreesUnlessDeep y) (hh : ∀ f, Option.Rel AgreesUnlessDeep (h f) (k f))
    (hdepth : ∀ chain limit, h (.depth chain limit) = none) :
    (x.rescue h).AgreesUnlessDeep (y.rescue k) := by
  intro s
  rcases hxs : x s with ⟨r, s', l⟩
  rcases hx s with ⟨chain, limit, hdeep⟩ | heq
  · -- a depth failure passes through, since nobody handles it
    rw [hxs] at hdeep
    cases hdeep
    rw [rescue_of_unhandled hxs (hdepth chain limit)]
    exact .inl ⟨chain, limit, rfl⟩
  · have hys : y s = ⟨r, s', l⟩ := heq.symm.trans hxs
    cases r with
    | ok a => exact .inr ((rescue_of_ok hxs).trans (rescue_of_ok hys).symm)
    | error e =>
      have he := hh e
      cases hhe : h e with
      | none =>
        cases hke : k e with
        | none =>
          have hxe := rescue_of_unhandled hxs hhe
          have hye := rescue_of_unhandled hys hke
          exact .inr (hxe.trans hye.symm)
        | some z =>
          rw [hhe, hke] at he
          cases he
      | some w =>
        cases hke : k e with
        | none =>
          rw [hhe, hke] at he
          cases he
        | some z =>
          rw [hhe, hke] at he
          cases he with
          | some hwz =>
            rw [rescue_of_handled hxs hhe, rescue_of_handled hys hke]
            rcases hwz s' with hdeep | heq'
            · exact .inl hdeep
            · exact .inr (by rw [heq'])

theorem AgreesUnlessDeep.framed {x y : Evaluation α} (hx : x.AgreesUnlessDeep y) (f : Frame) :
    (x.framed f).AgreesUnlessDeep (y.framed f) := by
  intro s
  rcases hx (s.pushFrame f) with hdeep | heq
  · exact .inl hdeep
  · refine .inr ?_
    unfold Evaluation.framed
    rw [heq]

/-- A name that fits under a limit fits under a greater one, and its body finds the same chain. -/
theorem AgreesUnlessDeep.entered {x y : Evaluation α} (hx : x.AgreesUnlessDeep y) {d d' : Nat}
    (hle : d ≤ d') (name : String) :
    (Evaluation.entered d name x).AgreesUnlessDeep (Evaluation.entered d' name y) := by
  intro s
  by_cases hfull : (d : Int) ≤ s.chain.length
  · rw [entered_of_full hfull]
    exact .inl ⟨_, _, rfl⟩
  · have hroom : ¬ (d' : Int) ≤ s.chain.length := by omega
    rw [entered_of_room hfull, entered_of_room hroom]
    rcases hx { s with chain := name :: s.chain } with hdeep | heq
    · exact .inl hdeep
    · exact .inr (by rw [heq])

end Evaluation

namespace Evaluator

def limited (ev : Evaluator) (d : Nat) (hd : 0 < d) : Evaluator :=
  { ev with settings := { ev.settings with maxDepth := d, maxDepth_pos := hd } }

variable (ev : Evaluator) {d d' : Nat} (hd : 0 < d) (hd' : 0 < d')

def deepening (hle : d ≤ d') : Simulation (ev.limited d hd) (ev.limited d' hd') where
  rel := Evaluation.AgreesUnlessDeep
  pure _ := .refl _
  fail _ := .refl _
  bind hx hf := hx.bind hf
  rescue hx hh hdepth := hx.rescue hh hdepth
  report _ := .refl _
  lookup _ := .refl _
  framed f _ _ hx := hx.framed f
  entered name _ _ hx := hx.entered hle name
  tooDeep _ _ := .inl ⟨_, _, rfl⟩
  surroundings := ⟨rfl, rfl, rfl⟩

/-- A call that has no room left counts as too deep, whatever there is to find with more room. -/
theorem call_limited (hle : d ≤ d') {room room' : Nat} (hroom : room ≤ room') (name : String) :
    (ev.deepening hd hd' hle).Calls ((ev.limited d hd).call room)
      ((ev.limited d' hd').call room') name := by
  induction room generalizing room' name with
  | zero => exact fun _ _ _ => .inl ⟨_, _, rfl⟩
  | succ room ih =>
    obtain ⟨rest, rfl⟩ : ∃ rest, room' = rest + 1 := ⟨room' - 1, by omega⟩
    have hcalls : ∀ n, (ev.deepening hd hd' hle).Calls ((ev.limited d hd).call room)
        ((ev.limited d' hd').call rest) n := fun n => ih (by omega) n
    exact fun context args =>
      (ev.deepening hd hd' hle).resolve rfl (fun _ _ n _ => hcalls n) context args

theorem value_limited (hle : d ≤ d') (template context : Json) :
    ((ev.limited d hd).value template context).AgreesUnlessDeep
      ((ev.limited d' hd').value template context) := by
  intro s
  have hroom : s.room d + 1 ≤ s.room d' + 1 := by
    unfold Stacks.room
    omega
  exact (ev.deepening hd hd' hle).walk (fun n _ => ev.call_limited hd hd' hle hroom n) context s

theorem render_limited (hle : d ≤ d') (input : Json) :
    ((ev.limited d hd).render input).AgreesUnlessDeep ((ev.limited d' hd').render input) := by
  intro s
  unfold Evaluator.render
  have hspec : (ev.limited d hd).spec.output = (ev.limited d' hd').spec.output := rfl
  rw [hspec]
  cases (ev.limited d' hd').spec.output with
  | none => exact .inr rfl
  | some template => exact ev.value_limited hd hd' hle template input {}

/-- A rendering that does not run too deep under a limit has the same outcome under every greater
limit: the same value or failure, and the same diagnostics in the same order. One that runs too deep
under a limit does so under every smaller one. -/
theorem render_eq_of_limit_le (ev : Evaluator) {d d' : Nat} (hd : 0 < d) (hle : d ≤ d')
    (input : Json) (s : Stacks) :
    let small := (ev.limited d hd).render input s
    let great := (ev.limited d' (Nat.lt_of_lt_of_le hd hle)).render input s
    (¬ small.TooDeep → great = small) ∧ (great.TooDeep → small.TooDeep) := by
  intro small great
  have h : small.TooDeep ∨ small = great :=
    ev.render_limited hd (Nat.lt_of_lt_of_le hd hle) hle input s
  constructor
  · intro hshallow
    exact (h.resolve_left hshallow).symm
  · intro hdeep
    rcases h with hsmall | heq
    · exact hsmall
    · rwa [heq]

/-- Applies its input to every element of an array, so it nests as deep as the array does. -/
def descending : Evaluator where
  spec :=
    { inputs := [("a", ⟨"a", .inline, .string "$ | map(a)", none, true, []⟩)]
      output := some (.string "$ | a") }

theorem render_descending :
    (descending.limited 3 (by decide)).render (.array [.array []]) {} =
        (descending.limited 2 (by decide)).render (.array [.array []]) {} ∧
      ((descending.limited 1 (by decide)).render (.array [.array [.array []]]) {}).TooDeep := by
  have hshallow : ¬ ((descending.limited 2 (by decide)).render
      (.array [.array []]) {}).TooDeep := by decide +kernel
  have hdeep : ((descending.limited 2 (by decide)).render
      (.array [.array [.array []]]) {}).TooDeep := by decide +kernel
  constructor
  · exact (descending.render_eq_of_limit_le (by decide) (by decide) _ _).1 hshallow
  · exact (descending.render_eq_of_limit_le (by decide) (by decide) _ _).2 hdeep

end Evaluator

end JsonTemplate
