import JsonTemplate.Proofs.Assoc
import JsonTemplate.Proofs.Evaluation.Containment
import JsonTemplate.Proofs.Evaluation.Restoration

/-!
# Evaluations that a map cannot tell apart

Two evaluations are similar if they come to values that are related, or to the same failure, or
each to a failure that a map goes on after, or if one of them ends with a failure that nothing holds
up. Which of the failures it is that a map goes on after makes no difference to a value, so similar
evaluations may be put together into similar ones, on stacks that bind related values to the same
names.
-/

namespace JsonTemplate

structure Stacks.SameScope (S : Json → Json → Prop) (s t : Stacks) : Prop where
  chain : s.chain = t.chain
  lookup : ∀ name, Option.Rel S (s.lookup? name) (t.lookup? name)

namespace Stacks

variable {S : Json → Json → Prop} {s t : Stacks}

theorem sameScope_empty (S : Json → Json → Prop) : SameScope S {} {} where
  chain := rfl
  lookup _ := .none

theorem SameScope.pushFrame (h : SameScope S s t) {f g : Frame} (hfg : Assoc.Rel S f g) :
    SameScope S (s.pushFrame f) (t.pushFrame g) where
  chain := h.chain
  lookup name := by
    have hframe := hfg name
    have hrest := h.lookup name
    unfold lookup? at hrest
    simp only [lookup?, Stacks.pushFrame, List.findSome?_cons]
    generalize Assoc.get? name f = o, Assoc.get? name g = o' at hframe ⊢
    cases hframe with
    | none => exact hrest
    | some hvw => exact .some hvw

theorem SameScope.enter (h : SameScope S s t) (name : String) :
    SameScope S { s with chain := name :: s.chain } { t with chain := name :: t.chain } where
  chain := congrArg (name :: ·) h.chain
  lookup := h.lookup

end Stacks

/-- Values with `P`, one failure, two failures that a map goes on after, or a failure that ends the
run on one of the sides. -/
inductive Similar {α β : Type} (P : α → β → Prop) : Except Failure α → Except Failure β → Prop
  | ok {a : α} {b : β} (h : P a b) : Similar P (.ok a) (.ok b)
  | same (f : Failure) : Similar P (.error f) (.error f)
  | resolution (f g : ResolutionFailure) :
      Similar P (.error (.resolution f)) (.error (.resolution g))
  | left {f : Failure} {r : Except Failure β} (h : f.EndsRun) : Similar P (.error f) r
  | right {f : Failure} {r : Except Failure α} (h : f.EndsRun) : Similar P r (.error f)

theorem similar_of_leaves {α β : Type} {P : α → β → Prop} {r : Except Failure α}
    {r' : Except Failure β} (hr : ∀ f, r = .error f → f.Leaves)
    (hr' : ∀ f, r' = .error f → f.Leaves)
    (hok : ∀ a b, r = .ok a → r' = .ok b → P a b)
    (hleft : ∀ f b, r = .error (.resolution f) → r' ≠ .ok b)
    (hright : ∀ a f, r = .ok a → r' ≠ .error (.resolution f)) : Similar P r r' := by
  cases r with
  | error f =>
    cases hr f rfl with
    | resolution f =>
      cases r' with
      | error g =>
        cases hr' g rfl with
        | resolution g => exact .resolution f g
        | endsRun hg => exact .right hg
      | ok b => exact absurd rfl (hleft f b rfl)
    | endsRun hf => exact .left hf
  | ok a =>
    cases r' with
    | error g =>
      cases hr' g rfl with
      | resolution g => exact absurd rfl (hright a g rfl)
      | endsRun hg => exact .right hg
    | ok b => exact .ok (hok a b rfl rfl)

namespace Evaluation

variable {α β γ δ : Type} {S : Json → Json → Prop} {P : α → β → Prop} {Q : γ → δ → Prop}

def Relates (S : Json → Json → Prop) (P : α → β → Prop) (x : Evaluation α) (y : Evaluation β) :
    Prop :=
  ∀ s t, Stacks.SameScope S s t → Similar P (x s).result (y t).result

section

variable {x : Evaluation α} {y : Evaluation β}

theorem relates_pure {a : α} {b : β} (h : P a b) : Relates S P (pure a) (pure b) :=
  fun _ _ _ => .ok h

theorem relates_fail (f : Failure) : Relates S P (fail f) (fail f) :=
  fun _ _ _ => .same f

theorem relates_report (shown shown' : Bool) (d d' : Diagnostic) :
    Relates S Eq (report shown d) (report shown' d') :=
  fun _ _ _ => .ok rfl

theorem relates_lookup (name : String) : Relates S (Option.Rel S) (lookup? name) (lookup? name) :=
  fun _ _ hst => .ok (hst.lookup name)

theorem Relates.bind {f : α → Evaluation γ} {g : β → Evaluation δ} (h : Relates S P x y)
    (hx : x.Restores) (hy : y.Restores) (hfg : ∀ a b, P a b → Relates S Q (f a) (g b)) :
    Relates S Q (x >>= f) (y >>= g) := by
  intro s t hst
  have hr := h s t hst
  have hxs := hx s
  have hyt := hy t
  rcases hx' : x s with ⟨r, s', l⟩
  rcases hy' : y t with ⟨r', t', l'⟩
  rw [hx'] at hr hxs
  rw [hy'] at hr hyt
  obtain rfl : s' = s := hxs
  obtain rfl : t' = t := hyt
  cases hr with
  | ok hab =>
    rw [bind_of_ok hx', bind_of_ok hy']
    exact hfg _ _ hab s' t' hst
  | same f =>
    rw [bind_of_error hx', bind_of_error hy']
    exact .same f
  | resolution f g =>
    rw [bind_of_error hx', bind_of_error hy']
    exact .resolution f g
  | left hf =>
    rw [bind_of_error hx']
    exact .left hf
  | right hf =>
    rw [bind_of_error hy']
    exact .right hf

/-- Values that are put into something once they are there. -/
theorem Relates.then_pure {f : α → γ} {g : β → δ} (h : Relates S P x y) (hx : x.Restores)
    (hy : y.Restores) (hfg : ∀ a b, P a b → Q (f a) (g b)) :
    Relates S Q (do return f (← x)) (do return g (← y)) :=
  h.bind hx hy fun a b hab => relates_pure (hfg a b hab)

theorem Relates.framed (h : Relates S P x y) {f g : Frame} (hfg : Assoc.Rel S f g) :
    Relates S P (x.framed f) (y.framed g) :=
  fun _ _ hst => h _ _ (hst.pushFrame hfg)

theorem Relates.entered (h : Relates S P x y) (limit : Int) (name : String) :
    Relates S P (Evaluation.entered limit name x) (Evaluation.entered limit name y) := by
  intro s t hst
  by_cases hfull : limit ≤ s.chain.length
  · rw [entered_of_full hfull]
    exact .left (.depth _ _)
  · have hfull' : ¬ limit ≤ t.chain.length := by rwa [← hst.chain]
    rw [entered_of_room hfull, entered_of_room hfull']
    exact h _ _ (hst.enter name)

/-- Handlers are asked for a failure on each side and either both go on, alike, or neither does. -/
theorem similar_rescue {h : Failure → Option (Evaluation α)} {k : Failure → Option (Evaluation β)}
    {s t : Stacks} {f g : Failure} {l l' : List Diagnostic} (hx : x s = ⟨.error f, s, l⟩)
    (hy : y t = ⟨.error g, t, l'⟩) (hst : Stacks.SameScope S s t)
    (hfg : Similar P (.error f) (.error g)) (hhk : Option.Rel (Relates S P) (h f) (k g)) :
    Similar P (x.rescue h s).result (y.rescue k t).result := by
  rcases hh : h f with _ | z <;> rcases hk : k g with _ | w <;> rw [hh, hk] at hhk
  · rw [rescue_of_unhandled hx hh, rescue_of_unhandled hy hk]
    exact hfg
  · cases hhk
  · cases hhk
  · cases hhk with
    | some hzw =>
      rw [rescue_of_handled hx hh, rescue_of_handled hy hk]
      exact hzw s t hst

/-- Handlers that go on alike after one failure, and after any two that a map goes on after. -/
theorem Relates.rescue {h : Failure → Option (Evaluation α)} {k : Failure → Option (Evaluation β)}
    (hxy : Relates S P x y) (hx : x.Restores) (hy : y.Restores)
    (hsame : ∀ f, Option.Rel (Relates S P) (h f) (k f))
    (hresolution : ∀ f g, Option.Rel (Relates S P) (h (.resolution f)) (k (.resolution g)))
    (hends : ∀ f, f.EndsRun → h f = none ∧ k f = none) :
    Relates S P (x.rescue h) (y.rescue k) := by
  intro s t hst
  have hr := hxy s t hst
  have hxs := hx s
  have hyt := hy t
  rcases hx' : x s with ⟨r, s', l⟩
  rcases hy' : y t with ⟨r', t', l'⟩
  rw [hx'] at hr hxs
  rw [hy'] at hr hyt
  obtain rfl : s' = s := hxs
  obtain rfl : t' = t := hyt
  cases hr with
  | ok hab =>
    rw [rescue_of_ok hx', rescue_of_ok hy']
    exact .ok hab
  | same f => exact similar_rescue hx' hy' hst (.same f) (hsame f)
  | resolution f g => exact similar_rescue hx' hy' hst (.resolution f g) (hresolution f g)
  | left hf =>
    rw [rescue_of_unhandled hx' (hends _ hf).1]
    exact .left hf
  | right hf =>
    rw [rescue_of_unhandled hy' (hends _ hf).2]
    exact .right hf

theorem relates_report_then (shown shown' : Bool) (d d' : Diagnostic) {a : α} {b : β}
    (h : P a b) :
    Relates S P (do report shown d; return a) (do report shown' d'; return b) :=
  fun _ _ _ => .ok h

end

structure Akin (x y : Evaluation α) : Prop where
  left : x.Restores
  right : y.Restores
  relates : Relates Eq Eq x y

variable {x y : Evaluation α}

theorem akin_pure (a : α) : Akin (pure a : Evaluation α) (pure a) where
  left _ := rfl
  right _ := rfl
  relates := relates_pure rfl

theorem akin_fail (f : Failure) : Akin (fail f : Evaluation α) (fail f) where
  left _ := rfl
  right _ := rfl
  relates := relates_fail f

theorem Akin.bind {f g : α → Evaluation γ} (h : Akin x y) (hfg : ∀ a, Akin (f a) (g a)) :
    Akin (x >>= f) (y >>= g) where
  left := h.left.bind fun a => (hfg a).left
  right := h.right.bind fun a => (hfg a).right
  relates := h.relates.bind h.left h.right fun a _ hab => hab ▸ (hfg a).relates

end Evaluation

end JsonTemplate
