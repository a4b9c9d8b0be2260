/-!
# Steps that may fail

What a sequence of steps came to, when it did not fail, is what each of its steps came to. Two
sequences with the same steps, up to related failures, come to the same, up to related failures.
-/

namespace JsonTemplate

variable {ε ε' α β : Type}

theorem except_bind_eq_ok_iff {x : Except ε α} {f : α → Except ε β} {b : β} :
    (x >>= f) = .ok b ↔ ∃ a, x = .ok a ∧ f a = .ok b := by
  cases x <;> simp [bind, Except.bind]

theorem except_bind_eq_error_iff {x : Except ε α} {f : α → Except ε β} {e : ε} :
    (x >>= f) = .error e ↔ x = .error e ∨ ∃ a, x = .ok a ∧ f a = .error e := by
  cases x <;> simp [bind, Except.bind]

theorem except_map_eq_ok_iff {x : Except ε α} {f : α → β} {b : β} :
    x.map f = .ok b ↔ ∃ a, x = .ok a ∧ f a = b := by
  cases x <;> simp [Except.map]

theorem except_map_id (x : Except ε α) : x.map id = x := by
  cases x <;> rfl

theorem mapError_eq_ok_iff {x : Except ε α} {f : ε → ε'} {a : α} :
    x.mapError f = .ok a ↔ x = .ok a := by
  cases x with
  | error e => exact ⟨nofun, nofun⟩
  | ok b =>
    constructor
    · rintro ⟨⟩
      rfl
    · rintro ⟨⟩
      rfl

theorem mapError_eq_error_iff {x : Except ε α} {f : ε → ε'} {e' : ε'} :
    x.mapError f = .error e' ↔ ∃ e, x = .error e ∧ f e = e' := by
  cases x with
  | error e =>
    constructor
    · rintro ⟨⟩
      exact ⟨e, rfl, rfl⟩
    · rintro ⟨_, ⟨⟩, rfl⟩
      rfl
  | ok a => exact ⟨nofun, nofun⟩

inductive SameOr (Q : ε → ε → Prop) : Except ε α → Except ε α → Prop
  | ok (a : α) : SameOr Q (.ok a) (.ok a)
  | error {e e' : ε} (h : Q e e') : SameOr Q (.error e) (.error e')

variable {Q : ε → ε → Prop} {x y : Except ε α}

theorem sameOr_self (h : ∀ e, x = .error e → Q e e) : SameOr Q x x := by
  cases x with
  | ok a => exact .ok a
  | error e => exact .error (h e rfl)

theorem SameOr.eq (h : SameOr Eq x y) : x = y := by
  cases h with
  | ok a => rfl
  | error h => rw [h]

theorem SameOr.bind {f g : α → Except ε β} (h : SameOr Q x y)
    (hfg : ∀ a, x = .ok a → SameOr Q (f a) (g a)) : SameOr Q (x >>= f) (y >>= g) := by
  cases h with
  | ok a => exact hfg a rfl
  | error h => exact .error h

theorem SameOr.mapError {Q' : ε' → ε' → Prop} {f g : ε → ε'} (h : SameOr Q x y)
    (hfg : ∀ e e', Q e e' → Q' (f e) (g e')) : SameOr Q' (x.mapError f) (y.mapError g) := by
  cases h with
  | ok a => exact .ok a
  | error h => exact .error (hfg _ _ h)

end JsonTemplate
