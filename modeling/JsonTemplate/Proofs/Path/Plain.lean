import JsonTemplate.Path.Select
import JsonTemplate.Proofs.Json.Alike

/-!
# Paths that do not show the order of members

A path through names, indices and slices leads from values that are alike to values that are alike,
one by one. Wildcards, filters and descents do not, for they list the members of an object in their
order.
-/

namespace JsonTemplate

open List (Forall₂)

def Selector.isPlain : Selector → Bool
  | .names _ => true
  | .indices _ => true
  | .slice _ _ _ => true
  | .all => false
  | .filter _ => false

def Path.isPlain : Path → Bool
  | .start _ => true
  | .step p deep s => p.isPlain && !deep && s.isPlain

variable {v w : Json}

namespace Json

theorem getElem?_alike {items others : List Json} (h : Forall₂ Alike items others) (i : Nat) :
    Option.Rel Alike items[i]? others[i]? := by
  obtain ⟨hlength, hitems⟩ := List.forall₂_iff_get.mp h
  by_cases hi : i < items.length
  · have hi' : i < others.length := hlength ▸ hi
    rw [List.getElem?_eq_getElem hi, List.getElem?_eq_getElem hi']
    exact .some (hitems i hi hi')
  · have hi' : ¬ i < others.length := hlength ▸ hi
    rw [List.getElem?_eq_none (not_lt.mp hi), List.getElem?_eq_none (not_lt.mp hi')]
    exact .none

theorem item?_alike {items others : List Json} (h : Forall₂ Alike items others) (i : Int) :
    Option.Rel Alike (item? items i) (item? others i) := by
  unfold item?
  rw [h.length_eq]
  split
  · exact getElem?_alike h _
  · split
    · exact getElem?_alike h _
    · exact .none

/-- Values that are found under the same names or at the same places. -/
theorem filterMap_alike {ι : Type} {f g : ι → Option Json} (h : ∀ i, Option.Rel Alike (f i) (g i))
    (is : List ι) : Forall₂ Alike (is.filterMap f) (is.filterMap g) := by
  have hsame : Forall₂ Eq is is := List.forall₂_same.mpr fun _ _ => rfl
  refine List.rel_filterMap ?_ hsame
  rintro i _ rfl
  exact h i

end Json

theorem Selector.select_alike {s : Selector} (hs : s.isPlain = true) (h : v.Alike w)
    (root root' : Json) : Forall₂ Json.Alike (s.select root v) (s.select root' w) := by
  cases s with
  | names ns =>
    cases h with
    | object hkeys hmembers =>
      have hrel := Assoc.rel_iff.mpr ⟨hkeys, hmembers⟩
      exact Json.filterMap_alike (fun n => hrel (.name n)) ns
    | _ => exact .nil
  | indices is =>
    cases h with
    | array hlength hitems =>
      have hrel := Json.alike_array_iff.mp (.array hlength hitems)
      exact Json.filterMap_alike (Json.item?_alike hrel) is
    | _ => exact .nil
  | slice start stop stride =>
    cases h with
    | array hlength hitems =>
      have hrel := Json.alike_array_iff.mp (.array hlength hitems)
      unfold Selector.select Json.itemsSliced
      dsimp only
      rw [hlength]
      exact Json.filterMap_alike (Json.getElem?_alike hrel) _
    | _ => exact .nil
  | all => cases hs
  | filter _ => cases hs

namespace Path

theorem reach_alike {root root' : Json} (hroot : root.Alike root') (h : v.Alike w) :
    ∀ {p : Path}, p.isPlain = true → Forall₂ Json.Alike (p.reach root v) (p.reach root' w)
  | .start .root, _ => .cons hroot .nil
  | .start .current, _ => .cons h .nil
  | .step p deep s, hp => by
    obtain ⟨⟨horigin, hdeep⟩, hs⟩ : (p.isPlain = true ∧ deep = false) ∧ s.isPlain = true := by
      simpa [isPlain] using hp
    subst hdeep
    have hnodes : Forall₂ Json.Alike (p.reach root v) (p.reach root' w) :=
      reach_alike hroot h horigin
    have hselect : ∀ ⦃a b⦄, a.Alike b → Forall₂ Json.Alike (s.select root a) (s.select root' b) :=
      fun _ _ hab => s.select_alike hs hab root root'
    simp only [reach, Bool.false_eq_true, if_false]
    exact List.rel_flatMap hnodes hselect

/-- What a plain path takes from values that are alike is alike. -/
theorem select?_alike {text : String} (htext : ∀ p, parse? text = some p → p.isPlain = true)
    (h : v.Alike w) : Option.Rel (Forall₂ Json.Alike) (select? v text) (select? w text) := by
  unfold select?
  cases hp : parse? text with
  | none => exact .none
  | some p => exact .some (reach_alike h h (htext p hp))

end Path

end JsonTemplate
