import JsonTemplate.Files.Home
import JsonTemplate.Files.Tree
import JsonTemplate.Proofs.Except
import Mathlib.Tactic.ByContra

/-!
# Files that are listed

A location without `..` leads along its own names, so whatever is read there is an entry of the
tree under that very location. Paths are resolved to such locations.
-/

namespace JsonTemplate

namespace Location

def IsDirect (l : Location) : Prop :=
  ".." ∉ l

theorem IsDirect.parent {l : Location} (h : l.IsDirect) : l.parent.IsDirect :=
  fun hmem => h (List.dropLast_subset l hmem)

theorem IsDirect.step {l : Location} (h : l.IsDirect) (part : String) : (l.step part).IsDirect := by
  unfold Location.step
  split
  · exact h.parent
  · next hne => simpa [IsDirect, eq_comm, hne] using h

theorem IsDirect.resolve {directory : Location} (h : directory.IsDirect) (path : String) :
    (directory.resolve path).IsDirect := by
  have hfold (parts : List String) (l : Location) (hl : l.IsDirect) :
      (parts.foldl Location.step l).IsDirect := by
    induction parts generalizing l with
    | nil => exact hl
    | cons part parts ih => exact ih _ (hl.step part)
  apply hfold
  split
  · exact List.not_mem_nil
  · exact h

theorem IsDirect.locate {homes : Homes} {directory l : Location} {path : String}
    (h : directory.IsDirect) (hl : directory.locate homes path = .ok l) : l.IsDirect := by
  obtain ⟨path', -, hl⟩ := except_bind_eq_ok_iff.mp hl
  dsimp only at hl
  generalize path' :: _ = names at hl
  split at hl
  · cases hl
  · cases hl
    exact h.resolve path'

end Location

namespace FileTree

variable {t : FileTree} {l : Location}

theorem follow_of_isDirect {parts : List String} (h : Location.IsDirect parts) {start : Location}
    (hl : t.follow start parts = .ok l) : l = start ++ parts := by
  induction parts generalizing start with
  | nil =>
    cases hl
    exact (List.append_nil _).symm
  | cons part parts ih =>
    unfold Location.IsDirect at h
    rw [List.mem_cons, not_or] at h
    unfold follow at hl
    split at hl
    · split at hl
      · cases hl
      · rw [ih h.2 hl, Location.step, if_neg (Ne.symm h.1), List.append_assoc,
          List.singleton_append]
    · cases hl
    · cases hl

theorem mem_keys_of_contentAt {b : Text.Utf8.Bytes} (h : t.contentAt l = .ok b) :
    l ∈ Assoc.keys t.entries := by
  cases hget : Assoc.get? l t.entries with
  | none =>
    unfold contentAt find? at h
    rw [hget] at h
    cases habove : l.isEmpty || isAbove l t <;> simp [habove] at h
  | some e =>
    by_contra hl
    rw [Assoc.get?_eq_none_iff.mpr hl] at hget
    cases hget

theorem mem_keys_of_read {b : Text.Utf8.Bytes} (hl : l.IsDirect) (h : t.read l = .ok b) :
    l ∈ Assoc.keys t.entries := by
  unfold read at h
  split at h
  · cases h
  · cases hfollow : t.follow [] l with
    | error f =>
      rw [hfollow] at h
      cases h
    | ok l' =>
      rw [hfollow] at h
      obtain rfl : l' = l := follow_of_isDirect hl hfollow
      exact mem_keys_of_contentAt h

end FileTree

end JsonTemplate
