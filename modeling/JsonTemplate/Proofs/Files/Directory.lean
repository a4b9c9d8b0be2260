import JsonTemplate.Proofs.Except
import JsonTemplate.Proofs.Files.Tree
import JsonTemplate.Proofs.Text.Trim

/-!
# Directories

The absolute path of a location leads to it from anywhere. A path that never leads out of the
directory that it is followed in leads to the same name in it, wherever the directory is.
-/

namespace JsonTemplate

namespace Location

/-- Whether all names of a location can stand between the slashes of a path. -/
def IsNormal (l : Location) : Prop :=
  ∀ part ∈ l,
    part ≠ "" ∧ part ≠ "." ∧ part ≠ ".." ∧ '/' ∉ part.toList ∧ Text.hasNull part = false

instance (l : Location) : Decidable l.IsNormal :=
  inferInstanceAs (Decidable (∀ part ∈ l,
    part ≠ "" ∧ part ≠ "." ∧ part ≠ ".." ∧ '/' ∉ part.toList ∧ Text.hasNull part = false))

theorem IsNormal.isDirect {l : Location} (h : l.IsNormal) : l.IsDirect :=
  fun hmem => (h ".." hmem).2.2.1 rfl

theorem IsDirect.append {l l' : Location} (h : l.IsDirect) (h' : l'.IsDirect) :
    (l ++ l').IsDirect :=
  fun hmem => (List.mem_append.mp hmem).elim h h'

theorem IsNormal.append {l l' : Location} (h : l.IsNormal) (h' : l'.IsNormal) :
    (l ++ l').IsNormal := by
  intro part hpart
  obtain hpart | hpart := List.mem_append.mp hpart
  · exact h part hpart
  · exact h' part hpart

/-- Whether the parts of a path, followed from a location in a directory on, never lead out of the
directory. -/
def StaysIn : Location → List String → Prop
  | _, [] => True
  | l, part :: parts => (part = ".." → l ≠ []) ∧ StaysIn (l.step part) parts

instance decidableStaysIn : ∀ (l : Location) (parts : List String), Decidable (StaysIn l parts)
  | _, [] => .isTrue trivial
  | l, part :: parts =>
    have := decidableStaysIn (l.step part) parts
    inferInstanceAs (Decidable ((part = ".." → l ≠ []) ∧ StaysIn (l.step part) parts))

end Location

namespace FileTree

/-- Two directories in which the same files can be read, under the same names and with the same
contents. -/
structure SameBelow (t : FileTree) (root : Location) (t' : FileTree) (root' : Location) : Prop where
  normal : root.IsNormal
  normal' : root'.IsNormal
  directory : t.find? root = some .directory
  directory' : t'.find? root' = some .directory
  contents : ∀ name : Location, name ≠ [] → name.IsDirect →
    (t.read (root ++ name)).toOption = (t'.read (root' ++ name)).toOption

theorem read_directory {t : FileTree} {l : Location} (hl : l.IsDirect)
    (h : t.find? l = some .directory) : ∃ cause, t.read l = .error cause := by
  unfold read
  split
  · exact ⟨_, rfl⟩
  · cases hfollow : t.follow [] l with
    | error cause => exact ⟨cause, rfl⟩
    | ok l' =>
      obtain rfl : l' = l := follow_of_isDirect hl hfollow
      refine ⟨.isADirectory, ?_⟩
      change t.contentAt l' = _
      unfold contentAt
      rw [h]

variable {t t' : FileTree} {root root' name : Location}

/-- What is read below two such directories is the same, or fails in both. -/
theorem SameBelow.read (h : SameBelow t root t' root') (hname : name.IsDirect) :
    SameOr (fun _ _ => True) (t.read (root ++ name)) (t'.read (root' ++ name)) := by
  by_cases hempty : name = []
  · subst hempty
    rw [List.append_nil, List.append_nil]
    obtain ⟨cause, hcause⟩ := read_directory h.normal.isDirect h.directory
    obtain ⟨cause', hcause'⟩ := read_directory h.normal'.isDirect h.directory'
    rw [hcause, hcause']
    exact .error trivial
  · have hcontents := h.contents name hempty hname
    generalize t.read (root ++ name) = r at hcontents
    generalize t'.read (root' ++ name) = r' at hcontents
    rcases r with cause | b <;> rcases r' with cause' | b'
    · exact .error trivial
    · cases hcontents
    · cases hcontents
    · cases hcontents
      exact .ok b

end FileTree

end JsonTemplate
