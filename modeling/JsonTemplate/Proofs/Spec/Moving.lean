import JsonTemplate.Proofs.Files.Directory
import JsonTemplate.Proofs.Spec.Cycles

/-!
# Moving a directory of spec files

Spec files that only use one another, by relative paths that stay in their directory, load to the
same specs wherever the directory is. When one of them is refused, then for the same reason in the
same file: only the path of the directory differs in what is reported.
-/

namespace JsonTemplate

/-- Flaws of one document under two paths. The system may refuse the two files for different
causes. -/
inductive DocumentFlaw.Moved (path path' : String) : DocumentFlaw → DocumentFlaw → Prop
  | unread (cause cause' : SystemFault) :
    Moved path path' (.file (.system cause path)) (.file (.system cause' path'))
  | same {flaw : DocumentFlaw} (h : ∀ cause p, flaw ≠ .file (.system cause p)) :
    Moved path path' flaw flaw

inductive DeclarationFault.Moved (origin origin' : String) :
    DeclarationFault → DeclarationFault → Prop
  | notAnObject (index : Int) (kind : String) :
    Moved origin origin' (.notAnObject index origin kind) (.notAnObject index origin' kind)
  | badName (index : Int) (got : String) :
    Moved origin origin' (.badName index origin got) (.badName index origin' got)
  | same {fault : DeclarationFault} (h : fault.inputName? ≠ none) : Moved origin origin' fault fault

inductive SpecFailure.Moved (root root' : Location) : SpecFailure → SpecFailure → Prop
  | document (name : Location) {flaw flaw' : DocumentFlaw}
    (h : DocumentFlaw.Moved (root ++ name).text (root' ++ name).text flaw flaw') :
    Moved root root' (.document (root ++ name).text flaw) (.document (root' ++ name).text flaw')
  | declaration (name : Location) {fault fault' : DeclarationFault}
    (h : DeclarationFault.Moved (root ++ name).text (root' ++ name).text fault fault') :
    Moved root root' (.declaration fault) (.declaration fault')
  | circular (names : List Location) :
    Moved root root' (.circular (names.map fun name => (root ++ name).text))
      (.circular (names.map fun name => (root' ++ name).text))
  | clash {f : SpecFailure} (h : f.IsClash) : Moved root root' f f
  | breakdown (b : Breakdown) : Moved root root' (.breakdown b) (.breakdown b)

namespace Declaration

variable {origin origin' : String}

theorem orFault_moved {α : Type} {fault fault' : DeclarationFault}
    (h : fault.Moved origin origin' fault') (a : Option α) :
    SameOr (DeclarationFault.Moved origin origin') (orFault fault a) (orFault fault' a) := by
  cases a with
  | none => exact .error h
  | some a => exact .ok a

theorem ofJson?_moved (v : Json) (index : Int) :
    SameOr (DeclarationFault.Moved origin origin') (ofJson? v index origin)
      (ofJson? v index origin') := by
  cases v with
  | object members =>
    exact (orFault_moved (.badName index _) _).bind fun name _ =>
      (orFault_moved (.same (by nofun)) _).bind fun kind _ =>
      (orFault_moved (.same (by nofun)) _).bind fun source _ =>
      (orFault_moved (.same (by nofun)) _).bind fun bindings _ =>
      (orFault_moved (.same (by nofun)) _).bind fun stdin _ =>
      (orFault_moved (.same (by nofun)) _).bind fun params _ => .ok _
  | _ => exact .error (.notAnObject index _)

end Declaration

namespace Spec

variable {root root' : Location}

theorem orFlaw_moved {α : Type} (name : Location) {flaw : DocumentFlaw}
    (h : ∀ cause p, flaw ≠ .file (.system cause p)) (a : Option α) :
    SameOr (SpecFailure.Moved root root') (orFlaw (root ++ name).text flaw a)
      (orFlaw (root' ++ name).text flaw a) := by
  cases a with
  | none => exact .error (.document name (.same h))
  | some a => exact .ok a

theorem declare_moved (name : Location) (index : Nat) (s : Spec) (items : List Json) :
    SameOr (SpecFailure.Moved root root') (declare (root ++ name).text index s items)
      (declare (root' ++ name).text index s items) := by
  induction items generalizing index s with
  | nil => exact .ok s
  | cons v items ih =>
    refine ((Declaration.ofJson?_moved v index).mapError fun _ _ => .declaration name).bind
      fun d _ => ?_
    exact (sameOr_self fun f hf => .clash (s.addInput_clashes d f hf)).bind
      fun s _ => ih (index + 1) s

theorem ofJson?_moved (name : Location) (v : Json) :
    SameOr (SpecFailure.Moved root root') (ofJson? v (root ++ name).text)
      (ofJson? v (root' ++ name).text) := by
  cases v with
  | object members =>
    refine (orFlaw_moved name (by nofun) _).bind fun uses _ =>
      (orFlaw_moved name (by nofun) _).bind fun description _ =>
      (orFlaw_moved name (by nofun) _).bind fun items _ =>
      (declare_moved name 0 _ items).bind fun s _ => ?_
    split
    · exact .ok s
    · exact sameOr_self fun f hf => .clash (s.addOutput_clashes _ f hf)
  | _ => exact .error (.document name (.same nofun))

end Spec

structure SpecFiles.SameBelow (files : SpecFiles) (root : Location) (files' : SpecFiles)
    (root' : Location) : Prop extends FileTree.SameBelow files.tree root files'.tree root' where
  yaml : files.yaml = files'.yaml

namespace Loader

variable {files files' : SpecFiles} {root root' name : Location}

/-- Two loaders that are loading files of the same names, each in its own directory, and have kept
the same specs of the files there. -/
structure Parallel (root root' : Location) (names : List Location) (a b : Loader) : Prop where
  loading : a.loading = names.map (root ++ ·)
  loading' : b.loading = names.map (root' ++ ·)
  cache : ∀ name, Assoc.get? (root ++ name) a.cache = Assoc.get? (root' ++ name) b.cache

variable {names : List Location} {a b : Loader}

theorem Parallel.circular (h : Parallel root root' names a b) (name : Location) :
    (a.circular (root ++ name)).Moved root root' (b.circular (root' ++ name)) := by
  unfold Loader.circular
  rw [h.loading, h.loading']
  simpa [Function.comp_def] using SpecFailure.Moved.circular (names.reverse ++ [name])

theorem Parallel.put (h : Parallel root root' names a b) (name : Location) (s : Spec) :
    Parallel root root' names { a with cache := Assoc.put (root ++ name) s a.cache }
      { b with cache := Assoc.put (root' ++ name) s b.cache } where
  loading := h.loading
  loading' := h.loading'
  cache other := by
    dsimp only
    by_cases hother : name = other
    · rw [← hother, Assoc.get?_put_self, Assoc.get?_put_self]
    · rw [Assoc.get?_put_of_ne (mt List.append_cancel_left hother),
        Assoc.get?_put_of_ne (mt List.append_cancel_left hother), h.cache]

end Loader

end JsonTemplate
