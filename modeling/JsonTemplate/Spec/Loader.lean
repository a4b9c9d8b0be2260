import JsonTemplate.Host
import JsonTemplate.Json.Document
import JsonTemplate.Spec.Basic
import JsonTemplate.Yaml.Document

/-!
# Loading spec files

A spec file is merged from the files it uses, in order, and then from its own inputs and output.
Relative uses start from the directory of the file that declares them. A loader keeps every file it
has loaded, and while it works the chain of files being loaded, innermost first; a file on that
chain may not be used again. Every file on the chain is a different entry of the tree, so the number
of entries bounds how deep the uses nest.
-/

namespace JsonTemplate

/-- What spec files are loaded from. The reader of YAML documents may be any. -/
structure SpecFiles where
  tree : FileTree
  homes : Homes := fun _ => none
  yaml : Yaml.Reader := Yaml.read

structure Loader where
  /-- Where relative paths start. -/
  directory : Location
  cache : List (Location × Spec) := []
  loading : List Location := []

namespace Loader

def isYaml (l : Location) : Bool :=
  l.suffix = ".yml" || l.suffix = ".yaml"

def flawed (l : Location) (flaw : DocumentFlaw) : SpecFailure :=
  .document l.text flaw

def readDocument (files : SpecFiles) (l : Location) : Except SpecFailure Json := do
  let text ← (textOfFile l.text (files.tree.read l)).mapError fun f => flawed l (.file f)
  if isYaml l then
    match files.yaml text with
    | .value v => return v
    | .malformed => throw (flawed l .yaml)
    | .raised message => throw (.breakdown (.yaml message))
  else (Json.parse text).mapError fun e => flawed l (.json e)

def readSpec (files : SpecFiles) (l : Location) : Except SpecFailure Spec := do
  Spec.ofJson? (← readDocument files l) l.text

abbrev Load (α : Type) := Loader → Except SpecFailure α × Loader

def loadFrom (files : SpecFiles) (load : Location → Load Spec) (directory : Location)
    (path : String) : Load Spec :=
  fun loader =>
    match directory.locate files.homes path with
    | .error b => (.error (.breakdown b), loader)
    | .ok l => load l loader

def mergeUses (load : String → Load Spec) : List String → Spec → Load Spec
  | [], s, loader => (.ok s, loader)
  | use :: uses, s, loader =>
    match load use loader with
    | (.error f, loader) => (.error f, loader)
    | (.ok other, loader) =>
      match s.merged other with
      | .error f => (.error f, loader)
      | .ok s => mergeUses load uses s loader

def assemble (files : SpecFiles) (load : Location → Load Spec) (l : Location) : Load Spec :=
  fun loader =>
    match readSpec files l with
    | .error f => (.error f, loader)
    | .ok own =>
      match mergeUses (loadFrom files load l.parent) own.uses
          { uses := own.uses, description := own.description } loader with
      | (.error f, loader) => (.error f, loader)
      | (.ok s, loader) => (s.merged own, loader)

def circular (loader : Loader) (l : Location) : SpecFailure :=
  .circular ((loader.loading.reverse ++ [l]).map Location.text)

def whileLoading {α : Type} (l : Location) (step : Load α) : Load α :=
  fun loader =>
    let (result, after) := step { loader with loading := l :: loader.loading }
    (result, { after with loading := after.loading.tail })

def remember (l : Location) (step : Load Spec) : Load Spec :=
  fun loader =>
    match step loader with
    | (.ok s, after) => (.ok s, { after with cache := Assoc.put l s after.cache })
    | r => r

/-- Loads a file; files may use one another `depth` levels deep. -/
def loadAt (files : SpecFiles) : Nat → Location → Load Spec
  | 0, l, loader => (.error (loader.circular l), loader)
  | depth + 1, l, loader =>
    match Assoc.get? l loader.cache with
    | some s => (.ok s, loader)
    | none =>
      if l ∈ loader.loading then (.error (loader.circular l), loader)
      else
        remember l (whileLoading l (assemble files (fun l loader => loadAt files depth l loader) l))
          loader

def load (files : SpecFiles) (path : String) : Load Spec :=
  fun loader =>
    loadFrom files (loadAt files (files.tree.entries.length + 1)) loader.directory path loader

def clearCache (loader : Loader) : Loader :=
  { loader with cache := [] }

end Loader

def Spec.addUse (files : SpecFiles) (path : String) (s : Spec) (loader : Loader) :
    Spec.Change × Loader :=
  match loader.load files path with
  | (.ok other, loader) => (s.merge other, loader)
  | (.error f, loader) => (⟨s, some f⟩, loader)

end JsonTemplate
