import JsonTemplate.Files.Home
import JsonTemplate.Files.Tree

/-!
# The host of an evaluation

The host provides files, a working directory, home directories and programs. Programs are functions
of their words and their standard input.
-/

namespace JsonTemplate

inductive Execution where
  | notStarted (cause : SystemFault)
  | ended (output : Text.Utf8.Bytes) (status : Int) (nanoseconds : Nat)
  deriving DecidableEq

structure Host where
  files : FileTree := {}
  directory : Location := []
  homes : Homes := fun _ => none
  execute : List String → Option String → Execution := fun _ _ => .notStarted .notFound

def Host.readText (h : Host) (path : String) : Except (Breakdown ⊕ FileFault) String :=
  if Text.hasNull path then .error (.inl .nullByte)
  else
    let path := FilePath.normalized path
    (textOfFile path (h.files.content h.directory path)).mapError .inr

end JsonTemplate
