import JsonTemplate.Assoc
import JsonTemplate.Files.Fault
import JsonTemplate.Files.FilePath
import JsonTemplate.Text.Newline

/-!
# Trees of files

A tree lists its files and empty directories; whatever lies above one of them is a directory too.
A path is followed part by part, and each part but the last must be a directory. Names and whole
paths have a greatest length in bytes. The null device is an empty file that keeps nothing.
-/

namespace JsonTemplate

inductive FileEntry where
  | file (content : Text.Utf8.Bytes)
  | directory
  | nullDevice
  deriving DecidableEq

structure FileTree where
  entries : List (Location × FileEntry) := []

namespace FileTree

def nameLimit : Nat := 255

def pathLimit : Nat := 4095

def system : FileTree where
  entries := (["bin", "boot", "dev", "etc", "home", "lib", "media", "mnt", "opt", "proc", "root",
      "run", "sbin", "srv", "sys", "tmp", "usr", "var"].map fun name => ([name], .directory)) ++
    [(["usr", "bin"], .directory), (["usr", "lib"], .directory),
      (["dev", "null"], .nullDevice)]

def isAbove (l : Location) (t : FileTree) : Bool :=
  t.entries.any fun e => l.isPrefixOf e.1

def find? (t : FileTree) (l : Location) : Option FileEntry :=
  match Assoc.get? l t.entries with
  | some e => some e
  | none => if l.isEmpty || isAbove l t then some .directory else none

def follow (t : FileTree) : Location → List String → Except SystemFault Location
  | l, [] => .ok l
  | l, part :: parts =>
    match t.find? l with
    | some .directory =>
      if nameLimit < part.utf8ByteSize then .error .nameTooLong
      else follow t (l.step part) parts
    | some _ => .error .notADirectory
    | none => .error .notFound

def contentAt (t : FileTree) (l : Location) : Except SystemFault Text.Utf8.Bytes :=
  match t.find? l with
  | some (.file content) => .ok content
  | some .directory => .error .isADirectory
  | some .nullDevice => .ok []
  | none => .error .notFound

def locate (t : FileTree) (directory : Location) (path : String) : Except SystemFault Location :=
  if pathLimit < path.utf8ByteSize then .error .nameTooLong
  else
    t.follow (if FilePath.isAbsolute path then [] else directory)
      ((FilePath.parts path.toList).map String.ofList)

def content (t : FileTree) (directory : Location) (path : String) :
    Except SystemFault Text.Utf8.Bytes := do
  t.contentAt (← t.locate directory path)

/-- Where a path that is used as it is written leads to: an empty one leads nowhere, and one that
ends with a slash or a dot leads to a directory. -/
def locateExactly (t : FileTree) (directory : Location) (path : String) :
    Except SystemFault Location := do
  if path.isEmpty then throw .notFound
  let l ← t.locate directory path
  if FilePath.endsInDirectory path then
    match t.find? l with
    | some .directory => return l
    | some _ => throw .notADirectory
    | none => throw .notFound
  else return l

def read (t : FileTree) (l : Location) : Except SystemFault Text.Utf8.Bytes :=
  if pathLimit < l.text.utf8ByteSize then .error .nameTooLong
  else do t.contentAt (← t.follow [] l)

def putAt (t : FileTree) (l : Location) (e : FileEntry) : FileTree :=
  if t.find? l = some .nullDevice then t else ⟨Assoc.put l e t.entries⟩

def writable (t : FileTree) (directory : Location) (path : String) :
    Except SystemFault Location := do
  let l ← t.locate directory path
  match t.find? l with
  | some .directory => throw .isADirectory
  | some _ => return l
  | none =>
    match t.find? l.parent with
    | some .directory => return l
    | some _ => throw .notADirectory
    | none => throw .notFound

end FileTree

def textOfBytes (b : Text.Utf8.Bytes) : Except Text.Utf8.Fault String :=
  (Text.Utf8.decode b).map fun s => String.ofList (Text.normalizeNewlines s)

def textOfFile (path : String) (b : Except SystemFault Text.Utf8.Bytes) :
    Except FileFault String :=
  match b with
  | .error cause => .error (.system cause path)
  | .ok b => (textOfBytes b).mapError .encoding

end JsonTemplate
