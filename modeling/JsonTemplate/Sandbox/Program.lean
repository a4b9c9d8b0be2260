import JsonTemplate.Files.Tree
import JsonTemplate.Sandbox.Tool.Cat
import JsonTemplate.Sandbox.Tool.Count
import JsonTemplate.Sandbox.Tool.Echo
import JsonTemplate.Sandbox.Tool.Head
import JsonTemplate.Sandbox.Tool.Sleep
import JsonTemplate.Sandbox.Tool.Translate

/-!
# Programs of the sandbox

The programs are the tools and the shell. They are kept in a few directories, in which they are
looked for when a name has no slash.
-/

namespace JsonTemplate.Sandbox

def tool? (name : String) : Option (Task → Finished) :=
  [("cat", Cat.run), ("echo", echo), ("false", fun _ => { status := 1 }), ("head", Head.run),
    ("printf", printf), ("sleep", Sleep.run), ("tr", Translate.run), ("true", fun _ => {}),
    ("wc", Count.run)].lookup name

def shellNames : List String := ["sh", "dash"]

def isProgram (name : String) : Bool :=
  (tool? name).isSome || shellNames.contains name

def programDirectories : List Location := [["bin"], ["usr", "bin"]]

def programAt? (l : Location) : Option String :=
  l.getLast?.filter fun name => programDirectories.contains l.parent && isProgram name

/-- The most bytes that one argument may have. -/
def argumentLimit : Nat := 131071

/-- The program that a path leads to from a directory, or why it does not start. No file but the
programs is executable. -/
def programOfPath (files : FileTree) (directory : Location) (path : String) :
    Except SystemFault String :=
  let l := directory.resolve path
  match programAt? l, FilePath.endsInDirectory path with
  | some name, false => .ok name
  | some _, true => .error .notADirectory
  | none, _ => do
    let l ← files.locateExactly directory path
    if (files.find? l).isSome then throw .permissionDenied else throw .notFound

def programOf (files : FileTree) (directory : Location) (name : String) :
    Except SystemFault String :=
  if name.toList.contains '/' then programOfPath files directory name
  else if isProgram name then .ok name
  else if ["", ".", ".."].contains name then .error .permissionDenied
  else if FileTree.nameLimit < name.utf8ByteSize then .error .nameTooLong
  else .error .notFound

end JsonTemplate.Sandbox
