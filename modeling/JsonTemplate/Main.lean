import JsonTemplate.CommandLine.Run
import JsonTemplate.Sandbox.Run

/-!
# The program

Takes a snapshot of the working directory, runs the command line on it, and carries out what the
run has decided. Commands of inputs run in the sandbox.
-/

namespace JsonTemplate.CommandLine

def locationOf (path : String) : Location :=
  Location.resolve [] path

partial def snapshot (directory : Location) (entry : IO.FS.DirEntry) :
    IO (List (Location × FileEntry)) := do
  let l := directory ++ [entry.fileName]
  if ← entry.path.isDir then
    let inside ← (← entry.path.readDir).toList.mapM (snapshot l)
    return (l, .directory) :: inside.flatten
  else
    try
      let content ← IO.FS.readBinFile entry.path
      return [(l, .file content.toList)]
    catch _ =>
      return []

def currentHost : IO Host := do
  let directory ← IO.currentDir
  let l := locationOf directory.toString
  let entries ← (← directory.readDir).toList.mapM (snapshot l)
  let home ← IO.getEnv "HOME"
  let host := Host.sandbox ⟨FileTree.system.entries ++ (l, .directory) :: entries.flatten⟩ l
  return { host with homes := fun user => if user.isEmpty then home else host.homes user }

def readsInput (args : List String) : Bool :=
  match Options.parse args with
  | .ok (.run o) => o.stdin
  | _ => false

def perform (r : Result) : IO UInt32 := do
  for d in r.log do
    IO.eprintln d.text
  if let some message := r.usageError then
    IO.eprint usageText
    IO.eprintln message
  if let some b := r.breakdown then
    IO.eprintln b.message
  IO.print r.output
  if let some (l, content) := r.written then
    IO.FS.writeBinFile l.text ⟨content.toArray⟩
  return UInt32.ofNat r.status

end JsonTemplate.CommandLine

open JsonTemplate CommandLine in
def main (args : List String) : IO UInt32 := do
  let input ← if readsInput args then (← IO.getStdin).readBinToEnd else pure .empty
  perform (run (← currentHost) {} args input.toList)
