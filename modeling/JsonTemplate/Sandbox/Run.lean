import JsonTemplate.Host
import JsonTemplate.Sandbox.Shell.Run

/-!
# The sandbox

Runs a program on some words and a standard input in a world that has nothing else. A program has
ended when nothing can write to its standard output any longer.
-/

namespace JsonTemplate.Sandbox

def home : String := "/root"

def environment (directory : Location) : List (Octets × ShellVariable) :=
  let exported (name value : String) : Octets × ShellVariable :=
    (Octets.ofText name, { value := some (Octets.ofText value), exported := true })
  [exported "PATH" "/usr/local/bin:/usr/local/sbin:/usr/local/bin:/usr/sbin:/usr/bin:/sbin:/bin",
    exported "HOME" home, exported "PWD" directory.text]

/-- The process in which a program starts: its input is a pipe, its output is collected, and its
complaints are not kept. -/
def startProcess (files : FileTree) (directory : Location) (input : Option String) : Shell :=
  let process := 100
  let input := match input with
    | some s => .source (Octets.ofText s) false
    | none => .null
  let (w, stdin) := { files, nextProcess := process + 1 : World }.open_ input
  let (w, stdout) := w.open_ (.sink [])
  let (w, stderr) := w.open_ .null
  { world := w
    directory
    name := []
    vars := environment directory
    descriptors := [(0, stdin), (1, stdout), (2, stderr)]
    process
    root := process
    ancestors := [1] }

/-- The status of a program, negative if a signal has ended it. -/
def exitStatus (sh : Shell) : Int :=
  match sh.flow with
  | .signalled n => -n
  | _ => sh.status % 256

def execute (files : FileTree) (directory : Location) (words : List String)
    (input : Option String) : Execution :=
  match words with
  | [] => .notStarted .notFound
  | name :: args =>
    if words.any fun a => argumentLimit < a.utf8ByteSize then .notStarted .argumentsTooLong
    else
      match programOf files directory name with
      | .error f => .notStarted f
      | .ok program =>
        let sh := startProcess files directory input
        let ended := runProgram (run depthLimit) program (Octets.ofText name)
          (args.map Octets.ofText) sh
        let duration := if ended.flow = .endless then Sleep.forever
          else max ended.world.clock (ended.world.heldUntil 1)
        .ended (Octets.toBytes (ended.world.collected 1)) (exitStatus ended) duration

end JsonTemplate.Sandbox

namespace JsonTemplate

def Host.sandbox (files : FileTree) (directory : Location) : Host where
  files := files
  directory := directory
  homes := fun user => if user = "" || user = "root" then some Sandbox.home else none
  execute := Sandbox.execute files directory

end JsonTemplate
