import JsonTemplate.Assoc
import JsonTemplate.Files.Tree
import JsonTemplate.Sandbox.Octets

/-!
# The world of programs

Programs share files, streams and a clock. A stream is what a descriptor stands for: a pipe that is
read or written, a file with a place in it, or a device. What is written to a pipe carries its time,
so that programs that work side by side can be run one after the other. A stream is held by programs
up to some time and ends when none holds it any longer.
-/

namespace JsonTemplate.Sandbox

structure Chunk where
  time : Nat
  writer : Nat
  text : Octets

inductive Channel where
  /-- A pipe to read from; an endless one never runs dry. -/
  | source (rest : Octets) (endless : Bool)
  /-- A pipe to write to; the latest piece comes first. -/
  | sink (chunks : List Chunk)
  | file (l : Location) (place : Nat) (append readable writable : Bool)
  /-- A device that is empty and keeps nothing. -/
  | null

structure Stream where
  channel : Channel
  /-- The programs that hold the stream, and until when. -/
  holders : List (Nat × Nat) := []

structure World where
  files : FileTree
  streams : List (Nat × Stream) := []
  /-- The signals that have been sent to waiting processes. -/
  signals : List (Nat × Nat) := []
  clock : Nat := 0
  nextStream : Nat := 0
  nextProcess : Nat := 100

namespace World

def stream? (w : World) (id : Nat) : Option Stream :=
  Assoc.get? id w.streams

def channel? (w : World) (id : Nat) : Option Channel :=
  (w.stream? id).map fun (s : Stream) => s.channel

def setChannel (w : World) (id : Nat) (c : Channel) : World :=
  match w.stream? id with
  | some s => { w with streams := Assoc.put id { s with channel := c } w.streams }
  | none => w

def open_ (w : World) (c : Channel) : World × Nat :=
  ({ w with
    streams := Assoc.put w.nextStream { channel := c } w.streams
    nextStream := w.nextStream + 1 }, w.nextStream)

def newProcess (w : World) : World × Nat :=
  ({ w with nextProcess := w.nextProcess + 1 }, w.nextProcess)

def bytesAt (w : World) (l : Location) : Octets :=
  match w.files.contentAt l with
  | .ok b => Octets.ofBytes b
  | .error _ => []

def overwritten (old new : Octets) (place : Nat) : Octets :=
  let gap := List.replicate (place - old.length) (octet 0)
  old.take place ++ gap ++ new ++ old.drop (place + new.length)

def write (w : World) (writer id : Nat) (s : Octets) : Option World :=
  match w.channel? id with
  | some (.sink chunks) =>
    some (w.setChannel id (.sink (⟨w.clock, writer, s⟩ :: chunks)))
  | some .null => some w
  | some (.file l place append readable true) =>
    let old := w.bytesAt l
    let start := if append then old.length else place
    let files := w.files.putAt l (.file (Octets.toBytes (overwritten old s start)))
    some ({ w with files := files }.setChannel id
      (.file l (start + s.length) append readable true))
  | _ => none

def readable? (w : World) (id : Nat) : Option Octets :=
  match w.channel? id with
  | some (.source rest _) => some rest
  | some (.file l place _ true _) => some ((w.bytesAt l).drop place)
  | some .null => some []
  | _ => none

def read (w : World) (id : Nat) : Except SystemFault Octets :=
  match w.channel? id with
  | some (.file l place _ true _) => (w.files.contentAt l).map fun b => (Octets.ofBytes b).drop place
  | _ => (w.readable? id).elim (.error .badDescriptor) .ok

def take (w : World) (id n : Nat) : World :=
  match w.channel? id with
  | some (.source rest endless) => w.setChannel id (.source (rest.drop n) endless)
  | some (.file l place append r writable) =>
    w.setChannel id (.file l (place + n) append r writable)
  | _ => w

def isEndless (w : World) (id : Nat) : Bool :=
  match w.channel? id with
  | some (.source _ endless) => endless
  | _ => false

def isFile (w : World) (id : Nat) : Bool :=
  match w.channel? id with
  | some (.file ..) => true
  | _ => false

def collected (w : World) (id : Nat) : Octets :=
  match w.channel? id with
  | some (.sink chunks) =>
    (chunks.reverse.mergeSort fun a b => decide (a.time ≤ b.time)).flatMap (·.text)
  | _ => []

def hold (w : World) (process : Nat) (ids : List Nat) : World :=
  { w with
    streams := w.streams.map fun e =>
      if ids.contains e.1 then
        (e.1, { e.2 with holders := Assoc.put process w.clock e.2.holders })
      else e }

def heldUntil (w : World) (id : Nat) : Nat :=
  ((w.stream? id).map fun s => s.holders.foldl (fun n h => max n h.2) 0).getD 0

def cutShort (w : World) (process : Nat) : World :=
  let cut (c : Channel) : Channel :=
    match c with
    | .sink chunks => .sink (chunks.filter fun c => c.writer ≠ process || c.time ≤ w.clock)
    | c => c
  { w with
    streams := w.streams.map fun e =>
      (e.1, ⟨cut e.2.channel, e.2.holders.map fun h =>
        if h.1 = process then (h.1, min h.2 w.clock) else h⟩) }

end World

end JsonTemplate.Sandbox
