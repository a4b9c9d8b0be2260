import JsonTemplate.Json.Basic
import JsonTemplate.Number.Magnitude

/-!
# Keys and their order

Names are ordered by code points, and keys that are numbers by their place on the line, where truth
values count as one and zero. There is no order between other keys: a sort that comes to compare
two of them gives up, and `Key.clash?` says which ones. Names alone never clash.
-/

namespace JsonTemplate

structure KeyClash where
  left : String
  right : String
  deriving DecidableEq, Repr

namespace Key

def kindName : Key → String
  | name _ => "str"
  | scalar .null => "NoneType"
  | scalar (.bool _) => "bool"
  | scalar (.int _) => "int"
  | scalar (.float _) => "float"

def number? : Key → Option Magnitude
  | scalar (.bool b) => some (.ofInt (if b then 1 else 0))
  | scalar (.int n) => some (.ofInt n)
  | scalar (.float d) => some (.ofDouble d)
  | _ => none

def same (a b : Key) : Bool :=
  a = b ||
    match number? a, number? b with
    | some x, some y => x.equal y
    | _, _ => false

def isName : Key → Bool
  | name _ => true
  | scalar _ => false

def isComparable (a b : Key) : Bool :=
  (a.isName && b.isName) || (a.number?.isSome && b.number?.isSome)

def before : Key → Key → Bool
  | name s, name t => s < t
  | a, b =>
    match number? a, number? b with
    | some x, some y => x.less y
    | _, _ => false

def less? (a b : Key) : Except KeyClash Bool :=
  if isComparable a b then .ok (before a b) else .error ⟨a.kindName, b.kindName⟩

/-- Takes keys as long as they carry a run on; `last` is the last key of the run so far. -/
def takeRun (descending : Bool) (run : List Key) (last : Key) :
    List Key → Except KeyClash (List Key × List Key)
  | [] => .ok (run, [])
  | k :: ks => do
    if (← less? k last) == descending then takeRun descending (run ++ [k]) k ks
    else return (run, k :: ks)

def firstRun : List Key → Except KeyClash (List Key × List Key)
  | a :: b :: ks => do
    let descending ← less? b a
    let (run, rest) ← takeRun descending [a, b] b ks
    return (if descending then run.reverse else run, rest)
  | ks => .ok (ks, [])

/-- Where a key belongs among sorted ones between two places; the fuel bounds the halvings. -/
def place (k : Key) (sorted : List Key) : Nat → Nat → Nat → Except KeyClash Nat
  | 0, low, _ => .ok low
  | fuel + 1, low, high =>
    match sorted[low + (high - low) / 2]? with
    | none => .ok low
    | some q => do
      if high ≤ low then return low
      else if ← less? k q then place k sorted fuel low (low + (high - low) / 2)
      else place k sorted fuel (low + (high - low) / 2 + 1) high

def insertAll (sorted : List Key) : List Key → Except KeyClash (List Key)
  | [] => .ok sorted
  | k :: ks => do
    let i ← place k sorted sorted.length 0 sorted.length
    insertAll (sorted.take i ++ k :: sorted.drop i) ks

def clash? (ks : List Key) : Option KeyClash :=
  if ks.all isName then none
  else
    match firstRun ks with
    | .error c => some c
    | .ok (run, rest) =>
      match insertAll run rest with
      | .error c => some c
      | .ok _ => none

end Key

end JsonTemplate
