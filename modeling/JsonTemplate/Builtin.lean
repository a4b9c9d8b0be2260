/-!
# Builtin transforms

Their names are taken before those of inputs, and no input may be declared under one of them.
-/

namespace JsonTemplate

inductive Builtin where
  | unwrap
  | map
  | ifelse
  deriving DecidableEq, Repr

namespace Builtin

def all : List Builtin := [unwrap, map, ifelse]

def name : Builtin → String
  | unwrap => "unwrap"
  | map => "map"
  | ifelse => "ifelse"

def ofName? (s : String) : Option Builtin :=
  all.find? (·.name = s)

def has (s : String) : Bool :=
  (ofName? s).isSome

end Builtin

end JsonTemplate
