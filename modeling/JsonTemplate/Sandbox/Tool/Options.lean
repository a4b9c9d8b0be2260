import JsonTemplate.Sandbox.Tool.Basic

/-!
# Options of tools

Options stand anywhere among the arguments until a double dash. Short ones may share a dash, and
the value of one may join it; long ones may be cut short as long as they stay unique.
-/

namespace JsonTemplate.Sandbox

structure ToolOption where
  letter : Char
  /-- Whether the letter may be used; otherwise it only stands for the long name. -/
  isShort : Bool := true
  name : String := ""
  takesValue : Bool := false
  deriving DecidableEq, Inhabited

structure GivenOption where
  letter : Char
  value : Octets := []
  deriving DecidableEq

structure Given where
  options : List GivenOption := []
  operands : List Octets := []

namespace Given

def has (g : Given) (letter : Char) : Bool :=
  g.options.any (·.letter == letter)

def hasAny (g : Given) (letters : String) : Bool :=
  letters.toList.any g.has

def value? (g : Given) (letter : Char) : Option Octets :=
  ((g.options.filter (·.letter == letter)).getLast?).map (·.value)

end Given

namespace ToolOption

def withOption (o : GivenOption) (r : Except Octets Given) : Except Octets Given :=
  r.map fun g => { g with options := o :: g.options }

def withOperand (a : Octets) (r : Except Octets Given) : Except Octets Given :=
  r.map fun g => { g with operands := a :: g.operands }

def ofName (known : List ToolOption) (name : Octets) : Except Octets ToolOption :=
  let s := Octets.toText name
  match known.find? (·.name == s) with
  | some o => .ok o
  | none =>
    match known.filter fun o => o.name.startsWith s with
    | [o] => .ok o
    | [] => .error (Octets.ofText "unrecognized option '--" ++ name ++ ['\''])
    | os => .error (Octets.ofText "option '--" ++ name ++ Octets.ofText "' is ambiguous; possibilities:"
        ++ os.flatMap fun o => Octets.ofText (" '--" ++ o.name ++ "'"))

/-- What a cluster of short options stands for: the options without values at its start, and the
one with a value that ends it, along with the value if it joins the option. -/
def readCluster (known : List ToolOption) :
    Octets → Except Octets (List GivenOption × Option (Char × Option Octets))
  | [] => .ok ([], none)
  | c :: s =>
    match known.find? fun o => o.isShort && o.letter == c with
    | none => .error (Octets.ofText "invalid option -- '" ++ [c, '\''])
    | some o =>
      if o.takesValue then .ok ([], some (c, if s.isEmpty then none else some s))
      else (readCluster known s).map fun r => (⟨c, []⟩ :: r.1, r.2)

def parse (known : List ToolOption) : List Octets → Except Octets Given
  | [] => .ok {}
  | ('-' :: '-' :: []) :: args => .ok { operands := args }
  | ('-' :: '-' :: s) :: args =>
    let (name, value) := breakAt '=' s
    match ofName known name with
    | .error e => .error e
    | .ok o =>
      if o.takesValue then
        match value, args with
        | some v, args => withOption ⟨o.letter, v⟩ (parse known args)
        | none, v :: args => withOption ⟨o.letter, v⟩ (parse known args)
        | none, [] => .error (Octets.ofText ("option '--" ++ o.name ++ "' requires an argument"))
      else if value.isSome then
        .error (Octets.ofText ("option '--" ++ o.name ++ "' doesn't allow an argument"))
      else withOption ⟨o.letter, []⟩ (parse known args)
  | ('-' :: c :: s) :: args =>
    match readCluster known (c :: s) with
    | .error e => .error e
    | .ok (os, none) => os.foldr withOption (parse known args)
    | .ok (os, some (letter, some v)) => os.foldr withOption (withOption ⟨letter, v⟩ (parse known args))
    | .ok (os, some (letter, none)) =>
      match args with
      | v :: args => os.foldr withOption (withOption ⟨letter, v⟩ (parse known args))
      | [] => .error (Octets.ofText "option requires an argument -- '" ++ [letter, '\''])
  | a :: args => withOperand a (parse known args)

end ToolOption

end JsonTemplate.Sandbox
