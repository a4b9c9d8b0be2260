/-!
# Expressions

An expression names an input, or by an empty name the context value, follows a path into it and
hands the result through a pipeline of transforms. A transform called with parentheses has a list
of arguments, an empty one in `f()`; without parentheses it has none.
-/

namespace JsonTemplate

structure Transform where
  name : String
  args : Option (List String)
  deriving DecidableEq, Repr

def Transform.argList (t : Transform) : List String :=
  t.args.getD []

structure Expression where
  input : String
  path : String
  transforms : List Transform
  deriving DecidableEq, Repr

def Expression.query (e : Expression) : String :=
  "$" ++ e.path

inductive Expression.Flaw where
  | unexpected (c : Char)
  | segment
  | unbalanced
  deriving DecidableEq, Repr

def Expression.Flaw.message : Expression.Flaw → String
  | .unexpected c => s!"unexpected '{c}' after input name"
  | .segment => "malformed pipeline segment"
  | .unbalanced => "unbalanced brackets or quotes in path"

end JsonTemplate
