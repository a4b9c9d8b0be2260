import JsonTemplate.Json.Basic

/-!
# Paths into JSON values

A path starts at an anchor and takes steps; each step applies a selector to a value, or to the
value and everything inside it. A filter keeps the children for which a condition holds; its paths
start at the child, `@`, or at the value that the whole path is applied to, `$`.
-/

namespace JsonTemplate

inductive Anchor where
  | root
  | current
  deriving DecidableEq, Repr

inductive Comparison where
  | equal
  | unequal
  | less
  | lessOrEqual
  | greater
  | greaterOrEqual
  deriving DecidableEq, Repr

mutual

inductive Path where
  | start (anchor : Anchor)
  | step (origin : Path) (deep : Bool) (selector : Selector)

inductive Selector where
  | names (ns : List String)
  | all
  | indices (is : List Int)
  | slice (start stop stride : Option Int)
  | filter (condition : Condition)

inductive Condition where
  | or (a b : Condition)
  | and (a b : Condition)
  | present (p : Path)
  | absent (p : Path)
  | literal (p : Path) (c : Comparison) (v : Json)
  | between (p : Path) (c : Comparison) (q : Path)

end

end JsonTemplate
