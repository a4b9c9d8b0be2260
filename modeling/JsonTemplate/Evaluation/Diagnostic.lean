import JsonTemplate.Spec.Declaration
import JsonTemplate.Text.Console

/-!
# Diagnostics

What an evaluation reports beside its result: texts and elements that were kept because of a
failure, and, in traces, the inputs as their resolution starts.
-/

namespace JsonTemplate

inductive Diagnostic where
  | keptText (f : SoftFailure)
  | keptElement (input : String) (f : ResolutionFailure)
  | resolving (kind : InputKind) (name : String)
  | fatal (message : String)
  deriving DecidableEq, Repr

namespace Diagnostic

def isTrace : Diagnostic → Bool
  | resolving .. => true
  | _ => false

def message : Diagnostic → String
  | keptText f => f.message
  | keptElement input f => s!"failed to apply input transform '{input}'; reason: {f.message}"
  | resolving kind name => s!"resolving {kind.text} input '{name}'"
  | fatal message => message

def label : Diagnostic → String
  | keptText _ => "Warning: "
  | keptElement _ _ => "Warning: "
  | resolving _ _ => ""
  | fatal _ => "Error: "

def text (d : Diagnostic) : String :=
  d.label ++ Text.Console.shown d.message

end Diagnostic

def Settings.shows (s : Settings) (d : Diagnostic) : Bool :=
  !s.quiet && (!d.isTrace || s.verbose)

end JsonTemplate
