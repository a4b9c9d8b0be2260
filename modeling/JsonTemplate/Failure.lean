import JsonTemplate.Expression.Basic
import JsonTemplate.Files.Fault
import JsonTemplate.Json.Keys
import JsonTemplate.Settings

/-!
# Failures

Every failure is a cause with the data its message shows. A `SoftFailure` concerns one text of a
template, which is then kept as it is; a `ResolutionFailure` concerns one input, and only a map
lives on after it; every other failure ends the evaluation. A `Breakdown` ends the whole run without
an error message of the run itself.
-/

namespace JsonTemplate

/-- Stands in messages where the reader of a path or of a YAML document does not explain itself. -/
def unexplained : String := "<reason>"

inductive Shape where
  | array (length : Nat)
  | other (kind : String)
  deriving DecidableEq, Repr

def Shape.text : Shape → String
  | array n => s!"array of {n}"
  | other kind => kind

def Json.shape : Json → Shape
  | array items => .array items.length
  | v => .other v.kindName

inductive Misuse where
  | unwrapNeedsSingleton (got : Shape)
  | mapNeedsArray (got : Shape)
  | mapNeedsOneName
  | branchNeedsTwoNames
  deriving DecidableEq, Repr

namespace Misuse

def builtinName : Misuse → String
  | unwrapNeedsSingleton _ => "unwrap"
  | mapNeedsArray _ => "map"
  | mapNeedsOneName => "map"
  | branchNeedsTwoNames => "ifelse"

def reason : Misuse → String
  | unwrapNeedsSingleton got => s!"expected an array of one element, got {got.text}"
  | mapNeedsArray got => s!"expected an array, got {got.text}"
  | mapNeedsOneName => "expected exactly one input name argument"
  | branchNeedsTwoNames => "expected two input name arguments (then, else)"

end Misuse

inductive SoftFailure where
  | malformed (text : String) (flaw : Expression.Flaw)
  | query (path : String)
  | noContext (text : String)
  | misuse (m : Misuse)
  deriving DecidableEq, Repr

def SoftFailure.message : SoftFailure → String
  | malformed text flaw => s!"malformed expression '{text}': {flaw.message}"
  | query path => s!"failed to apply JsonPath expression '{path}': {unexplained}"
  | noContext text => s!"'{text}' refers to the context value, but there is none"
  | misuse m => s!"failed to apply builtin transform '{m.builtinName}': {m.reason}"

inductive CommandFault where
  | openQuote
  | openEscape
  | empty
  | unsendable
  | notStarted (cause : SystemFault) (program : String)
  | timedOut (limit : Seconds)
  | notText (fault : Text.Utf8.Fault)
  | exitStatus (status : Int)
  deriving DecidableEq, Repr

namespace CommandFault

def reason : CommandFault → String
  | openQuote => "failed to parse command: No closing quotation"
  | openEscape => "failed to parse command: No escaped character"
  | empty => "empty command"
  | unsendable => "context is not valid JSON: Out of range float values are not JSON compliant"
  | notStarted cause program => s!"failed to run command: {cause.message program}"
  | timedOut limit => s!"command timed out after {limit.text} seconds"
  | notText fault => s!"couldn't read command stdout: {fault.message}"
  | exitStatus status => s!"exit status {String.ofList (Json.intChars status)}"

def status? : CommandFault → Option Int
  | exitStatus status => some status
  | _ => none

end CommandFault

inductive Breakdown where
  | timeLimit (fault : Seconds.ClockFault)
  /-- Keys that have no order. -/
  | keys (clash : KeyClash)
  /-- A path, a user's name or a word of a command with a null character in it. -/
  | nullByte
  /-- A path that starts from the home directory of somebody unknown. -/
  | unknownHome
  /-- What a reader of YAML raises that is no error of the document. -/
  | yaml (message : String)
  /-- An option for a path that was given nothing at all. -/
  | missingPath
  /-- An option for a number that was given nothing at all. -/
  | missingNumber (comparison : String)
  deriving DecidableEq, Repr

namespace Breakdown

def orderMessage (comparison left right : String) : String :=
  s!"'{comparison}' not supported between instances of '{left}' and '{right}'"

def message : Breakdown → String
  | timeLimit fault => fault.message
  | keys clash => orderMessage "<" clash.left clash.right
  | nullByte => "embedded null byte"
  | unknownHome => "Could not determine home directory."
  | yaml message => message
  | missingPath => "expected str, bytes or os.PathLike object, not list"
  | missingNumber comparison => orderMessage comparison "list" "int"

end Breakdown

inductive ResolutionFailure where
  | unknown (name : String)
  | boundName (name : String)
  | argumentCount (name : String) (expected got : Nat)
  | sourceKind (name : String)
  | file (name : String) (fault : DocumentFault)
  | command (name command : String) (fault : CommandFault)
  deriving DecidableEq, Repr

namespace ResolutionFailure

def inputName : ResolutionFailure → String
  | unknown name => name
  | boundName name => name
  | argumentCount name _ _ => name
  | sourceKind name => name
  | file name _ => name
  | command name _ _ => name

def message : ResolutionFailure → String
  | unknown name => s!"found reference to unknown input '{name}'"
  | boundName name => s!"'{name}' is a local binding and takes no arguments"
  | argumentCount name expected got => s!"input '{name}' expects {expected} argument(s), got {got}"
  | sourceKind name => s!"non-string provided as source for input '{name}'"
  | file name fault => s!"failed to load file for input '{name}': {fault.message}"
  | command name _ fault => s!"failed to execute command for input '{name}': {fault.reason}"

end ResolutionFailure

inductive DeclarationFault where
  | notAnObject (index : Int) (origin : String) (kind : String)
  | badName (index : Int) (origin : String) (got : String)
  | badKind (name : String) (got : String)
  | noSource (name : String)
  | badBindings (name : String)
  | badStdin (name : String)
  | badArgs (name : String)
  | builtinName (name : String)
  deriving DecidableEq, Repr

namespace DeclarationFault

def inputName? : DeclarationFault → Option String
  | notAnObject .. => none
  | badName .. => none
  | badKind name _ => some name
  | noSource name => some name
  | badBindings name => some name
  | badStdin name => some name
  | badArgs name => some name
  | builtinName name => some name

def message : DeclarationFault → String
  | notAnObject index origin kind =>
    s!"input at index {String.ofList (Json.intChars index)} in {origin} must be an object, " ++
      s!"got: {kind}"
  | badName index origin got =>
    s!"input at index {String.ofList (Json.intChars index)} in {origin} " ++
      s!"needs an identifier 'name', got: {got}"
  | badKind name got =>
    s!"invalid kind {got} of input '{name}'. Must be one of: INLINE, FILE, COMMAND"
  | noSource name => s!"input '{name}' is missing required 'source' field"
  | badBindings name => s!"wrong 'let' clause of input '{name}': should be an object"
  | badStdin name => s!"'stdin' of input '{name}' must be a boolean"
  | badArgs name => s!"'args' of input '{name}' must be a list of identifiers"
  | builtinName name =>
    s!"can't define input '{name}' because of the builtin function with the same name"

end DeclarationFault

inductive DocumentFlaw where
  | file (fault : FileFault)
  | json (error : Json.SyntaxError)
  | yaml
  | notAnObject
  | uses
  | description
  | inputs
  deriving DecidableEq, Repr

def DocumentFlaw.message : DocumentFlaw → String
  | file fault => s!"File read error: {fault.message}"
  | json error => s!"JSON parse error: {error.message}"
  | yaml => s!"YAML parse error: {unexplained}"
  | notAnObject => "spec must be a JSON object"
  | uses => "'use' must be a list of file paths"
  | description => "'description' must be a string"
  | inputs => "'input' must be a list of input declarations"

inductive SpecFailure where
  | document (origin : String) (flaw : DocumentFlaw)
  | declaration (fault : DeclarationFault)
  | conflict (name : String)
  | secondOutput
  | noOutput
  | circular (chain : List String)
  | breakdown (b : Breakdown)
  deriving DecidableEq, Repr

def chainText (chain : List String) : String :=
  " → ".intercalate chain

def SpecFailure.message : SpecFailure → String
  | document origin flaw => s!"failed to parse spec {origin}: {flaw.message}"
  | declaration fault => fault.message
  | conflict name => s!"found conflicting definition of input '{name}'"
  | secondOutput => "double definition of output"
  | noOutput => "no output specified"
  | circular chain => s!"circular 'use' detected: {chainText chain}"
  | breakdown b => b.message

inductive Failure where
  | soft (f : SoftFailure)
  | resolution (f : ResolutionFailure)
  | depth (chain : List String) (limit : Int)
  | spec (f : SpecFailure)
  | read (source : String) (fault : DocumentFault)
  | write (value : Double)
  | output (path : String) (cause : SystemFault) (target : String)
  | breakdown (b : Breakdown)
  deriving DecidableEq, Repr

namespace Failure

def ofSource {ε : Type} (fault : ε → ResolutionFailure) : Breakdown ⊕ ε → Failure
  | .inl b => breakdown b
  | .inr e => resolution (fault e)

def ofFile (name : String) : Breakdown ⊕ DocumentFault → Failure :=
  ofSource (.file name)

def ofCommand (name command : String) : Breakdown ⊕ CommandFault → Failure :=
  ofSource (.command name command)

def writeReason (value : Double) : String :=
  s!"Out of range float values are not JSON compliant: {value.text}"

def message : Failure → String
  | soft f => f.message
  | resolution f => f.message
  | depth chain limit =>
    s!"maximum input nesting depth ({String.ofList (Json.intChars limit)}) exceeded. " ++
      s!"Current chain: {chainText chain}"
  | spec f => f.message
  | read source fault => s!"failed to read JSON from {source}: {fault.message}"
  | write value => s!"failed to serialize result as JSON: {writeReason value}"
  | output path cause target => s!"failed to write output to {path}: {cause.message target}"
  | breakdown b => b.message

def breakdown? : Failure → Option Breakdown
  | spec (.breakdown b) => some b
  | breakdown b => some b
  | _ => none

end Failure

end JsonTemplate
