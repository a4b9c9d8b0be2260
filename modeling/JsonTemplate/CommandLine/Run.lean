import JsonTemplate.CommandLine.Help
import JsonTemplate.CommandLine.Options
import JsonTemplate.Evaluation.Run
import JsonTemplate.Spec.Loader

/-!
# The command line

A run merges the spec files and the inline output template, reads the main input, renders the
output and writes it to one place. Whatever fails on the way, the run writes nothing and ends with
one error message and status 1; arguments that cannot be read end it with status 2. A breakdown ends
it without a status.
-/

namespace JsonTemplate.CommandLine

/-- What a run reads paths into values and YAML documents with. Either of them may be any. An engine
for paths is taken to give values, or to refuse the path with an error that is caught; a reader of
YAML may also raise something that nobody catches. -/
structure Readers where
  select? : Json → String → Option (List Json) := Path.select?
  yaml : Yaml.Reader := Yaml.read

structure Result where
  status : Nat := 0
  output : String := ""
  log : List Diagnostic := []
  breakdown : Option Breakdown := none
  /-- What is wrong with the arguments. -/
  usageError : Option String := none
  /-- The file that was written, and its content. -/
  written : Option (Location × Text.Utf8.Bytes) := none

/-- An inline output template; a text that is no JSON is a template of its own. -/
def outputTemplate (text : String) : Json :=
  Json.ofTextOrItself text

def mergeFiles (files : SpecFiles) : List (Option String) → Spec → Loader → Except SpecFailure Spec
  | [], s, _ => .ok s
  | none :: _, _, _ => .error (.breakdown .missingPath)
  | some path :: paths, s, loader =>
    match s.addUse files path loader with
    | (⟨s, none⟩, loader) => mergeFiles files paths s loader
    | (⟨_, some f⟩, _) => .error f

def specFiles (h : Host) (readers : Readers) : SpecFiles where
  tree := h.files
  homes := h.homes
  yaml := readers.yaml

def buildSpec (h : Host) (readers : Readers) (uses : List (Option String))
    (outputSpec : Option String) : Except SpecFailure Spec := do
  let s ← mergeFiles (specFiles h readers) uses .empty { directory := h.directory }
  match outputSpec with
  | none => return s
  | some text => s.addOutput (outputTemplate text)

def nonempty (path : Option String) : Option String :=
  path.filter (· ≠ "")

def mainInput (h : Host) (input : Text.Utf8.Bytes) (o : Options) : Except Failure Json :=
  if o.stdin then Json.ofStandardInput input
  else
    match nonempty o.inputFile with
    | some path => Json.ofFile h path
    | none => .ok .null

def rendered (h : Host) (readers : Readers) (settings : Settings) (input : Text.Utf8.Bytes)
    (o : Options) : Except Failure String × List Diagnostic :=
  match buildSpec h readers o.uses o.outputSpec with
  | .error f => (.error (.spec f), [])
  | .ok spec =>
    match mainInput h input o with
    | .error f => (.error f, [])
    | .ok v =>
      let ev : Evaluator := { spec, settings, host := h, select? := readers.select? }
      let outcome := ev.transform v {}
      (outcome.result, outcome.log)

def failed (message : String) (log : List Diagnostic) : Result :=
  { status := 1, log := log ++ [.fatal message] }

def broken (b : Breakdown) (log : List Diagnostic) : Result :=
  { status := 1, log := log, breakdown := some b }

def settingsOf (o : Options) : Except (Breakdown ⊕ SettingsFault) Settings := do
  let make (depth : Int) (limit : Option Seconds) :=
    (Settings.make? depth limit o.verbose o.quiet).mapError Sum.inr
  match o.maxDepth, o.timeLimit with
  | none, _ => throw (.inl (.missingNumber "<"))
  | some depth, none => make depth none
  | some depth, some (some d) => make depth (some (.float d))
  | some depth, some none =>
    let _ ← make depth none
    throw (.inl (.missingNumber "<="))

def deliver (h : Host) (path : Option String) (document : String) (log : List Diagnostic) :
    Result :=
  match nonempty path with
  | none => { output := document ++ "\n", log := log }
  | some path =>
    if Text.hasNull path then broken .nullByte log
    else
      let target := FilePath.normalized path
      match h.files.writable h.directory target with
      | .ok l => { log := log, written := some (l, Text.Utf8.encode (document ++ "\n").toList) }
      | .error cause => failed (Failure.output path cause target).message log

def runOptions (h : Host) (readers : Readers) (input : Text.Utf8.Bytes) (o : Options) : Result :=
  if o.usage then { output := usageText }
  else if o.stdin && (nonempty o.inputFile).isSome then
    failed "cannot use both --stdin and --in flags together" []
  else
    match settingsOf o with
    | .error (.inl b) => broken b []
    | .error (.inr f) => failed f.message []
    | .ok settings =>
      match rendered h readers settings input o with
      | (.ok document, log) => deliver h o.outputFile document log
      | (.error f, log) =>
        match f.breakdown? with
        | some b => broken b log
        | none => failed f.message log

def usageError (f : OptionFault) : String :=
  s!"{programName}: error: {f.message}"

def run (h : Host) (readers : Readers) (args : List String) (input : Text.Utf8.Bytes) : Result :=
  match Options.parse args with
  | .error f => { status := 2, usageError := some (usageError f) }
  | .ok .help => { output := helpText }
  | .ok (.run o) => runOptions h readers input o

def Result.filesAfter (r : Result) (files : FileTree) : FileTree :=
  match r.written with
  | some (l, content) => files.putAt l (.file content)
  | none => files

end JsonTemplate.CommandLine
