import JsonTemplate.CommandLine.Run
import JsonTemplate.Proofs.Evaluation.Allowance
import JsonTemplate.Proofs.Evaluation.TextFault
import JsonTemplate.Proofs.Evaluation.Tracing
import JsonTemplate.Proofs.Spec.Comparing
import JsonTemplate.Proofs.Spec.Loading

/-!
# All or nothing

A run writes its document to one place and reports no error, or it reports one error and writes
nothing. The only other way for it to end is a breakdown, and that takes an option that was given
nothing for a value, a time limit that no clock can wait for, a null character in the name of a file
or in a command, a home directory that nobody knows, or a YAML document that the reader stumbles
over or that says what JSON cannot say.
-/

namespace JsonTemplate.CommandLine

open Evaluator

/-- A spec file that a run comes to, by way of the files that use one another. -/
def Reached (h : Host) (readers : Readers) (o : Options) (l : Location) : Prop :=
  ∃ path start, some path ∈ o.uses ∧ h.directory.locate h.homes path = .ok start ∧
    Relation.ReflTransGen (Loader.Uses (specFiles h readers)) start l

/-- What it takes to break a run down. -/
inductive Fragile (h : Host) (readers : Readers) (o : Options) : Prop
  | use : none ∈ o.uses → Fragile h readers o
  | maxDepth : o.maxDepth = none → Fragile h readers o
  | timeLimit : o.timeLimit = some none → Fragile h readers o
  | clock {d : Double} : o.timeLimit = some (some d) → (Seconds.float d).clockFault? ≠ none →
      Fragile h readers o
  | yaml {l : Location} : Reached h readers o l → ¬ Loader.Legible (specFiles h readers) l →
      Fragile h readers o
  | unlocated {path : String} {b : Breakdown} : some path ∈ o.uses →
      h.directory.locate h.homes path = .error b → Fragile h readers o
  | usesUnlocated {l : Location} : Reached h readers o l →
      ¬ Loader.Located (specFiles h readers) l → Fragile h readers o
  | inputFile {path : String} : nonempty o.inputFile = some path → Text.hasNull path = true →
      Fragile h readers o
  | outputFile {path : String} : nonempty o.outputFile = some path → Text.hasNull path = true →
      Fragile h readers o
  | input {spec : Spec} {name : String} {d : Declaration} :
      buildSpec h readers o.uses o.outputSpec = .ok spec → spec.input? name = some d →
      d.NamesNull → Fragile h readers o

theorem mergeFiles_answers {files : SpecFiles} {P : Location → Prop}
    (hP : Loader.ClosedUnderLoading files P (Answers Spec.Named)) {directory : Location}
    {uses : List (Option String)}
    (huses : ∀ use ∈ uses, ∃ path l, use = some path ∧
      directory.locate files.homes path = .ok l ∧ P l)
    {s : Spec} (hs : s.Named) {loader : Loader} (hdirectory : loader.directory = directory)
    (hfaithful : loader.Faithful files) (hloader : loader.KeepsOnly (Answers Spec.Named)) :
    Answers Spec.Named (mergeFiles files uses s loader) := by
  induction uses generalizing s loader with
  | nil => exact hs
  | cons use uses ih =>
    obtain ⟨⟨path, l, rfl, hpath, hl⟩, hrest⟩ := List.forall_mem_cons.mp huses
    rw [← hdirectory] at hpath
    have hload : Loader.Sound (Answers Spec.Named) (loader.load files path) := by
      apply hP.load hloader
      · intro q hq
        cases hpath.symm.trans hq
        exact hl
      · intro b hb
        cases hpath.symm.trans hb
    have hkeeps := Loader.load_keeps hfaithful path
    unfold mergeFiles Spec.addUse
    generalize loader.load files path = r at hload hkeeps
    rcases r with ⟨f | other, after⟩
    · exact hload.result
    · have hmerge := Spec.merge_answers hs hload.result
      dsimp only
      generalize s.merge other = c at hmerge
      rcases c with ⟨t, _ | f⟩
      · exact ih hrest hmerge.named (hkeeps.directory.trans hdirectory) hkeeps.faithful hload.loader
      · exact hmerge.failure f rfl

theorem buildSpec_answers {h : Host} {readers : Readers} {o : Options}
    (hreached : ∀ l, Reached h readers o l →
      Loader.Legible (specFiles h readers) l ∧ Loader.Located (specFiles h readers) l)
    (huses : ∀ use ∈ o.uses, ∃ path l, use = some path ∧
      h.directory.locate h.homes path = .ok l) :
    Answers Spec.Named (buildSpec h readers o.uses o.outputSpec) := by
  have hclosed : Loader.ClosedUnderLoading (specFiles h readers) (Reached h readers o)
      (Answers Spec.Named) := by
    refine Loader.closedUnderLoading_named hreached ?_
    rintro l own ⟨path, start, huse, hstart, hl⟩ hown use' huse' l' hl'
    exact ⟨path, start, huse, hstart, hl.tail ⟨own, hown, use', huse', hl'⟩⟩
  have hstarts : ∀ use ∈ o.uses, ∃ path l, use = some path ∧
      h.directory.locate h.homes path = .ok l ∧ Reached h readers o l := by
    intro use huse
    obtain ⟨path, l, rfl, hl⟩ := huses use huse
    exact ⟨path, l, rfl, hl, path, l, huse, hl, .refl⟩
  have hempty : Spec.empty.Named := Spec.named_blank [] none
  have hloader := Loader.keepsOnly_new (Answers Spec.Named) h.directory
  have hfaithful := Loader.faithful_new (specFiles h readers) h.directory
  refine (mergeFiles_answers hclosed hstarts hempty rfl hfaithful hloader).bind fun s hs => ?_
  cases o.outputSpec with
  | none => exact hs
  | some text => exact Spec.addOutput_answers hs _

theorem timeLimit_of_make? {depth : Int} {limit : Option Seconds} {verbose quiet : Bool}
    {settings : Settings} (h : Settings.make? depth limit verbose quiet = .ok settings) :
    settings.timeLimit = limit := by
  unfold Settings.make? at h
  split at h
  · cases h
  · split at h
    · cases h
      rfl
    · split at h
      · cases h
      · cases h
        rfl

theorem mapError_inr_ne_inl {α ε : Type} (x : Except ε α) (b : Breakdown) :
    x.mapError Sum.inr ≠ .error (.inl b : Breakdown ⊕ ε) := by
  cases x <;> exact nofun

theorem fragile_of_settingsOf {h : Host} {readers : Readers} {o : Options} {b : Breakdown}
    (hb : settingsOf o = .error (.inl b)) : Fragile h readers o := by
  unfold settingsOf at hb
  cases hdepth : o.maxDepth with
  | none => exact .maxDepth hdepth
  | some depth =>
    rw [hdepth] at hb
    rcases hlimit : o.timeLimit with _ | _ | d
    · rw [hlimit] at hb
      exact absurd hb (mapError_inr_ne_inl _ b)
    · exact .timeLimit hlimit
    · rw [hlimit] at hb
      exact absurd hb (mapError_inr_ne_inl _ b)

theorem timeLimit_of_settingsOf {o : Options} {settings : Settings}
    (h : settingsOf o = .ok settings) :
    ∀ t ∈ settings.timeLimit, ∃ d, t = .float d ∧ o.timeLimit = some (some d) := by
  intro t ht
  unfold settingsOf at h
  cases hdepth : o.maxDepth with
  | none =>
    rw [hdepth] at h
    cases h
  | some depth =>
    rw [hdepth] at h
    rcases hlimit : o.timeLimit with _ | _ | d <;> rw [hlimit] at h
    · rw [timeLimit_of_make? (mapError_eq_ok_iff.mp h)] at ht
      cases ht
    · obtain ⟨_, -, h⟩ := except_bind_eq_ok_iff.mp h
      cases h
    · rw [timeLimit_of_make? (mapError_eq_ok_iff.mp h)] at ht
      cases ht
      exact ⟨d, rfl, rfl⟩

def noErrors : Allowance where
  fails f := ∀ g, f ≠ .soft g
  reports d := d.label ≠ "Error: "
  keptText _ := by
    change "Warning: " ≠ "Error: "
    decide
  keptElement _ _ _ := by
    change "Warning: " ≠ "Error: "
    decide

theorem noErrors_broad (ev : Evaluator) : noErrors.Broad ev where
  resolution _ _ := nofun
  depth _ _ _ := nofun
  breakdown _ _ _ _ _ _ := nofun
  traces _ _ := by
    change "" ≠ "Error: "
    decide

theorem document_ne_soft (v : Json) (s : Stacks) (f : SoftFailure) :
    (document v s).result ≠ .error (.soft f) := by
  unfold document
  cases v.dump <;> exact nofun

theorem transform_ne_soft (ev : Evaluator) (v : Json) (s : Stacks) (f : SoftFailure) :
    (ev.transform v s).result ≠ .error (.soft f) := by
  intro hf
  rcases Evaluation.result_bind_eq_error_iff.mp hf with hrender | ⟨w, -, hdocument⟩
  · rcases ((noErrors_broad ev).render v s).1 _ hrender with hne | hspec
    · exact hne f rfl
    · cases hspec
  · exact document_ne_soft w _ f hdocument

theorem breakdown?_of_transform {ev : Evaluator} (h : ev.Steady) {v : Json} {s : Stacks}
    {f : Failure} (hf : (ev.transform v s).result = .error f) : f.breakdown? = none := by
  obtain (hescapes | rfl) | ⟨d, rfl⟩ := transform_failsOnly v s f hf
  · cases hescapes.isHard h <;> rfl
  · rfl
  · rfl

variable {h : Host} {readers : Readers} {settings : Settings} {input : Text.Utf8.Bytes}
  {o : Options}

/-- The main input cannot be read, or the path to it has a null character. -/
theorem mainInput_eq_error {f : Failure} (hf : mainInput h input o = .error f) :
    (∃ source fault, f = .read source fault) ∨
      f = .breakdown .nullByte ∧ ∃ path, nonempty o.inputFile = some path ∧
        Text.hasNull path = true := by
  unfold mainInput at hf
  split at hf
  · left
    obtain htext | ⟨text, -, hparse⟩ := except_bind_eq_error_iff.mp hf
    · obtain ⟨fault, -, rfl⟩ := mapError_eq_error_iff.mp htext
      exact ⟨_, _, rfl⟩
    · obtain ⟨e, -, rfl⟩ := mapError_eq_error_iff.mp hparse
      exact ⟨_, _, rfl⟩
  · split at hf
    · next path hpath =>
      obtain ⟨fault, hfile, rfl⟩ := mapError_eq_error_iff.mp hf
      cases fault with
      | inl b =>
        obtain ⟨rfl, hnull⟩ := Json.breakdown_of_ofFile? hfile
        exact .inr ⟨rfl, path, hpath, hnull⟩
      | inr fault => exact .inl ⟨path, fault, rfl⟩
    · cases hf

/-- The log of a rendering holds warnings and traces. -/
theorem label_of_mem_rendered :
    ∀ d ∈ (rendered h readers settings input o).2, d.label ≠ "Error: " := by
  unfold rendered
  split
  · exact nofun
  · split
    · exact nofun
    · dsimp only
      rw [log_transform]
      exact ((noErrors_broad _).render _ _).2

theorem rendered_ne_soft (f : SoftFailure) :
    (rendered h readers settings input o).1 ≠ .error (.soft f) := by
  unfold rendered
  split
  · exact nofun
  · split
    · next g hg =>
      obtain ⟨source, fault, rfl⟩ | ⟨rfl, -⟩ := mainInput_eq_error hg
      · exact nofun
      · exact nofun
    · exact transform_ne_soft _ _ _ f

theorem buildSpec_answers_of_not_fragile (hrobust : ¬ Fragile h readers o) :
    Answers Spec.Named (buildSpec h readers o.uses o.outputSpec) := by
  apply buildSpec_answers
  · intro l hl
    constructor
    · by_contra hyaml
      exact hrobust (.yaml hl hyaml)
    · by_contra hunlocated
      exact hrobust (.usesUnlocated hl hunlocated)
  · intro use huse
    cases use with
    | none => exact absurd (.use huse) hrobust
    | some path =>
      cases hlocate : h.directory.locate h.homes path with
      | error b => exact absurd (.unlocated huse hlocate) hrobust
      | ok l => exact ⟨path, l, rfl, hlocate⟩

theorem steady_of_not_fragile (hrobust : ¬ Fragile h readers o)
    (hsettings : settingsOf o = .ok settings) {spec : Spec}
    (hspec : buildSpec h readers o.uses o.outputSpec = .ok spec) :
    Steady { spec, settings, host := h, select? := readers.select? } := by
  apply steady_of_clock
  · intro t ht
    obtain ⟨d, rfl, hd⟩ := timeLimit_of_settingsOf hsettings t ht
    by_contra hfault
    exact hrobust (.clock hd hfault)
  · intro name d hd hnames
    exact hrobust (.input hspec hd hnames)

/-- Rendering breaks down only in a fragile run. -/
theorem fragile_of_rendered (hsettings : settingsOf o = .ok settings) {f : Failure}
    (hf : (rendered h readers settings input o).1 = .error f) {b : Breakdown}
    (hb : f.breakdown? = some b) : Fragile h readers o := by
  by_contra hrobust
  have hspec := buildSpec_answers_of_not_fragile hrobust
  unfold rendered at hf
  cases hbuild : buildSpec h readers o.uses o.outputSpec with
  | error g =>
    rw [hbuild] at hspec hf
    cases hf
    cases g with
    | breakdown b => exact hspec b rfl
    | _ => cases hb
  | ok spec =>
    rw [hbuild] at hf
    dsimp only at hf
    cases hv : mainInput h input o with
    | error g =>
      rw [hv] at hf
      cases hf
      obtain ⟨source, fault, rfl⟩ | ⟨rfl, path, hpath, hnull⟩ := mainInput_eq_error hv
      · cases hb
      · exact hrobust (.inputFile hpath hnull)
    | ok v =>
      rw [hv] at hf
      have hsteady := steady_of_not_fragile hrobust hsettings hbuild
      cases hb.symm.trans (breakdown?_of_transform hsteady hf)

def Renders (h : Host) (readers : Readers) (input : Text.Utf8.Bytes) (o : Options)
    (document : String) : Prop :=
  ∃ settings, settingsOf o = .ok settings ∧
    (rendered h readers settings input o).1 = .ok document

structure Delivered (h : Host) (o : Options) (document : String) (r : Result) : Prop where
  status : r.status = 0
  breakdown : r.breakdown = none
  usageError : r.usageError = none
  log : ∀ d ∈ r.log, d.label ≠ "Error: "
  place : (nonempty o.outputFile = none ∧ r.output = document ++ "\n" ∧ r.written = none) ∨
    ∃ path l, nonempty o.outputFile = some path ∧
      h.files.writable h.directory (FilePath.normalized path) = .ok l ∧ r.output = "" ∧
        r.written = some (l, Text.Utf8.encode (document ++ "\n").toList)

structure WritesNothing (r : Result) : Prop where
  status : r.status = 1
  usageError : r.usageError = none
  output : r.output = ""
  written : r.written = none

structure Refused (r : Result) : Prop extends WritesNothing r where
  breakdown : r.breakdown = none
  log : ∃ warnings message, r.log = warnings ++ [.fatal message] ∧
    ∀ d ∈ warnings, d.label ≠ "Error: "

structure Broken (r : Result) : Prop extends WritesNothing r where
  breakdown : r.breakdown.isSome = true
  log : ∀ d ∈ r.log, d.label ≠ "Error: "

variable {log : List Diagnostic}

theorem refused_failed (message : String) (hlog : ∀ d ∈ log, d.label ≠ "Error: ") :
    Refused (failed message log) where
  status := rfl
  usageError := rfl
  output := rfl
  written := rfl
  breakdown := rfl
  log := ⟨log, message, rfl, hlog⟩

theorem broken_broken (b : Breakdown) (hlog : ∀ d ∈ log, d.label ≠ "Error: ") :
    Broken (broken b log) where
  status := rfl
  usageError := rfl
  output := rfl
  written := rfl
  breakdown := rfl
  log := hlog

/-- A document is delivered, or refused, unless the path to the output file has a null character. -/
theorem delivered_or_refused (h : Host) (readers : Readers) (o : Options) (document : String)
    (hlog : ∀ d ∈ log, d.label ≠ "Error: ") :
    Delivered h o document (deliver h o.outputFile document log) ∨
      Refused (deliver h o.outputFile document log) ∨
        (Broken (deliver h o.outputFile document log) ∧ Fragile h readers o) := by
  unfold deliver
  cases hpath : nonempty o.outputFile with
  | none => exact .inl ⟨rfl, rfl, rfl, hlog, .inl ⟨hpath, rfl, rfl⟩⟩
  | some path =>
    dsimp only
    by_cases hnull : Text.hasNull path = true
    · rw [if_pos hnull]
      exact .inr (.inr ⟨broken_broken .nullByte hlog, .outputFile hpath hnull⟩)
    · rw [if_neg hnull]
      cases hl : h.files.writable h.directory (FilePath.normalized path) with
      | ok l => exact .inl ⟨rfl, rfl, rfl, hlog, .inr ⟨path, l, hpath, hl, rfl, rfl⟩⟩
      | error cause => exact .inr (.inl (refused_failed _ hlog))

/-- A run with options writes the document that it renders to one place, or it reports one error and
writes nothing; it breaks down, and writes nothing either, only if something about it is fragile.
What is wrong with a single text never decides which of these it is. -/
theorem run_all_or_nothing (h : Host) (readers : Readers) {args : List String}
    (input : Text.Utf8.Bytes) (hparse : Options.parse args = .ok (.run o))
    (husage : o.usage = false) :
    let r := run h readers args input
    ((∃ document, Renders h readers input o document ∧ Delivered h o document r) ∨
        Refused r ∨ (Broken r ∧ Fragile h readers o)) ∧
      ∀ settings f, (rendered h readers settings input o).1 ≠ .error (.soft f) := by
  intro r
  refine ⟨?_, fun _ f => rendered_ne_soft f⟩
  have hrun : r = runOptions h readers input o := by
    unfold r run
    rw [hparse]
  rw [hrun]
  unfold runOptions
  rw [husage]
  simp only [Bool.false_eq_true, if_false]
  split
  · exact .inr (.inl (refused_failed _ nofun))
  · cases hsettings : settingsOf o with
    | error f =>
      cases f with
      | inl b => exact .inr (.inr ⟨broken_broken b nofun, fragile_of_settingsOf hsettings⟩)
      | inr f => exact .inr (.inl (refused_failed _ nofun))
    | ok settings =>
      dsimp only
      have hlog : ∀ d ∈ (rendered h readers settings input o).2, d.label ≠ "Error: " :=
        label_of_mem_rendered
      rcases hr : rendered h readers settings input o with ⟨f | document, log⟩ <;> rw [hr] at hlog
      · have hf : (rendered h readers settings input o).1 = .error f := by rw [hr]
        dsimp only
        cases hb : f.breakdown? with
        | none => exact .inr (.inl (refused_failed _ hlog))
        | some b =>
          exact .inr (.inr ⟨broken_broken b hlog, fragile_of_rendered hsettings hf hb⟩)
      · rcases delivered_or_refused h readers o document hlog with hdelivered | hother
        · exact .inl ⟨document, ⟨settings, hsettings, by rw [hr]⟩, hdelivered⟩
        · exact .inr hother

/-- The settings and the template of one argument, and what becomes of it. -/
theorem run_single :
    Options.parse ["--quiet", "[]"] = .ok (.run { outputSpec := some "[]", quiet := true }) ∧
      ∃ document, Renders {} {} [] { outputSpec := some "[]", quiet := true } document ∧
        Delivered {} { outputSpec := some "[]", quiet := true } document
          (run {} {} ["--quiet", "[]"] []) := by
  have hparse : Options.parse ["--quiet", "[]"] =
      .ok (.run { outputSpec := some "[]", quiet := true }) := rfl
  have hstatus : (run {} {} ["--quiet", "[]"] []).status ≠ 1 := by decide +kernel
  obtain ⟨hrun, -⟩ := run_all_or_nothing {} {} [] hparse rfl
  rcases hrun with hdelivered | hrefused | ⟨hbroken, -⟩
  · exact ⟨hparse, hdelivered⟩
  · exact absurd hrefused.status hstatus
  · exact absurd hbroken.status hstatus

def commanding : Host where
  files := ⟨[(["l.json"], .file (Text.Utf8.encode
    ("\x7b\"input\": [\x7b\"name\": \"c\", \"kind\": \"COMMAND\", " ++
      "\"source\": \"echo 1\"\x7d]\x7d").toList))]⟩
  execute _ _ := .ended [] 0 0

theorem exists_options {args : List String}
    (h : (Options.parse args).toOption.any (fun r =>
      match r with
      | .help => false
      | .run o => !o.usage) = true) :
    ∃ o, Options.parse args = .ok (.run o) ∧ o.usage = false := by
  rcases hp : Options.parse args with f | _ | o <;> rw [hp] at h
  · cases h
  · cases h
  · exact ⟨o, rfl, by simpa [Except.toOption] using h⟩

/-- No clock waits for a month, so a run with that limit breaks down without a word. -/
theorem run_commanding :
    let args := ["--timeout", "3000000", "--use", "l.json", "$c"]
    let r := run commanding {} args []
    ∃ o, Options.parse args = .ok (.run o) ∧ o.usage = false ∧
      r.breakdown = some (.timeLimit .beyondWait) ∧ ¬ Refused r ∧
      ∀ document, ¬ Delivered commanding o document r := by
  intro args r
  have hbreakdown : r.breakdown = some (.timeLimit .beyondWait) := by decide +kernel
  have hparse : ∃ o, Options.parse args = .ok (.run o) ∧ o.usage = false :=
    exists_options (by decide +kernel)
  obtain ⟨o, hparse, husage⟩ := hparse
  refine ⟨o, hparse, husage, hbreakdown, ?_, ?_⟩
  · intro hrefused
    rw [hrefused.breakdown] at hbreakdown
    cases hbreakdown
  · intro document hdelivered
    rw [hdelivered.breakdown] at hbreakdown
    cases hbreakdown

end JsonTemplate.CommandLine
