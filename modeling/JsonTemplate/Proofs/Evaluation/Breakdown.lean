import JsonTemplate.Evaluation.Template
import JsonTemplate.Proofs.Except

/-!
# Inputs that break a run down

The file of an input breaks a run down only if its path has a null character, and a command only if
one of its words has one or if no clock can wait for its time limit.
-/

namespace JsonTemplate

theorem Json.breakdown_of_ofFile? {h : Host} {path : String} {b : Breakdown}
    (hb : ofFile? h path = .error (.inl b)) : b = .nullByte ∧ Text.hasNull path = true := by
  obtain hread | ⟨text, -, hparse⟩ := except_bind_eq_error_iff.mp hb
  · obtain ⟨f, hf, hbreak⟩ := mapError_eq_error_iff.mp hread
    unfold Host.readText at hf
    split at hf
    · next hnull =>
      cases hf
      cases hbreak
      exact ⟨rfl, hnull⟩
    · obtain ⟨fault, -, rfl⟩ := mapError_eq_error_iff.mp hf
      cases hbreak
  · obtain ⟨e, -, hbreak⟩ := mapError_eq_error_iff.mp hparse
    cases hbreak

namespace Command

/-- A character of a word is one of the text, or a backslash that stayed. -/
theorem mem_of_splitFrom {mode : Mode} {word s : List Char} {words : List String} {w : String}
    {x : Char} (h : splitFrom mode word s = .ok words) (hw : w ∈ words) (hx : x ∈ w.toList) :
    x ∈ word ∨ x ∈ s ∨ x = '\\' := by
  fun_induction splitFrom mode word s generalizing words with
  | case1 => cases h; cases hw
  | case2 word =>
    cases h
    simp_all
  | case3 => cases h
  | case4 => cases h
  | case9 word c s _ ih =>
    -- only here is a word put in front of those that follow
    cases hrest : splitFrom .between [] s with
    | error f =>
      rw [hrest] at h
      cases h
    | ok rest =>
      rw [hrest] at h
      cases h
      rw [List.mem_cons] at hw
      obtain rfl | hw := hw
      · left
        simpa using hx
      · obtain hx | hx | hx := ih hrest hw <;> simp_all
  | _ => grind

/-- A null character in a word comes from the command line. -/
theorem hasNull_of_split {command : String} {words : List String} (h : split command = .ok words)
    (hnull : words.any Text.hasNull = true) : Text.hasNull command = true := by
  obtain ⟨w, hw, hnull⟩ := List.any_eq_true.mp hnull
  have hx : '\x00' ∈ w.toList := by simpa [Text.hasNull] using hnull
  obtain hx | hx | hx := mem_of_splitFrom h hw hx
  · cases hx
  · simpa [Text.hasNull] using hx
  · cases hx

theorem breakdown_of_outcome {timeLimit : Option Seconds} {program : String} {execution : Execution}
    {b : Breakdown} (hb : outcome timeLimit program execution = .error (.inl b)) :
    ∃ t ∈ timeLimit, ∃ fault, t.clockFault? = some fault ∧ b = .timeLimit fault := by
  unfold outcome at hb
  split at hb
  · cases hb
  · split at hb
    · next fault hfault =>
      cases hb
      obtain ⟨t, ht, hfault⟩ := Option.bind_eq_some_iff.mp hfault
      exact ⟨t, ht, fault, hfault, rfl⟩
    · cases hb
    · split at hb
      · cases hb
      · split at hb <;> cases hb

/-- A command breaks down over a null character in it or over its time limit. -/
theorem breakdown_of_run {h : Host} {timeLimit : Option Seconds} {command : String} {context : Json}
    {stdin : Bool} {b : Breakdown} (hb : run h timeLimit command context stdin = .error (.inl b)) :
    (b = .nullByte ∧ Text.hasNull command = true) ∨
      ∃ t ∈ timeLimit, ∃ fault, t.clockFault? = some fault ∧ b = .timeLimit fault := by
  obtain hwords | ⟨words, hwords, hb⟩ := except_bind_eq_error_iff.mp hb
  · obtain ⟨f, -, hbreak⟩ := mapError_eq_error_iff.mp hwords
    cases hbreak
  · cases words with
    | nil => cases hb
    | cons program args =>
      obtain hinput | ⟨input, -, hb⟩ := except_bind_eq_error_iff.mp hb
      · obtain ⟨f, -, hbreak⟩ := mapError_eq_error_iff.mp hinput
        cases hbreak
      · unfold start at hb
        split at hb
        · next hnull =>
          cases hb
          exact .inl ⟨rfl, hasNull_of_split (mapError_eq_ok_iff.mp hwords) hnull⟩
        · exact .inr (breakdown_of_outcome hb)

end Command

/-- The path of a file or the command line of an input has a null character. -/
structure Declaration.NamesNull (d : Declaration) : Prop where
  kind : d.kind ≠ .inline
  source : ∃ text, d.source = .string text ∧ Text.hasNull text = true

namespace Evaluator

inductive Breaks (ev : Evaluator) (d : Declaration) (b : Breakdown) : Prop
  | file {path : String} (kind : d.kind = .file) (source : d.source = .string path)
    (h : Json.ofFile? ev.host path = .error (.inl b))
  | command {command : String} {context : Json} (kind : d.kind = .command)
    (source : d.source = .string command)
    (h : Command.run ev.host ev.settings.timeLimit command context d.stdin = .error (.inl b))

variable {ev : Evaluator} {d : Declaration} {b : Breakdown}

theorem Breaks.cause (h : ev.Breaks d b) :
    (b = .nullByte ∧ d.NamesNull) ∨
      ∃ t ∈ ev.settings.timeLimit, ∃ fault, t.clockFault? = some fault ∧ b = .timeLimit fault := by
  cases h with
  | @file path hkind hsource h =>
    obtain ⟨rfl, hnull⟩ := Json.breakdown_of_ofFile? h
    refine .inl ⟨rfl, ?_, path, hsource, hnull⟩
    rw [hkind]
    exact nofun
  | @command command context hkind hsource h =>
    obtain ⟨rfl, hnull⟩ | hclock := Command.breakdown_of_run h
    · refine .inl ⟨rfl, ?_, command, hsource, hnull⟩
      rw [hkind]
      exact nofun
    · exact .inr hclock

def Steady (ev : Evaluator) : Prop :=
  ∀ name d, ev.spec.input? name = some d → ∀ b, ¬ ev.Breaks d b

theorem steady_of_clock (hclock : ∀ t ∈ ev.settings.timeLimit, t.clockFault? = none)
    (hnull : ∀ name d, ev.spec.input? name = some d → ¬ d.NamesNull) : ev.Steady := by
  intro name d hd b hb
  obtain ⟨-, hnames⟩ | ⟨t, ht, fault, hfault, -⟩ := hb.cause
  · exact hnull name d hd hnames
  · cases (hclock t ht).symm.trans hfault

end Evaluator

end JsonTemplate
