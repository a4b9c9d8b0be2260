import JsonTemplate.Command.Run
import JsonTemplate.Proofs.Json.Compact
import JsonTemplate.Proofs.Text.Utf8

/-!
# Commands that copy their input

What is written can be read: the document of a standard value is parsed as that value, and so is
the line that a command receives, also with blanks after it. So a command that only copies its
input returns the context it was given.
-/

namespace JsonTemplate

open Text

theorem Text.normalizeNewlines_append {s : List Char} (hs : '\r' ∉ s) (t : List Char) :
    normalizeNewlines (s ++ t) = s ++ normalizeNewlines t := by
  unfold normalizeNewlines
  induction s with
  | nil => rfl
  | cons c s ih =>
    have hc : c ≠ '\r' := fun h => hs (h ▸ List.mem_cons_self)
    have hrest := ih fun h => hs (List.mem_cons_of_mem _ h)
    rw [List.cons_append, normalizeFrom, if_neg hc, Bool.and_false, if_neg (by decide), hrest]
    rfl

/-- Line ends are blank before and after they are read. -/
theorem Text.within_isBlank_normalizeFrom {s : List Char} (hs : Within isBlank s) (ended : Bool) :
    Within isBlank (normalizeFrom ended s) := by
  induction s generalizing ended with
  | nil => exact within_nil
  | cons c s ih =>
    have hrest : Within isBlank s := fun d hd => hs d (List.mem_cons_of_mem _ hd)
    rw [normalizeFrom]
    split_ifs with hreturn hnewline
    · exact Within.append (s := ['\n']) (by decide) (ih hrest true)
    · exact ih hrest false
    · refine Within.append (s := [c]) ?_ (ih hrest false)
      intro d hd
      rw [List.mem_singleton.mp hd]
      exact hs c List.mem_cons_self

namespace Json

theorem Standard.return_not_mem {v : Json} (h : Standard v) : '\r' ∉ v.compact.toList := by
  unfold compact
  rw [String.toList_ofList]
  intro hreturn
  exact absurd (h.within_isShown 0 _ hreturn) (by decide)

theorem Standard.parse_pretty {v : Json} (h : Standard v) : parse v.pretty = .ok v :=
  h.parse_chars Layout.pretty_isReadable 0

theorem Standard.parse_compact {v : Json} (h : Standard v) : parse v.compact = .ok v :=
  h.parse_chars Layout.compact_isReadable 0

end Json

namespace Command

/-- Trimming does not get at a value. -/
theorem decodeOutput_compact {v : Json} (h : v.Standard) {blanks : List Char}
    (hblanks : Within isBlank blanks) :
    decodeOutput (String.ofList (v.compact.toList ++ blanks)) = v := by
  have hends : EndsOutside isBlank v.compact.toList := by
    unfold Json.compact
    rw [String.toList_ofList]
    exact h.endsOutside_isBlank .compact 0
  unfold decodeOutput trimEnd Json.ofTextOrItself
  rw [String.toList_ofList, dropWhileEnd_append hends hblanks, String.ofList_toList,
    h.parse_compact]
  rfl

theorem standardInput_of_standard {v : Json} (h : v.Standard) :
    standardInput true v = .ok (some v.compact) := by
  unfold standardInput contextText
  rw [if_pos rfl, h.nonFinite?_eq_none]
  rfl

structure Copies (h : Host) (timeLimit : Option Seconds) (words : List String) : Prop where
  startable : words.any hasNull = false
  ended : ∀ text, ∃ blanks nanoseconds, Within isBlank blanks ∧
    h.execute words (some text) = .ended (Utf8.encode (text.toList ++ blanks)) 0 nanoseconds ∧
    ∀ limit ∈ timeLimit, limit.clockFault? = none ∧ limit.isExceededBy nanoseconds = false

theorem run_of_copies {v : Json} (h : v.Standard) {host : Host} {timeLimit : Option Seconds}
    {command program : String} {args : List String}
    (hsplit : split command = .ok (program :: args))
    (hcopies : Copies host timeLimit (program :: args)) :
    run host timeLimit command v true = .ok v := by
  obtain ⟨blanks, nanoseconds, hblanks, hexecute, htime⟩ := hcopies.ended v.compact
  have hfault : timeLimit.bind (·.clockFault?) = none := by
    cases timeLimit with
    | none => rfl
    | some limit => exact (htime limit rfl).1
  have hexceeded : timeLimit.filter (·.isExceededBy nanoseconds) = none := by
    cases timeLimit with
    | none => rfl
    | some limit => simp [Option.filter, (htime limit rfl).2]
  have htext : textOfBytes (Utf8.encode (v.compact.toList ++ blanks)) =
      .ok (String.ofList (v.compact.toList ++ normalizeNewlines blanks)) := by
    unfold textOfBytes
    rw [Utf8.decode_encode]
    exact congrArg (Except.ok ∘ String.ofList) (normalizeNewlines_append h.return_not_mem blanks)
  have hvalue := decodeOutput_compact h (within_isBlank_normalizeFrom hblanks false)
  unfold run
  rw [hsplit]
  change ((standardInput true v).mapError _).bind _ = _
  rw [standardInput_of_standard h]
  change start host timeLimit program args (some v.compact) = _
  rw [start, hcopies.startable, if_neg Bool.false_ne_true]
  unfold outcome
  rw [hexecute]
  simp only [hfault, hexceeded, htext, if_true]
  exact congrArg Except.ok hvalue

end Command

/-- A standard value has a document, which is read as that value; the line that a command receives
stands for it with any blanks after it; and a command that copies its input returns it. -/
theorem Json.Standard.reads_back {v : Json} (h : v.Standard) :
    (v.dump = .ok v.pretty ∧ ∀ source, Json.ofText v.pretty source = .ok v) ∧
    Command.standardInput true v = .ok (some v.compact) ∧
    (∀ blanks, Within isBlank blanks →
      Command.decodeOutput (v.compact ++ String.ofList blanks) = v) ∧
    ∀ (host : Host) (timeLimit : Option Seconds) (command program : String) (args : List String),
      Command.split command = .ok (program :: args) →
        Command.Copies host timeLimit (program :: args) →
          Command.run host timeLimit command v true = .ok v := by
  refine ⟨⟨h.dump_eq, fun source => ?_⟩, Command.standardInput_of_standard h,
    fun blanks hblanks => ?_, fun host timeLimit command program args hsplit hcopies =>
      Command.run_of_copies h hsplit hcopies⟩
  · unfold Json.ofText
    rw [h.parse_pretty]
    rfl
  · have hdecode := Command.decodeOutput_compact h hblanks
    rwa [String.ofList_append, String.ofList_toList] at hdecode

namespace Command

def copier : Host where
  execute _ input := .ended (Utf8.encode ((input.getD "").toList ++ ['\n'])) 0 1000

theorem copies_copier {words : List String} (h : words.any hasNull = false) :
    Copies copier (some (.int 1)) words := by
  refine ⟨h, fun text => ⟨['\n'], 1000, by decide, rfl, ?_⟩⟩
  rintro limit ⟨⟩
  decide +kernel

def sample : Json :=
  .named [("z", .array [.int (-10), .float { Double.zero with negative := true },
      .float (.ofDecimal false 1 (-1))]),
    ("", .named []), ("a", .string "\"\\\n\x01\u2028é😀")]

theorem sample_standard : sample.Standard := by
  refine .object (by decide) fun f hf => ?_
  simp only [List.mem_cons, List.not_mem_nil, or_false] at hf
  rcases hf with rfl | rfl | rfl
  · refine .array fun v hv => ?_
    simp only [List.mem_cons, List.not_mem_nil, or_false] at hv
    rcases hv with rfl | rfl | rfl
    · exact .int (by decide)
    · exact .float (by decide)
    · exact .float (by decide +kernel)
  · exact .object (by decide) nofun
  · exact .string _

theorem sample_reads_back :
    sample.dump = .ok sample.pretty ∧ Json.ofText sample.pretty "-" = .ok sample ∧
      decodeOutput (sample.compact ++ String.ofList ['\u2003', '\x1c']) = sample ∧
      run copier (some (.int 1)) "cat -" sample true = .ok sample := by
  obtain ⟨⟨hdump, hread⟩, -, hdecode, hrun⟩ := Json.Standard.reads_back sample_standard
  refine ⟨hdump, hread "-", hdecode _ (by decide), ?_⟩
  exact hrun copier _ "cat -" "cat" ["-"] rfl (copies_copier (by decide))

end Command

end JsonTemplate
