import JsonTemplate.Json.Parser
import JsonTemplate.Json.Printer

/-!
# Reading strings

Each character of a written string is read as one unit, which is its code point, or, if it was
written in ASCII, as its UTF-16 units. A code point is never a surrogate, so the units are joined to
the same characters again.
-/

namespace JsonTemplate.Json

open Text

theorem hexValue?_hexDigit {n : Nat} (hn : n < 16) : hexValue? (hexDigit n) = some n := by
  have h : ∀ n < 16, hexValue? (hexDigit n) = some n := by decide
  exact h n hn

/-- Four hexadecimal digits hold a number below 65536. -/
theorem unitValue?_hex {n : Nat} (hn : n < 65536) :
    ∃ a b c d, hex 4 n = [a, b, c, d] ∧ unitValue? a b c d = some n := by
  refine ⟨hexDigit (n / 16 / 16 / 16 % 16), hexDigit (n / 16 / 16 % 16), hexDigit (n / 16 % 16),
    hexDigit (n % 16), rfl, ?_⟩
  unfold unitValue?
  rw [hexValue?_hexDigit (Nat.mod_lt _ (by decide)), hexValue?_hexDigit (Nat.mod_lt _ (by decide)),
    hexValue?_hexDigit (Nat.mod_lt _ (by decide)), hexValue?_hexDigit (Nat.mod_lt _ (by decide))]
  change some _ = some n
  congr 1
  omega

theorem readUnits_quote (opened : Nat) (s : List Char) :
    readUnits opened ('"' :: s) = .ok ([], s) := by
  rw [readUnits.eq_def]
  exact if_pos rfl

/-- A character that stands for itself. -/
theorem readUnits_self (opened : Nat) {c : Char} (hquote : c ≠ '"') (hescape : c ≠ '\\')
    (hcontrol : ¬ c.toNat < 32) (s : List Char) :
    readUnits opened (c :: s) = consUnit c.toNat (readUnits opened s) := by
  rw [readUnits.eq_def]
  dsimp only
  rw [if_neg hquote, if_neg hcontrol, if_neg hescape]

theorem readUnits_escape (opened : Nat) {e c : Char} (he : e ≠ 'u') (h : escaped? e = some c)
    (s : List Char) :
    readUnits opened ('\\' :: e :: s) = consUnit c.toNat (readUnits opened s) := by
  rw [readUnits.eq_def]
  dsimp only
  rw [if_neg (by decide), if_neg (by decide), if_pos rfl, if_neg he, h]

/-- An escaped unit needs something behind it. -/
theorem readUnits_unit (opened : Nat) {n : Nat} (hn : n < 65536) {s : List Char} (hs : s ≠ []) :
    readUnits opened ('\\' :: 'u' :: (hex 4 n ++ s)) = consUnit n (readUnits opened s) := by
  obtain ⟨a, b, c, d, hhex, hvalue⟩ := unitValue?_hex hn
  have hmore : s.isEmpty = false := List.isEmpty_eq_false_iff.mpr hs
  rw [hhex, readUnits.eq_def]
  dsimp only [List.cons_append, List.nil_append]
  rw [if_neg (by decide), if_neg (by decide), if_pos rfl, if_pos rfl, hvalue, hmore]

theorem readUnits_plainChar (opened : Nat) (c : Char) {s : List Char} (hs : s ≠ []) :
    readUnits opened (Layout.plainChar c ++ s) = consUnit c.toNat (readUnits opened s) := by
  by_cases hshort : c ∈ ['"', '\\', '\n', '\r', '\t', '\x08', '\x0c']
  · simp only [List.mem_cons, List.not_mem_nil, or_false] at hshort
    rcases hshort with rfl | rfl | rfl | rfl | rfl | rfl | rfl <;>
      exact readUnits_escape opened (by decide) rfl s
  · simp only [List.mem_cons, List.not_mem_nil, or_false, not_or] at hshort
    obtain ⟨hquote, hescape, hn, hr, ht, hb, hf⟩ := hshort
    unfold Layout.plainChar
    rw [if_neg hquote, if_neg hescape, if_neg hn, if_neg hr, if_neg ht, if_neg hb, if_neg hf]
    by_cases hcontrol : c.toNat < 32
    · rw [if_pos hcontrol]
      exact readUnits_unit opened (by omega) hs
    · rw [if_neg hcontrol]
      exact readUnits_self opened hquote hescape hcontrol s

theorem readUnits_string (opened : Nat) (cs r : List Char) :
    readUnits opened (cs.flatMap Layout.plainChar ++ '"' :: r) = .ok (cs.map Char.toNat, r) := by
  induction cs with
  | nil => exact readUnits_quote opened r
  | cons c cs ih =>
    rw [List.flatMap_cons, List.append_assoc, readUnits_plainChar opened c (by simp), ih]
    rfl

theorem not_isSurrogate (c : Char) :
    isHighSurrogate c.toNat = false ∧ isLowSurrogate c.toNat = false := by
  have hvalid : c.toNat < 0xD800 ∨ 0xDFFF < c.toNat ∧ c.toNat < 0x110000 := c.valid
  simp only [isHighSurrogate, isLowSurrogate, Bool.and_eq_false_iff, decide_eq_false_iff_not]
  omega

theorem charOfUnit_toNat (c : Char) : charOfUnit c.toNat = c := by
  obtain ⟨hhigh, hlow⟩ := not_isSurrogate c
  unfold charOfUnit
  rw [hhigh, hlow, if_neg (by decide), Char.ofNat_toNat]

theorem joinSurrogates_toNat_cons (c : Char) (units : List Nat) :
    joinSurrogates (c.toNat :: units) = c :: joinSurrogates units := by
  cases units with
  | nil => exact congrArg (· :: []) (charOfUnit_toNat c)
  | cons n units =>
    have hhigh := (not_isSurrogate c).1
    rw [joinSurrogates, hhigh, Bool.false_and, if_neg (by decide), charOfUnit_toNat]

theorem joinSurrogates_map_toNat (cs : List Char) : joinSurrogates (cs.map Char.toNat) = cs := by
  induction cs with
  | nil => rfl
  | cons c cs ih => rw [List.map_cons, joinSurrogates_toNat_cons, ih]

theorem readString_plain (opened : Nat) (s : String) (r : List Char) :
    readString opened (s.toList.flatMap Layout.plainChar ++ '"' :: r) = .ok (s, r) := by
  unfold readString
  rw [readUnits_string]
  change Except.ok (String.ofList (joinSurrogates (s.toList.map Char.toNat)), r) = .ok (s, r)
  rw [joinSurrogates_map_toNat, String.ofList_toList]

def units (c : Char) : List Nat :=
  if c.toNat < 0x10000 then [c.toNat]
  else [0xD800 + (c.toNat - 0x10000) / 0x400, 0xDC00 + (c.toNat - 0x10000) % 0x400]

theorem joinSurrogates_units_append (c : Char) (rest : List Nat) :
    joinSurrogates (units c ++ rest) = c :: joinSurrogates rest := by
  unfold units
  by_cases hsmall : c.toNat < 0x10000
  · rw [if_pos hsmall]
    exact joinSurrogates_toNat_cons c rest
  · have hvalid : c.toNat < 0xD800 ∨ 0xDFFF < c.toNat ∧ c.toNat < 0x110000 := c.valid
    rw [if_neg hsmall]
    generalize hhigh : 0xD800 + (c.toNat - 0x10000) / 0x400 = high
    generalize hlow : 0xDC00 + (c.toNat - 0x10000) % 0x400 = low
    have hpair : (isHighSurrogate high && isLowSurrogate low) = true := by
      simp only [isHighSurrogate, isLowSurrogate, Bool.and_eq_true, decide_eq_true_eq]
      omega
    have hjoined : 0x10000 + (high - 0xD800) * 0x400 + (low - 0xDC00) = c.toNat := by omega
    change joinSurrogates (high :: low :: rest) = c :: joinSurrogates rest
    rw [joinSurrogates, hpair, if_pos rfl, hjoined, Char.ofNat_toNat]

theorem joinSurrogates_flatMap_units (cs : List Char) :
    joinSurrogates (cs.flatMap units) = cs := by
  induction cs with
  | nil => rfl
  | cons c cs ih => rw [List.flatMap_cons, joinSurrogates_units_append, ih]

theorem readUnits_unitEscapes (opened : Nat) (c : Char) {s : List Char} (hs : s ≠ []) :
    readUnits opened (Layout.unitEscapes c ++ s) =
      (units c).foldr consUnit (readUnits opened s) := by
  have hvalid : c.toNat < 0xD800 ∨ 0xDFFF < c.toNat ∧ c.toNat < 0x110000 := c.valid
  unfold Layout.unitEscapes units
  by_cases hsmall : c.toNat < 0x10000
  · rw [if_pos hsmall, if_pos hsmall]
    exact readUnits_unit opened hsmall hs
  · rw [if_neg hsmall, if_neg hsmall]
    simp only [List.cons_append, List.append_assoc]
    rw [readUnits_unit opened (by omega) (by simp), readUnits_unit opened (by omega) hs]
    rfl

theorem readUnits_asciiChar (opened : Nat) (c : Char) {s : List Char} (hs : s ≠ []) :
    readUnits opened (Layout.asciiChar c ++ s) = (units c).foldr consUnit (readUnits opened s) := by
  unfold Layout.asciiChar
  by_cases hascii : c.toNat < 127
  · rw [if_pos hascii, readUnits_plainChar opened c hs, units, if_pos (by omega)]
    rfl
  · rw [if_neg hascii]
    exact readUnits_unitEscapes opened c hs

theorem foldr_consUnit_ok (units units' : List Nat) (r : List Char) :
    units.foldr consUnit (.ok (units', r)) = .ok (units ++ units', r) := by
  induction units with
  | nil => rfl
  | cons n units ih =>
    rw [List.foldr_cons, ih]
    rfl

theorem readUnits_ascii (opened : Nat) (cs r : List Char) :
    readUnits opened (cs.flatMap Layout.asciiChar ++ '"' :: r) = .ok (cs.flatMap units, r) := by
  induction cs with
  | nil => exact readUnits_quote opened r
  | cons c cs ih =>
    rw [List.flatMap_cons, List.append_assoc, readUnits_asciiChar opened c (by simp), ih,
      foldr_consUnit_ok, List.flatMap_cons]

theorem readString_ascii (opened : Nat) (s : String) (r : List Char) :
    readString opened (s.toList.flatMap Layout.asciiChar ++ '"' :: r) = .ok (s, r) := by
  unfold readString
  rw [readUnits_ascii]
  change Except.ok (String.ofList (joinSurrogates (s.toList.flatMap units)), r) = .ok (s, r)
  rw [joinSurrogates_flatMap_units, String.ofList_toList]

end JsonTemplate.Json
