import JsonTemplate.Text.Utf8

/-!
# Texts as bytes and back

The bytes that a text is written to are read as the same text: every character takes one to four
bytes, which are never overlong and never stand for a surrogate.
-/

namespace JsonTemplate.Text.Utf8

theorem toNat_byte {n : Nat} (h : n < 256) : (UInt8.ofNat n).toNat = n := by
  rw [UInt8.toNat_ofNat']
  omega

theorem byte_lt_iff {n : Nat} (h : n < 256) (b : UInt8) : UInt8.ofNat n < b ↔ n < b.toNat := by
  rw [UInt8.lt_iff_toNat_lt, toNat_byte h]

theorem le_byte_iff {n : Nat} (h : n < 256) (b : UInt8) : b ≤ UInt8.ofNat n ↔ b.toNat ≤ n := by
  rw [UInt8.le_iff_toNat_le, toNat_byte h]

theorem isContinuation_byte (n : Nat) : isContinuation (UInt8.ofNat (n % 64 + 128)) = true := by
  have h : n % 64 + 128 < 256 := by omega
  simp only [isContinuation, byte_lt_iff h, le_byte_iff h, Bool.and_eq_true, decide_eq_true_eq]
  change 128 ≤ n % 64 + 128 ∧ n % 64 + 128 < 192
  omega

theorem low_byte (n : Nat) : low (UInt8.ofNat (n % 64 + 128)) = n % 64 := by
  unfold low
  rw [toNat_byte (by omega)]
  omega

section Lengths

variable {n : Nat} (position : Nat) (s : Bytes)

theorem decodeAt_one (h : n < 128) : decodeAt position (UInt8.ofNat n :: s) =
    (decodeAt (position + 1) s).map (Char.ofNat n :: ·) := by
  have hb : n < 256 := by omega
  have hlow : UInt8.ofNat n < 0x80 := (byte_lt_iff hb _).mpr h
  rw [decodeAt.eq_def]
  dsimp only
  rw [if_pos hlow, toNat_byte hb]

/-- The first byte of a longer character says that it is one. -/
theorem not_single {b : Nat} (h : 0xC2 ≤ b) (h' : b < 0xF5) :
    ¬ UInt8.ofNat b < 0x80 ∧ ¬ (UInt8.ofNat b < 0xC2 || 0xF5 ≤ UInt8.ofNat b) = true := by
  have hb : b < 256 := by omega
  simp only [byte_lt_iff hb, le_byte_iff hb, Bool.or_eq_true, decide_eq_true_eq]
  change ¬ b < 128 ∧ ¬ (b < 194 ∨ 245 ≤ b)
  omega

theorem decodeAt_two (h : 128 ≤ n) (h' : n < 2048) :
    decodeAt position (UInt8.ofNat (n / 64 % 32 + 192) :: UInt8.ofNat (n % 64 + 128) :: s) =
      (decodeAt (position + 2) s).map (Char.ofNat n :: ·) := by
  have hb : n / 64 % 32 + 192 < 256 := by omega
  obtain ⟨hsingle, hstart⟩ := not_single (b := n / 64 % 32 + 192) (by omega) (by omega)
  have htwo : UInt8.ofNat (n / 64 % 32 + 192) < 0xE0 := (byte_lt_iff hb _).mpr (by
    change _ < 224
    omega)
  have hvalue : (n / 64 % 32 + 192) % 32 * 64 + n % 64 = n := by omega
  rw [decodeAt.eq_def]
  dsimp only
  rw [if_neg hsingle, if_neg hstart, if_pos htwo, if_pos (isContinuation_byte n), toNat_byte hb,
    low_byte, hvalue]

theorem decodeAt_three (h : 2048 ≤ n) (h' : n < 65536) (hvalid : n < 0xD800 ∨ 0xDFFF < n) :
    decodeAt position (UInt8.ofNat (n / 4096 % 16 + 224) :: UInt8.ofNat (n / 64 % 64 + 128) ::
      UInt8.ofNat (n % 64 + 128) :: s) = (decodeAt (position + 3) s).map (Char.ofNat n :: ·) := by
  have hb : n / 4096 % 16 + 224 < 256 := by omega
  have hc : n / 64 % 64 + 128 < 256 := by omega
  obtain ⟨hsingle, hstart⟩ := not_single (b := n / 4096 % 16 + 224) (by omega) (by omega)
  have htwo : ¬ UInt8.ofNat (n / 4096 % 16 + 224) < 0xE0 := by
    rw [byte_lt_iff hb]
    change ¬ _ < 224
    omega
  have hthree : UInt8.ofNat (n / 4096 % 16 + 224) < 0xF0 := (byte_lt_iff hb _).mpr (by
    change _ < 240
    omega)
  have hsecond : isSecondOfThree (UInt8.ofNat (n / 4096 % 16 + 224))
      (UInt8.ofNat (n / 64 % 64 + 128)) = true := by
    unfold isSecondOfThree
    rw [isContinuation_byte]
    simp only [Bool.true_and, Bool.and_eq_true, Bool.not_eq_true', Bool.and_eq_false_iff,
      beq_eq_false_iff_ne, decide_eq_false_iff_not, ne_eq, ← UInt8.toNat_inj, toNat_byte hb,
      byte_lt_iff hc, le_byte_iff hc]
    -- it would be overlong, or a surrogate
    change (¬ _ = 224 ∨ ¬ _ < 160) ∧ (¬ _ = 237 ∨ ¬ 160 ≤ _)
    omega
  have hvalue : ((n / 4096 % 16 + 224) % 16 * 64 + n / 64 % 64) * 64 + n % 64 = n := by omega
  rw [decodeAt.eq_def]
  dsimp only
  rw [if_neg hsingle, if_neg hstart, if_neg htwo, if_pos hthree, hsecond, if_neg (by decide),
    if_pos (isContinuation_byte n), toNat_byte hb, low_byte, low_byte, hvalue]

theorem decodeAt_four (h : 65536 ≤ n) (h' : n < 0x110000) :
    decodeAt position (UInt8.ofNat (n / 262144 % 8 + 240) :: UInt8.ofNat (n / 4096 % 64 + 128) ::
      UInt8.ofNat (n / 64 % 64 + 128) :: UInt8.ofNat (n % 64 + 128) :: s) =
        (decodeAt (position + 4) s).map (Char.ofNat n :: ·) := by
  have hb : n / 262144 % 8 + 240 < 256 := by omega
  have hc : n / 4096 % 64 + 128 < 256 := by omega
  obtain ⟨hsingle, hstart⟩ := not_single (b := n / 262144 % 8 + 240) (by omega) (by omega)
  have htwo : ¬ UInt8.ofNat (n / 262144 % 8 + 240) < 0xE0 := by
    rw [byte_lt_iff hb]
    change ¬ _ < 224
    omega
  have hthree : ¬ UInt8.ofNat (n / 262144 % 8 + 240) < 0xF0 := by
    rw [byte_lt_iff hb]
    change ¬ _ < 240
    omega
  have hsecond : isSecondOfFour (UInt8.ofNat (n / 262144 % 8 + 240))
      (UInt8.ofNat (n / 4096 % 64 + 128)) = true := by
    unfold isSecondOfFour
    rw [isContinuation_byte]
    simp only [Bool.true_and, Bool.and_eq_true, Bool.not_eq_true', Bool.and_eq_false_iff,
      beq_eq_false_iff_ne, decide_eq_false_iff_not, ne_eq, ← UInt8.toNat_inj, toNat_byte hb,
      byte_lt_iff hc, le_byte_iff hc]
    -- it would be overlong, or beyond the last code point
    change (¬ _ = 240 ∨ ¬ _ < 144) ∧ (¬ _ = 244 ∨ ¬ 144 ≤ _)
    omega
  have hvalue : (((n / 262144 % 8 + 240) % 8 * 64 + n / 4096 % 64) * 64 + n / 64 % 64) * 64 +
      n % 64 = n := by omega
  rw [decodeAt.eq_def]
  dsimp only
  rw [if_neg hsingle, if_neg hstart, if_neg htwo, if_neg hthree, hsecond, if_neg (by decide),
    isContinuation_byte, if_neg (by decide), if_pos (isContinuation_byte n), toNat_byte hb,
    low_byte, low_byte, low_byte, hvalue]

end Lengths

theorem decodeAt_encodeChar (position : Nat) (c : Char) (s : Bytes) :
    ∃ next, decodeAt position (String.utf8EncodeChar c ++ s) =
      (decodeAt next s).map (c :: ·) := by
  have hvalid : c.val.toNat < 0xD800 ∨ 0xDFFF < c.val.toNat ∧ c.val.toNat < 0x110000 := c.valid
  have hchar : Char.ofNat c.val.toNat = c := Char.ofNat_toNat c
  unfold String.utf8EncodeChar
  dsimp only
  generalize c.val.toNat = n at *
  subst hchar
  by_cases hone : n ≤ 127
  · rw [if_pos hone]
    exact ⟨_, decodeAt_one position s (by omega)⟩
  rw [if_neg hone]
  by_cases htwo : n ≤ 2047
  · rw [if_pos htwo]
    exact ⟨_, decodeAt_two position s (by omega) (by omega)⟩
  rw [if_neg htwo]
  by_cases hthree : n ≤ 65535
  · rw [if_pos hthree]
    exact ⟨_, decodeAt_three position s (by omega) (by omega) (by omega)⟩
  · rw [if_neg hthree]
    exact ⟨_, decodeAt_four position s (by omega) (by omega)⟩

theorem decodeAt_encode (position : Nat) (s : List Char) :
    decodeAt position (encode s) = .ok s := by
  induction s generalizing position with
  | nil => rfl
  | cons c s ih =>
    obtain ⟨next, hnext⟩ := decodeAt_encodeChar position c (encode s)
    unfold encode at *
    rw [List.flatMap_cons, hnext, ih]
    rfl

theorem decode_encode (s : List Char) : decode (encode s) = .ok s :=
  decodeAt_encode 0 s

end JsonTemplate.Text.Utf8
