import JsonTemplate.Proofs.Expression.Pipeline

/-!
# Trimmed arguments

Every argument of a call is trimmed of spacing, and at the two ends of its list also of all other
blanks. So an argument list says the same with any blanks around it and with any spacing next to its
commas. A blank that is no spacing, a line end or a no-break space, belongs to the argument where it
stands next to a comma.
-/

namespace JsonTemplate.Expression

open Text

def Trimmed (p : Char → Bool) (a : String) : Prop :=
  StartsOutside p a.toList ∧ EndsOutside p a.toList

structure TrimmedList (args : List String) : Prop where
  each : ∀ a ∈ args, Trimmed isSpacing a
  first : ∀ a ∈ args.head?, StartsOutside isBlank a.toList
  last : ∀ a ∈ args.getLast?, EndsOutside isBlank a.toList

variable {args : List String} {a : String} {s raw : List Char}

theorem Spread.ne_nil (h : Spread args s) : args ≠ [] := by
  cases h <;> exact List.cons_ne_nil _ _

theorem Spread.head (h : Spread args s) (hs : StartsOutside isBlank s) :
    ∀ a ∈ args.head?, StartsOutside isBlank a.toList := by
  -- No spacing comes before the first argument.
  have hfirst : ∀ {b₁ rest : List Char} {a : String}, Within isSpacing b₁ →
      StartsOutside isBlank (b₁ ++ (a.toList ++ rest)) → StartsOutside isBlank a.toList := by
    intro b₁ rest a h₁ hs
    obtain rfl := eq_nil_of_startsOutside hs h₁.isBlank
    rw [List.nil_append] at hs
    exact hs.of_append
  cases h with
  | last h₁ _ =>
    rintro _ ⟨⟩
    rw [List.append_assoc] at hs
    exact hfirst h₁ hs
  | cons h₁ _ _ =>
    rintro _ ⟨⟩
    rw [List.append_assoc, List.append_assoc] at hs
    exact hfirst h₁ hs

theorem Spread.last_endsOutside (h : Spread args s) (hs : EndsOutside isBlank s) :
    ∀ a ∈ args.getLast?, EndsOutside isBlank a.toList := by
  induction h with
  | last _ h₂ =>
    rintro _ ⟨⟩
    obtain rfl := eq_nil_of_endsOutside hs h₂.isBlank
    rw [List.append_nil] at hs
    exact hs.of_append
  | @cons a args b₁ b₂ s _ _ hspread ih =>
    rw [List.append_cons] at hs
    rw [List.getLast?_cons_of_ne_nil hspread.ne_nil]
    exact ih hs.of_append

theorem Spread.subset (h : Spread args s) : ∀ a ∈ args, a.toList ⊆ s := by
  induction h with
  | last =>
    intro a ha
    rw [List.mem_singleton.mp ha]
    intro c hc
    simp [hc]
  | cons _ _ _ ih =>
    intro a ha c hc
    rcases List.mem_cons.mp ha with rfl | ha
    · simp [hc]
    · simp [ih a ha hc]

theorem Arguments.trimmedList (h : Arguments args raw) : TrimmedList args := by
  cases h with
  | empty =>
    exact ⟨fun _ h => (List.not_mem_nil h).elim, fun _ h => (Option.not_mem_none _ h).elim,
      fun _ h => (Option.not_mem_none _ h).elim⟩
  | listed _ _ _ hstart hend hspread hargs =>
    exact ⟨fun a ha => ⟨(hargs a ha).starts, (hargs a ha).ends⟩, hspread.head hstart,
      hspread.last_endsOutside hend⟩

theorem Arguments.subset (h : Arguments args raw) : ∀ a ∈ args, a.toList ⊆ raw := by
  cases h with
  | empty => exact fun _ h => (List.not_mem_nil h).elim
  | listed _ _ _ _ _ hspread _ =>
    intro a ha c hc
    simp [hspread.subset a ha hc]

/-- Where spacing is all that is blank, trimmed of spacing is trimmed. -/
theorem Trimmed.isBlank (h : Trimmed isSpacing a)
    (hs : ∀ c ∈ a.toList, Text.isBlank c = true → isSpacing c = true) : Trimmed Text.isBlank a := by
  have hout : ∀ c ∈ a.toList, isSpacing c = false → Text.isBlank c = false := by
    intro c hc hspacing
    rw [← Bool.not_eq_true] at hspacing ⊢
    exact fun hblank => hspacing (hs c hc hblank)
  exact ⟨fun c hc => hout c (List.mem_of_head? hc) (h.1 c hc),
    fun c hc => hout c (List.mem_of_getLast? hc) (h.2 c hc)⟩

variable {r r' w w' : List Char}

def pieces (s : List Char) : List String :=
  (splitOn ',' s).map pieceOf

theorem isPiece_of_mem_pieces (ha : a ∈ pieces s) : IsPiece a := by
  obtain ⟨part, hpart, rfl⟩ := List.mem_map.mp ha
  exact isPiece_pieceOf (not_mem_of_mem_splitOn hpart)

theorem Spread.append_spacing (h : Spread args s) (hw : Within isSpacing w) :
    Spread args (s ++ w) := by
  induction h with
  | last h₁ h₂ =>
    rw [List.append_assoc]
    exact .last h₁ (h₂.append hw)
  | cons h₁ h₂ _ ih =>
    rw [List.append_assoc, List.cons_append]
    exact .cons h₁ h₂ ih

theorem Spread.spacing_append (h : Spread args s) (hw : Within isSpacing w) :
    Spread args (w ++ s) := by
  cases h with
  | last h₁ h₂ =>
    rw [← List.append_assoc, ← List.append_assoc]
    exact .last (hw.append h₁) h₂
  | cons h₁ h₂ h =>
    rw [← List.append_assoc, ← List.append_assoc, ← List.append_assoc]
    exact .cons (hw.append h₁) h₂ h

theorem pieces_append_spacing (hw : Within isSpacing w) : pieces (s ++ w) = pieces s :=
  ((spread_splitOn s).append_spacing hw).splitOn fun _ => isPiece_of_mem_pieces

theorem pieces_spacing_append (hw : Within isSpacing w) : pieces (w ++ s) = pieces s :=
  ((spread_splitOn s).spacing_append hw).splitOn fun _ => isPiece_of_mem_pieces

theorem pieces_append_comma (s r : List Char) : pieces (s ++ ',' :: r) = pieces s ++ pieces r := by
  unfold pieces
  rw [splitOn_append_cons, List.map_append]

theorem pieces_trimStart_append (hw : Within isSpacing w) :
    pieces (trimStart (s ++ w)) = pieces (trimStart s) := by
  unfold trimStart
  rcases dropWhile_append_within hw.isBlank s with h | h
  · rw [h]
  · rw [h, pieces_append_spacing hw]

theorem pieces_trimEnd_append (hw : Within isSpacing w) :
    pieces (trimEnd (w ++ s)) = pieces (trimEnd s) := by
  unfold trimEnd
  rcases dropWhileEnd_within_append hw.isBlank s with h | h
  · rw [h]
  · rw [h, pieces_spacing_append hw]

theorem trimEnd_append_comma (s r : List Char) :
    trimEnd (s ++ ',' :: r) = s ++ ',' :: trimEnd r :=
  dropWhileEnd_append_cons rfl s r

theorem trim_append_comma (s r : List Char) :
    trim (s ++ ',' :: r) = trimStart s ++ ',' :: trimEnd r := by
  unfold trim trimStart
  rw [dropWhile_append_cons rfl, trimEnd_append_comma]

theorem readArgs_append_comma (s r : List Char) :
    readArgs (s ++ ',' :: r) = pieces (trimStart s) ++ pieces (trimEnd r) := by
  have hne : (trim (s ++ ',' :: r)).isEmpty = false := by
    rw [trim_append_comma]
    simp
  unfold readArgs
  rw [hne, trim_append_comma, ← pieces_append_comma]
  rfl

theorem readArgs_of_blanks (hw : Within isBlank w) (hw' : Within isBlank w') (raw : List Char) :
    readArgs (w ++ raw ++ w') = readArgs raw := by
  unfold readArgs
  rw [trim_eq_strip, trim_eq_strip, strip_append_append hw hw']

/-- The second list is the first one with some spacing next to its commas. -/
inductive Loosened : List Char → List Char → Prop where
  | same (s : List Char) : Loosened s s
  | comma {s r r' w w' : List Char} : Within isSpacing w → Within isSpacing w' → Loosened r r' →
      Loosened (s ++ ',' :: r) (s ++ w ++ ',' :: (w' ++ r'))

/-- Only the blanks at the end are trimmed here, since what comes before has a comma behind it. -/
theorem Loosened.pieces_trimEnd (h : Loosened r r') :
    pieces (trimEnd r') = pieces (trimEnd r) := by
  induction h with
  | same => rfl
  | @comma s r r' w w' hw hw' _ ih =>
    calc pieces (trimEnd (s ++ w ++ ',' :: (w' ++ r')))
        = pieces (s ++ w) ++ pieces (trimEnd (w' ++ r')) := by
          rw [trimEnd_append_comma, pieces_append_comma]
      _ = pieces s ++ pieces (trimEnd r) := by
          rw [pieces_append_spacing hw, pieces_trimEnd_append hw', ih]
      _ = pieces (trimEnd (s ++ ',' :: r)) := by
          rw [trimEnd_append_comma, pieces_append_comma]

theorem Loosened.readArgs (h : Loosened raw r) : readArgs r = readArgs raw := by
  cases h with
  | same => rfl
  | comma hw hw' h =>
    rw [readArgs_append_comma, readArgs_append_comma, pieces_trimStart_append hw,
      pieces_trimEnd_append hw', h.pieces_trimEnd]

theorem Loosened.isParenthesis (h : Loosened r r')
    (hr : ∀ c ∈ r, isParenthesis c = false) : ∀ c ∈ r', isParenthesis c = false := by
  induction h with
  | same => exact hr
  | @comma s r r' w w' hw hw' _ ih =>
    obtain ⟨hs, hr⟩ := List.forall_mem_append.mp hr
    obtain ⟨hcomma, hr⟩ := List.forall_mem_cons.mp hr
    have hspacing : ∀ {w}, Within isSpacing w → ∀ c ∈ w, Expression.isParenthesis c = false :=
      fun hw c hc => isParenthesis_of_isSpacing (hw c hc)
    exact List.forall_mem_append.mpr ⟨List.forall_mem_append.mpr ⟨hs, hspacing hw⟩,
      List.forall_mem_cons.mpr ⟨hcomma, List.forall_mem_append.mpr ⟨hspacing hw', ih hr⟩⟩⟩

end JsonTemplate.Expression
