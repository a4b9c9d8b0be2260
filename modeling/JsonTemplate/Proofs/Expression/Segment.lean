import JsonTemplate.Expression.Parser
import JsonTemplate.Proofs.Text.Trim

/-!
# Pipeline segments

A `Segment` is a text that stands for one transform. The lemmas say that a segment is taken off the
end of a text exactly as it stands there, whatever comes before it, and that nothing else is.
-/

namespace JsonTemplate.Expression

open Text

inductive Spread : List String → List Char → Prop where
  | last {a : String} {b₁ b₂ : List Char} :
      Within isSpacing b₁ → Within isSpacing b₂ → Spread [a] (b₁ ++ a.toList ++ b₂)
  | cons {a : String} {args : List String} {b₁ b₂ s : List Char} :
      Within isSpacing b₁ → Within isSpacing b₂ → Spread args s →
        Spread (a :: args) (b₁ ++ a.toList ++ b₂ ++ ',' :: s)

structure IsPiece (a : String) : Prop where
  no_comma : ',' ∉ a.toList
  starts : StartsOutside isSpacing a.toList
  ends : EndsOutside isSpacing a.toList

/-- What stands between the parentheses of a call: only blanks for no arguments, otherwise a list
of arguments and the blanks around it. -/
inductive Arguments : List String → List Char → Prop where
  | empty {raw : List Char} : Within isBlank raw → Arguments [] raw
  | listed {args : List String} {t core u : List Char} :
      Within isBlank t → Within isBlank u → core ≠ [] → StartsOutside isBlank core →
        EndsOutside isBlank core → Spread args core → (∀ a ∈ args, IsPiece a) →
          Arguments args (t ++ core ++ u)

def pieceOf (s : List Char) : String :=
  String.ofList (trimSpacing s)

theorem toList_pieceOf (s : List Char) : (pieceOf s).toList = strip isSpacing s :=
  String.toList_ofList

theorem isPiece_pieceOf {s : List Char} (h : ',' ∉ s) : IsPiece (pieceOf s) where
  no_comma := by
    obtain ⟨t, u, -, -, hs⟩ := eq_append_strip isSpacing s
    rw [toList_pieceOf]
    intro hc
    apply h
    rw [hs]
    exact List.mem_append_left u (List.mem_append_right t hc)
  starts := by
    rw [toList_pieceOf]
    exact startsOutside_strip isSpacing s
  ends := by
    rw [toList_pieceOf]
    exact endsOutside_strip isSpacing s

theorem pieceOf_append {a : String} (ha : IsPiece a) {b₁ b₂ : List Char}
    (h₁ : Within isSpacing b₁) (h₂ : Within isSpacing b₂) :
    pieceOf (b₁ ++ a.toList ++ b₂) = a := by
  unfold pieceOf
  rw [trimSpacing_eq_strip, strip_append h₁ ha.starts ha.ends h₂, String.ofList_toList]

/-- The pieces between the commas spell the text. The induction is on its length, since what comes
after the first comma is a shorter text. -/
theorem spread_splitOn (s : List Char) : Spread ((splitOn ',' s).map pieceOf) s := by
  induction hn : s.length using Nat.strong_induction_on generalizing s with
  | _ n ih =>
    by_cases hc : ',' ∈ s
    · obtain ⟨a, r, rfl, ha⟩ := List.eq_append_cons_of_mem hc
      obtain ⟨t, u, ht, hu, hs⟩ := eq_append_strip isSpacing a
      have hlt : r.length < n := by
        rw [← hn, List.length_append, List.length_cons]
        omega
      rw [← toList_pieceOf] at hs
      have hr := Spread.cons (a := pieceOf a) ht hu (ih r.length hlt r rfl)
      rw [← hs] at hr
      rw [splitOn_append ha]
      exact hr
    · obtain ⟨t, u, ht, hu, hs⟩ := eq_append_strip isSpacing s
      rw [← toList_pieceOf] at hs
      have hl := Spread.last (a := pieceOf s) ht hu
      rw [← hs] at hl
      rw [splitOn_of_not_mem hc]
      exact hl

theorem Spread.splitOn {args : List String} {s : List Char} (h : Spread args s)
    (hargs : ∀ a ∈ args, IsPiece a) : (splitOn ',' s).map pieceOf = args := by
  have hspacing : ∀ {b}, Within isSpacing b → ',' ∉ b := by
    intro b hb hc
    cases hb ',' hc
  have hpart : ∀ {a : String} {b₁ b₂ : List Char}, IsPiece a → Within isSpacing b₁ →
      Within isSpacing b₂ → ',' ∉ b₁ ++ a.toList ++ b₂ := by
    intro a b₁ b₂ ha h₁ h₂ hc
    rcases List.mem_append.mp hc with hc | hc
    · rcases List.mem_append.mp hc with hc | hc
      · exact hspacing h₁ hc
      · exact ha.no_comma hc
    · exact hspacing h₂ hc
  induction h with
  | @last a b₁ b₂ h₁ h₂ =>
    have ha := hargs a List.mem_cons_self
    rw [splitOn_of_not_mem (hpart ha h₁ h₂), List.map_singleton, pieceOf_append ha h₁ h₂]
  | @cons a args b₁ b₂ s h₁ h₂ _ ih =>
    have ha := hargs a List.mem_cons_self
    rw [splitOn_append (hpart ha h₁ h₂), List.map_cons, pieceOf_append ha h₁ h₂,
      ih fun b hb => hargs b (List.mem_cons_of_mem a hb)]

theorem arguments_readArgs (raw : List Char) : Arguments (readArgs raw) raw := by
  obtain ⟨t, u, ht, hu, hraw⟩ := eq_append_strip isBlank raw
  unfold readArgs
  rw [trim_eq_strip]
  by_cases he : strip isBlank raw = []
  · rw [he]
    rw [he, List.append_nil] at hraw
    exact .empty (hraw ▸ ht.append hu)
  · rw [if_neg (by simpa using he)]
    have hl := Arguments.listed ht hu he (startsOutside_strip isBlank raw)
      (endsOutside_strip isBlank raw) (spread_splitOn _) fun a ha => by
        obtain ⟨s, hs, rfl⟩ := List.mem_map.mp ha
        exact isPiece_pieceOf (not_mem_of_mem_splitOn hs)
    rw [← hraw] at hl
    exact hl

theorem Arguments.readArgs {args : List String} {raw : List Char} (h : Arguments args raw) :
    readArgs raw = args := by
  unfold Expression.readArgs
  rw [trim_eq_strip]
  cases h with
  | empty hraw =>
    rw [strip_of_within hraw]
    rfl
  | listed ht hu hne hstart hend hspread hargs =>
    rw [strip_append ht hstart hend hu, if_neg (by simpa using hne)]
    exact hspread.splitOn hargs

/-- The text between parentheses determines the arguments. -/
theorem arguments_iff {args : List String} {raw : List Char} :
    Arguments args raw ↔ readArgs raw = args := by
  constructor
  · exact Arguments.readArgs
  · rintro rfl
    exact arguments_readArgs raw

inductive ArgumentList : Option (List String) → List Char → Prop where
  | missing : ArgumentList none []
  | parens {args : List String} {raw : List Char} :
      (∀ c ∈ raw, isParenthesis c = false) → Arguments args raw →
        ArgumentList (some args) ('(' :: (raw ++ [')']))

inductive Segment (t : Transform) : List Char → Prop where
  | mk {b₁ b₂ b₃ list b₄ newline : List Char} :
      Within isSpacing b₁ → Within isSpacing b₂ → isIdentifier t.name.toList = true →
        Within isSpacing b₃ → ArgumentList t.args list → Within isSpacing b₄ →
          newline = [] ∨ newline = ['\n'] →
            Segment t (b₁ ++ '|' :: (b₂ ++ t.name.toList ++ b₃ ++ list ++ b₄ ++ newline))

theorem ne_of_isWord {c d : Char} (hc : isWord c = true) (hd : isWord d = false) :
    (c == d) = false := by
  rw [beq_eq_false_iff_ne]
  rintro rfl
  rw [hc] at hd
  cases hd

theorem isParenthesis_of_isBlank {c : Char} (h : isBlank c = true) : isParenthesis c = false := by
  unfold isParenthesis
  rw [Bool.or_eq_false_iff, beq_eq_false_iff_ne, beq_eq_false_iff_ne]
  constructor <;> rintro rfl <;> cases h

theorem isParenthesis_of_isSpacing {c : Char} (h : isSpacing c = true) : isParenthesis c = false :=
  isParenthesis_of_isBlank (isBlank_of_isSpacing h)

theorem isIdentifier_iff {s : List Char} : isIdentifier s = true ↔ s ≠ [] ∧ Within isWord s := by
  simp [isIdentifier, Within]

theorem reverse_dropNewline (r : List Char) :
    ∃ newline, (newline = [] ∨ newline = ['\n']) ∧
      r.reverse = (dropNewline r).reverse ++ newline := by
  unfold dropNewline
  split
  · exact ⟨['\n'], .inr rfl, List.reverse_cons⟩
  · exact ⟨[], .inl rfl, (List.append_nil _).symm⟩

theorem argumentList_of_takeArgs? {r before : List Char} {args : Option (List String)}
    (h : takeArgs? r = some (args, before)) :
    ∃ list, ArgumentList args list ∧ r.reverse = before.reverse ++ list := by
  unfold takeArgs? at h
  split at h
  · next r =>
    split at h
    · next before' hopen =>
      cases h
      have hraw := reverse_eq_dropWhile (!isParenthesis ·) r
      rw [hopen, List.reverse_cons] at hraw
      refine ⟨'(' :: ((r.takeWhile (!isParenthesis ·)).reverse ++ [')']), ?_, ?_⟩
      · refine .parens (fun c hc => ?_) (arguments_iff.mpr rfl)
        have hin := (within_takeWhile (!isParenthesis ·) r).reverse c hc
        simpa using hin
      · rw [List.reverse_cons, hraw]
        simp only [List.append_assoc, List.cons_append, List.nil_append]
    · cases h
  · cases h
    exact ⟨[], .missing, (List.append_nil _).symm⟩

theorem segment_of_lastSegment? {r before : List Char} {t : Transform}
    (h : lastSegment? r = some (t, before)) :
    StartsOutside isSpacing before ∧ ∃ s, Segment t s ∧ r.reverse = before.reverse ++ s := by
  obtain ⟨newline, hnewline, hr⟩ := reverse_dropNewline r
  have hb₄ := reverse_eq_dropWhile isSpacing (dropNewline r)
  unfold lastSegment? at h
  cases hargs : takeArgs? ((dropNewline r).dropWhile isSpacing) with
  | none =>
    rw [hargs] at h
    cases h
  | some found =>
    obtain ⟨args, r₂⟩ := found
    rw [hargs] at h
    -- The cuts in the order in which they are made, from the end of the text to the bar.
    obtain ⟨list, hlist, hr₂⟩ := argumentList_of_takeArgs? hargs
    have hb₃ := reverse_eq_dropWhile isSpacing r₂
    have hname := reverse_eq_dropWhile isWord (r₂.dropWhile isSpacing)
    have hb₂ := reverse_eq_dropWhile isSpacing ((r₂.dropWhile isSpacing).dropWhile isWord)
    dsimp only [Option.bind_eq_bind, Option.bind_some] at h
    split at h
    · cases h
    · next hne =>
      split at h
      · next before' hbar =>
        cases h
        have hb₁ := reverse_eq_dropWhile isSpacing before'
        have hword := (within_takeWhile isWord (r₂.dropWhile isSpacing)).reverse
        have hident := isIdentifier_iff.mpr ⟨by simpa using hne, hword⟩
        rw [← String.toList_ofList (l := (List.takeWhile isWord _).reverse)] at hident
        refine ⟨startsOutside_dropWhile isSpacing before', _,
          .mk (within_takeWhile isSpacing before').reverse
            (within_takeWhile isSpacing ((r₂.dropWhile isSpacing).dropWhile isWord)).reverse
            hident (within_takeWhile isSpacing r₂).reverse hlist
            (within_takeWhile isSpacing (dropNewline r)).reverse hnewline, ?_⟩
        rw [hr, hb₄, hr₂, hb₃, hname, hb₂, hbar, List.reverse_cons, hb₁, String.toList_ofList]
        simp only [List.append_assoc, List.cons_append, List.nil_append]
      · cases h

theorem dropNewline_append {newline b r : List Char} (hnewline : newline = [] ∨ newline = ['\n'])
    (hb : Within isSpacing b) (hr : StartsOutside isSpacing r) (hr' : StartsOutside (· == '\n') r) :
    (dropNewline (newline ++ (b ++ r))).dropWhile isSpacing = r := by
  have hkeep : dropNewline (b ++ r) = b ++ r := by
    unfold dropNewline
    split
    · next s hs =>
      cases b with
      | nil =>
        rw [List.nil_append] at hs
        rw [hs] at hr'
        cases startsOutside_cons.mp hr'
      | cons c b =>
        cases hs
        cases hb '\n' List.mem_cons_self
    · rfl
  rcases hnewline with rfl | rfl
  · rw [List.nil_append, hkeep, dropWhile_append hb hr]
  · change (b ++ r).dropWhile isSpacing = r
    rw [dropWhile_append hb hr]

theorem takeArgs?_of_startsOutside {r : List Char} (h : StartsOutside (· == ')') r) :
    takeArgs? r = some (none, r) := by
  unfold takeArgs?
  split
  · cases startsOutside_cons.mp h
  · rfl

theorem takeArgs?_parens {raw : List Char} (hraw : ∀ c ∈ raw, isParenthesis c = false)
    (r : List Char) :
    takeArgs? (')' :: (raw.reverse ++ '(' :: r)) = some (some (readArgs raw), r) := by
  have hin : Within (!isParenthesis ·) raw.reverse := by
    intro c hc
    simpa using hraw c (List.mem_reverse.mp hc)
  have hout : StartsOutside (!isParenthesis ·) ('(' :: r) := startsOutside_cons.mpr rfl
  simp only [takeArgs?, dropWhile_append hin hout, takeWhile_append hin hout,
    List.reverse_reverse]

/-- What is taken off a reversed text once the arguments are found. -/
theorem lastSegment?_of_takeArgs? {r b₁ b₂ b₃ p : List Char} {t : Transform}
    (hargs : takeArgs? ((dropNewline r).dropWhile isSpacing) =
      some (t.args, b₃ ++ (t.name.toList.reverse ++ (b₂ ++ '|' :: (b₁ ++ p)))))
    (h₁ : Within isSpacing b₁) (h₂ : Within isSpacing b₂)
    (hname : isIdentifier t.name.toList = true) (h₃ : Within isSpacing b₃) :
    lastSegment? r = some (t, p.dropWhile isSpacing) := by
  obtain ⟨hne, hword⟩ := isIdentifier_iff.mp hname
  have hbar : StartsOutside isSpacing ('|' :: (b₁ ++ p)) := startsOutside_cons.mpr rfl
  have hend : StartsOutside isWord (b₂ ++ '|' :: (b₁ ++ p)) :=
    startsOutside_append (fun c hc => isWord_of_isSpacing (h₂ c hc))
      fun _ => startsOutside_cons.mpr rfl
  have hstart : StartsOutside isSpacing
      (t.name.toList.reverse ++ (b₂ ++ '|' :: (b₁ ++ p))) :=
    startsOutside_append (fun c hc => isSpacing_of_isWord (hword.reverse c hc))
      fun h => absurd (List.reverse_eq_nil_iff.mp h) hne
  unfold Expression.lastSegment?
  rw [hargs]
  dsimp only [Option.bind_eq_bind, Option.bind_some]
  rw [dropWhile_append h₃ hstart, takeWhile_append hword.reverse hend,
    dropWhile_append hword.reverse hend, dropWhile_append h₂ hbar, List.reverse_reverse,
    if_neg (by simpa using hne)]
  simp only [List.dropWhile_append_of_pos h₁, String.ofList_toList]

/-- A segment is what it is at the end of any text. -/
theorem Segment.lastSegment? {t : Transform} {s : List Char} (h : Segment t s) (p : List Char) :
    lastSegment? (p ++ s).reverse = some (t, p.reverse.dropWhile isSpacing) := by
  obtain @⟨b₁, b₂, b₃, list, b₄, newline, h₁, h₂, hname, h₃, hlist, h₄, hnewline⟩ := h
  obtain ⟨name, args⟩ := t
  dsimp only at hname hlist ⊢
  obtain ⟨hne, hword⟩ := isIdentifier_iff.mp hname
  have hnewline' : newline.reverse = [] ∨ newline.reverse = ['\n'] := by
    rcases hnewline with rfl | rfl
    · exact .inl rfl
    · exact .inr rfl
  let r := name.toList.reverse ++ (b₂.reverse ++ '|' :: (b₁.reverse ++ p.reverse))
  have hreverse : (p ++ (b₁ ++ '|' :: (b₂ ++ name.toList ++ b₃ ++ list ++ b₄ ++ newline))).reverse =
      newline.reverse ++ (b₄.reverse ++ (list.reverse ++ (b₃.reverse ++ r))) := by
    simp [r]
  rw [hreverse]
  cases hlist with
  | missing =>
    -- The spacing on both sides of the missing list is one run for the reading.
    have hr : ∀ q, (∀ c, isWord c = true → q c = false) → StartsOutside q r := fun q hq =>
      startsOutside_append (fun c hc => hq c (hword.reverse c hc))
        fun h => absurd (List.reverse_eq_nil_iff.mp h) hne
    have hcut := dropNewline_append hnewline' (h₄.reverse.append h₃.reverse)
      (hr isSpacing fun c hc => isSpacing_of_isWord hc) (hr _ fun c hc => ne_of_isWord hc rfl)
    rw [List.append_assoc] at hcut
    refine lastSegment?_of_takeArgs? (t := ⟨name, none⟩) ?_ h₁.reverse h₂.reverse hname within_nil
    rw [List.reverse_nil, List.nil_append, hcut, List.nil_append]
    exact takeArgs?_of_startsOutside (hr _ fun c hc => ne_of_isWord hc rfl)
  | @parens args raw hraw hargs =>
    have hcut := dropNewline_append (r := ')' :: (raw.reverse ++ '(' :: (b₃.reverse ++ r))) hnewline'
      h₄.reverse (startsOutside_cons.mpr rfl) (startsOutside_cons.mpr rfl)
    have hparens : ('(' :: (raw ++ [')'])).reverse ++ (b₃.reverse ++ r) =
        ')' :: (raw.reverse ++ '(' :: (b₃.reverse ++ r)) := by
      simp
    refine lastSegment?_of_takeArgs? (t := ⟨name, some args⟩) ?_ h₁.reverse h₂.reverse hname
      h₃.reverse
    rw [hparens, hcut, takeArgs?_parens hraw, arguments_iff.mp hargs]

end JsonTemplate.Expression
