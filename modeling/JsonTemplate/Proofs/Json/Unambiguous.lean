import JsonTemplate.Proofs.Json.Compact
import JsonTemplate.Proofs.Json.Proper

/-!
# Unambiguous texts

The text of a value in ASCII says which value it is, and where it ends: two texts that go on with
anything but the characters of an atom are the same only for the same value. That holds of infinite
numbers too, although their texts are never read.
-/

namespace JsonTemplate.Json

open Text

def isAtomChar (c : Char) : Bool :=
  c.isAlphanum || c == '.' || c == '-' || c == '+'

theorem isAtomChar_of_isNumberChar {c : Char} (h : isNumberChar c = true) :
    isAtomChar c = true := by
  simp only [isNumberChar, isNumeric, Bool.or_eq_true, beq_iff_eq] at h
  rcases h with ((((hdigit | rfl) | rfl) | rfl) | rfl) | rfl
  · have hdigit : c.isDigit = true := hdigit
    unfold isAtomChar Char.isAlphanum
    simp [hdigit]
  all_goals rfl

def infinityChars (negative : Bool) : List Char :=
  (if negative then ['-'] else []) ++ "Infinity".toList

/-- A text that stands for one value which is neither a string nor a container. An infinite number
is never read from its own text, so it has a case of its own. -/
structure IsAtomText (s : List Char) (v : Json) : Prop where
  within : Within isAtomChar s
  ne_nil : s ≠ []
  reads : readAtom s = .ok (v, []) ∨
    ∃ negative, v = .float (.infinity negative) ∧ s = infinityChars negative

theorem IsAtomText.unique {s : List Char} {v w : Json} (h : IsAtomText s v)
    (h' : IsAtomText s w) : v = w := by
  have hrefused : ∀ negative, (readAtom (infinityChars negative)).toOption = none := by
    intro negative
    cases negative <;> rfl
  have hsign : ∀ negative negative', infinityChars negative = infinityChars negative' →
      negative = negative' := by decide
  rcases h.reads with hread | ⟨negative, rfl, rfl⟩
  · rcases h'.reads with hread' | ⟨negative, rfl, rfl⟩
    · rw [hread] at hread'
      cases hread'
      rfl
    · have hnone := hrefused negative
      rw [hread] at hnone
      cases hnone
  · rcases h'.reads with hread' | ⟨negative', rfl, htext⟩
    · have hnone := hrefused negative
      rw [hread'] at hnone
      cases hnone
    · rw [hsign _ _ htext]

theorem IsNumberText.isAtomText {s : List Char} {v : Json} (h : IsNumberText s v) :
    IsAtomText s v where
  within c hc := isAtomChar_of_isNumberChar (h.within_isNumberChar c hc)
  ne_nil := by
    obtain ⟨c, t, rfl, -⟩ := h.exists_cons
    exact List.cons_ne_nil c t
  reads := by
    have hread := h.readAtom startsOutside_nil
    rw [List.append_nil] at hread
    exact .inl hread

theorem isAtomText_infinity (negative : Bool) :
    IsAtomText (infinityChars negative) (.float (.infinity negative)) where
  within := by cases negative <;> decide
  ne_nil := by cases negative <;> decide
  reads := .inr ⟨negative, rfl, rfl⟩

theorem eq_infinity {d : Double} (hnan : d.isNaN = false) (hd : d.isFinite = false) :
    d = .infinity d.negative := by
  have hle : d.rank ≤ Double.infinityRank := Nat.not_lt.mp (of_decide_eq_false hnan)
  have hge : Double.infinityRank ≤ d.rank := Nat.not_lt.mp (of_decide_eq_false hd)
  rcases d with ⟨negative, rank, hrank⟩
  obtain rfl : rank = Double.infinityRank := Nat.le_antisymm hle hge
  rfl

theorem isAtomText_floatChars {d : Double} (hnan : d.isNaN = false) :
    IsAtomText (floatChars d) (.float d) := by
  cases hd : d.isFinite with
  | true => exact (isNumberText_floatChars hd).isAtomText
  | false =>
    rw [eq_infinity hnan hd]
    exact isAtomText_infinity d.negative

def opener? : Json → Option Char
  | string _ => some '"'
  | array _ => some '['
  | object _ => some '\x7b'
  | _ => none

/-- What is no string and no container is written as an atom. -/
theorem Proper.isAtomText {v : Json} (h : v.Proper) (hopener : v.opener? = none) :
    ∃ s, IsAtomText s v ∧ ∀ layout level, chars layout level v = s := by
  cases h with
  | null =>
    refine ⟨"null".toList, ⟨by decide, by decide, .inl rfl⟩, ?_⟩
    exact fun layout level => chars.eq_1 layout level
  | bool b =>
    refine ⟨boolChars b, ?_, fun layout level => chars.eq_2 layout level b⟩
    cases b with
    | true => exact ⟨by decide, by decide, .inl rfl⟩
    | false => exact ⟨by decide, by decide, .inl rfl⟩
  | @int n hn =>
    exact ⟨intChars n, (isNumberText_intChars hn).isAtomText, fun layout level =>
      chars.eq_3 layout level n⟩
  | @float d hd =>
    exact ⟨floatChars d, isAtomText_floatChars hd, fun layout level => chars.eq_4 layout level d⟩
  | string s => cases hopener
  | array _ => cases hopener
  | object _ _ _ => cases hopener

variable {layout : Layout} {level : Nat} {v w : Json} {r r' : List Char}

theorem exists_chars_cons_of_opener (layout : Layout) (level : Nat) {c : Char}
    (h : v.opener? = some c) :
    ∃ t, chars layout level v = c :: t := by
  cases v with
  | string s =>
    cases h
    exact ⟨_, by rw [chars, stringChars]⟩
  | array items =>
    cases h
    cases items with
    | nil => exact ⟨_, by rw [chars]⟩
    | cons v items => exact ⟨_, by rw [chars]⟩
  | object members =>
    cases h
    cases members with
    | nil => exact ⟨_, by rw [chars]⟩
    | cons m members => exact ⟨_, by rw [chars]⟩
  | _ => cases h

theorem not_isAtomChar_of_opener {c : Char} (h : v.opener? = some c) : isAtomChar c = false := by
  cases v <;> cases h <;> rfl

/-- The first character of a text shows what kind of value it stands for. -/
theorem Proper.opener_eq (hv : v.Proper) (hw : w.Proper)
    (h : chars layout level v ++ r = chars layout level w ++ r') : v.opener? = w.opener? := by
  have hatom : ∀ {u : Json}, u.Proper → u.opener? = none →
      ∃ c t, chars layout level u = c :: t ∧ isAtomChar c = true := by
    intro u hu hopener
    obtain ⟨s, hs, hchars⟩ := hu.isAtomText hopener
    obtain ⟨c, t, rfl⟩ := List.exists_cons_of_ne_nil hs.ne_nil
    exact ⟨c, t, hchars layout level, hs.within c List.mem_cons_self⟩
  have hclash : ∀ {u u' : Json} {c : Char} {t t' : List Char}, u.Proper → u.opener? = none →
      u'.opener? = some c → chars layout level u ++ t ≠ chars layout level u' ++ t' := by
    intro u u' c t t' hu hopener hopener' heq
    obtain ⟨d, s, hd, hdatom⟩ := hatom hu hopener
    obtain ⟨s', hc⟩ := exists_chars_cons_of_opener layout level hopener'
    rw [hd, hc] at heq
    obtain ⟨rfl, -⟩ := List.cons.inj heq
    rw [not_isAtomChar_of_opener hopener'] at hdatom
    cases hdatom
  cases hvo : v.opener? with
  | none =>
    cases hwo : w.opener? with
    | none => rfl
    | some c => exact absurd h (hclash hv hvo hwo)
  | some c =>
    cases hwo : w.opener? with
    | none => exact absurd h.symm (hclash hw hwo hvo)
    | some d =>
      obtain ⟨s, hs⟩ := exists_chars_cons_of_opener layout level hvo
      obtain ⟨s', hs'⟩ := exists_chars_cons_of_opener layout level hwo
      rw [hs, hs'] at h
      rw [(List.cons.inj h).1]

/-- The text of a value in ASCII is the text of no other value, whatever follows that does not go on
with an atom. -/
def Unambiguous (v : Json) : Prop :=
  ∀ level w r r', w.Proper → StartsOutside isAtomChar r → StartsOutside isAtomChar r' →
    chars .ascii level v ++ r = chars .ascii level w ++ r' → v = w ∧ r = r'

theorem unambiguous_of_atom (hv : v.Proper) (hopener : v.opener? = none) : v.Unambiguous := by
  intro level w r r' hw hr hr' h
  have hopener' : w.opener? = none := (hv.opener_eq hw h).symm.trans hopener
  obtain ⟨s, hs, hchars⟩ := hv.isAtomText hopener
  obtain ⟨s', hs', hchars'⟩ := hw.isAtomText hopener'
  rw [hchars, hchars'] at h
  obtain rfl : s = s' := by rw [← takeWhile_append hs.within hr, h, takeWhile_append hs'.within hr']
  exact ⟨hs.unique hs', List.append_cancel_left h⟩

theorem stringChars_append_inj {s s' : String}
    (h : stringChars .ascii s ++ r = stringChars .ascii s' ++ r') : s = s' ∧ r = r' := by
  unfold stringChars at h
  simp only [List.cons_append, List.append_assoc, List.nil_append, List.cons.injEq,
    true_and] at h
  have hread := readString_ascii 0 s r
  have hread' := readString_ascii 0 s' r'
  change readString 0 (s.toList.flatMap Layout.ascii.char ++ '"' :: r) = _ at hread
  change readString 0 (s'.toList.flatMap Layout.ascii.char ++ '"' :: r') = _ at hread'
  rw [h, hread'] at hread
  cases hread
  exact ⟨rfl, rfl⟩

theorem unambiguous_string (s : String) : (string s).Unambiguous := by
  intro level w r r' hw hr hr' h
  have hopener := (Proper.string s).opener_eq hw h
  cases hw with
  | string s' =>
    rw [chars, chars] at h
    obtain ⟨rfl, rfl⟩ := stringChars_append_inj h
    exact ⟨rfl, rfl⟩
  | _ => cases hopener

theorem startsOutside_isAtomChar_itemChars (level : Nat) (items : List Json) (r : List Char) :
    StartsOutside isAtomChar (itemChars .ascii level items ++ r) := by
  cases items with
  | nil =>
    rw [itemChars]
    exact startsOutside_cons.mpr rfl
  | cons v items =>
    rw [itemChars]
    exact startsOutside_cons.mpr rfl

theorem itemChars_append_inj {items others : List Json} (hitems : ∀ v ∈ items, v.Unambiguous)
    (hothers : ∀ w ∈ others, w.Proper)
    (h : itemChars .ascii level items ++ r = itemChars .ascii level others ++ r') :
    items = others ∧ r = r' := by
  induction items generalizing others with
  | nil =>
    cases others with
    | nil => exact ⟨rfl, List.append_cancel_left h⟩
    | cons w others =>
      rw [itemChars, itemChars] at h
      exact absurd (List.cons.inj h).1 (by decide)
  | cons v items ih =>
    cases others with
    | nil =>
      rw [itemChars, itemChars] at h
      exact absurd (List.cons.inj h).1 (by decide)
    | cons w others =>
      obtain ⟨hv, hitems⟩ := List.forall_mem_cons.mp hitems
      obtain ⟨hw, hmore⟩ := List.forall_mem_cons.mp hothers
      simp only [itemChars, List.append_assoc] at h
      obtain ⟨rfl, hrest⟩ := hv _ _ _ _ hw (startsOutside_isAtomChar_itemChars _ _ _)
        (startsOutside_isAtomChar_itemChars _ _ _) (List.append_cancel_left h)
      obtain ⟨rfl, rfl⟩ := ih hitems hmore hrest
      exact ⟨rfl, rfl⟩

/-- A value does not start like the end of an array. -/
theorem Proper.chars_ne_bracket (hv : v.Proper) (r r' : List Char) :
    chars layout level v ++ r ≠ ']' :: r' := by
  intro h
  cases hopener : v.opener? with
  | none =>
    obtain ⟨s, hs, hchars⟩ := hv.isAtomText hopener
    obtain ⟨c, t, rfl⟩ := List.exists_cons_of_ne_nil hs.ne_nil
    rw [hchars] at h
    have hc : isAtomChar c = true := hs.within c List.mem_cons_self
    rw [(List.cons.inj h).1] at hc
    cases hc
  | some c =>
    obtain ⟨t, ht⟩ := exists_chars_cons_of_opener layout level hopener
    rw [ht] at h
    rw [(List.cons.inj h).1] at hopener
    cases v <;> cases hopener

theorem unambiguous_array {items : List Json} (hproper : ∀ v ∈ items, v.Proper)
    (hitems : ∀ v ∈ items, v.Unambiguous) : (array items).Unambiguous := by
  intro level w r r' hw hr hr' h
  have hopener := (Proper.array hproper).opener_eq hw h
  cases hw with
  | @array others hothers =>
    cases items with
    | nil =>
      cases others with
      | nil => exact ⟨rfl, List.append_cancel_left h⟩
      | cons w others =>
        simp only [chars, List.cons_append, List.append_assoc, List.cons.injEq, true_and] at h
        exact absurd h.symm ((hothers w List.mem_cons_self).chars_ne_bracket _ _)
    | cons v items =>
      obtain ⟨hv, hitems⟩ := List.forall_mem_cons.mp hitems
      cases others with
      | nil =>
        simp only [chars, List.cons_append, List.append_assoc, List.cons.injEq, true_and] at h
        exact absurd h ((hproper v List.mem_cons_self).chars_ne_bracket _ _)
      | cons w others =>
        obtain ⟨hw, hmore⟩ := List.forall_mem_cons.mp hothers
        simp only [chars, List.cons_append, List.append_assoc, List.cons.injEq, true_and] at h
        obtain ⟨rfl, hrest⟩ := hv _ _ _ _ hw (startsOutside_isAtomChar_itemChars _ _ _)
          (startsOutside_isAtomChar_itemChars _ _ _) (List.append_cancel_left h)
        obtain ⟨rfl, rfl⟩ := itemChars_append_inj hitems hmore hrest
        exact ⟨rfl, rfl⟩
  | _ => cases hopener

theorem startsOutside_isAtomChar_memberChars (level : Nat) (members : List (Key × Json))
    (r : List Char) : StartsOutside isAtomChar (memberChars .ascii level members ++ r) := by
  cases members with
  | nil =>
    rw [memberChars]
    exact startsOutside_cons.mpr rfl
  | cons m members =>
    rw [memberChars]
    exact startsOutside_cons.mpr rfl

/-- A member whose name is a text, with what follows it. -/
theorem member_append_inj {m n : Key × Json} {ms ns : List (Key × Json)}
    (hm : m.1.isName = true) (hn : n.1.isName = true) (hv : m.2.Unambiguous) (hw : n.2.Proper)
    (h : stringChars .ascii (keyText m.1) ++ (':' :: ' ' :: (chars .ascii (level + 1) m.2 ++
        (memberChars .ascii level ms ++ r))) =
      stringChars .ascii (keyText n.1) ++ (':' :: ' ' :: (chars .ascii (level + 1) n.2 ++
        (memberChars .ascii level ns ++ r')))) :
    m = n ∧ memberChars .ascii level ms ++ r = memberChars .ascii level ns ++ r' := by
  obtain ⟨k, v⟩ := m
  obtain ⟨k', w⟩ := n
  obtain ⟨hkey, h⟩ := stringChars_append_inj h
  obtain ⟨-, h⟩ := List.cons.inj h
  obtain ⟨-, h⟩ := List.cons.inj h
  obtain ⟨rfl, hrest⟩ := hv _ _ _ _ hw (startsOutside_isAtomChar_memberChars _ _ _)
    (startsOutside_isAtomChar_memberChars _ _ _) h
  cases k with
  | scalar _ => cases hm
  | name s =>
    cases k' with
    | scalar _ => cases hn
    | name s' =>
      obtain rfl : s = s' := hkey
      exact ⟨rfl, hrest⟩

theorem memberChars_append_inj {members others : List (Key × Json)}
    (hnames : ∀ m ∈ members, m.1.isName = true) (hmembers : ∀ m ∈ members, m.2.Unambiguous)
    (hnames' : ∀ n ∈ others, n.1.isName = true) (hothers : ∀ n ∈ others, n.2.Proper)
    (h : memberChars .ascii level members ++ r = memberChars .ascii level others ++ r') :
    members = others ∧ r = r' := by
  induction members generalizing others with
  | nil =>
    cases others with
    | nil => exact ⟨rfl, List.append_cancel_left h⟩
    | cons n others =>
      rw [memberChars, memberChars] at h
      exact absurd (List.cons.inj h).1 (by decide)
  | cons m members ih =>
    cases others with
    | nil =>
      rw [memberChars, memberChars] at h
      exact absurd (List.cons.inj h).1 (by decide)
    | cons n others =>
      obtain ⟨hname, hnames⟩ := List.forall_mem_cons.mp hnames
      obtain ⟨hm, hmembers⟩ := List.forall_mem_cons.mp hmembers
      obtain ⟨hname', hmoreNames⟩ := List.forall_mem_cons.mp hnames'
      obtain ⟨hn, hmore⟩ := List.forall_mem_cons.mp hothers
      simp only [memberChars, List.append_assoc, List.cons_append] at h
      obtain ⟨rfl, hrest⟩ := member_append_inj hname hname' hm hn (List.append_cancel_left h)
      obtain ⟨rfl, rfl⟩ := ih hnames hmembers hmoreNames hmore hrest
      exact ⟨rfl, rfl⟩

theorem unambiguous_object {members : List (Key × Json)} (hv : (object members).Proper)
    (hmembers : ∀ m ∈ members, m.2.Unambiguous) : (object members).Unambiguous := by
  intro level w r r' hw hr hr' h
  have hopener := hv.opener_eq hw h
  cases hv with
  | object _ hnames _ =>
    cases hw with
    | @object others _ hnames' hothers =>
      cases members with
      | nil =>
        cases others with
        | nil => exact ⟨rfl, List.append_cancel_left h⟩
        | cons n others =>
          rw [chars, chars] at h
          exact absurd (List.cons.inj (List.cons.inj h).2).1 (by decide)
      | cons m members =>
        cases others with
        | nil =>
          rw [chars, chars] at h
          exact absurd (List.cons.inj (List.cons.inj h).2).1 (by decide)
        | cons n others =>
          obtain ⟨hname, hnames⟩ := List.forall_mem_cons.mp hnames
          obtain ⟨hm, hmembers⟩ := List.forall_mem_cons.mp hmembers
          obtain ⟨hname', hmoreNames⟩ := List.forall_mem_cons.mp hnames'
          obtain ⟨hn, hmore⟩ := List.forall_mem_cons.mp hothers
          simp only [chars, List.append_assoc, List.cons_append, List.cons.injEq, true_and] at h
          obtain ⟨rfl, hrest⟩ := member_append_inj hname hname' hm hn (List.append_cancel_left h)
          obtain ⟨rfl, rfl⟩ := memberChars_append_inj hnames hmembers hmoreNames hmore hrest
          exact ⟨rfl, rfl⟩
    | _ => cases hopener

theorem Proper.unambiguous (h : v.Proper) : v.Unambiguous := by
  induction h with
  | null => exact unambiguous_of_atom .null rfl
  | bool b => exact unambiguous_of_atom (.bool b) rfl
  | int hn => exact unambiguous_of_atom (.int hn) rfl
  | float hd => exact unambiguous_of_atom (.float hd) rfl
  | string s => exact unambiguous_string s
  | array hitems ih => exact unambiguous_array hitems ih
  | object hnodup hnames hmembers ih => exact unambiguous_object (.object hnodup hnames hmembers) ih

theorem Proper.chars_inj (hv : v.Proper) (hw : w.Proper)
    (h : chars .ascii level v = chars .ascii level w) : v = w :=
  (hv.unambiguous level w [] [] hw startsOutside_nil startsOutside_nil
    (congrArg (· ++ []) h)).1

end JsonTemplate.Json
