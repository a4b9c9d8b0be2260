import JsonTemplate.Proofs.Assoc
import JsonTemplate.Proofs.Json.Atom
import JsonTemplate.Proofs.Json.Strings
import Mathlib.Data.List.Nodup

/-!
# Reading back what was written

A value that standard JSON can hold is read back from its text in every layout that puts nothing
but white space and commas between the items and escapes its strings readably: with the same order
of members, and with integers and doubles kept apart.
-/

namespace JsonTemplate

open Text

namespace Json

/-- Values that standard JSON can hold: members have distinct names, integers do not have more
digits than are read, and doubles are finite. -/
inductive Standard : Json → Prop
  | null : Standard .null
  | bool (b : Bool) : Standard (.bool b)
  | int {n : Int} : Double.countDigits n.natAbs ≤ digitLimit → Standard (.int n)
  | float {d : Double} : d.isFinite = true → Standard (.float d)
  | string (s : String) : Standard (.string s)
  | array {items : List Json} : (∀ v ∈ items, Standard v) → Standard (.array items)
  | object {fields : List (String × Json)} : (fields.map (·.1)).Nodup →
      (∀ f ∈ fields, Standard f.2) → Standard (.named fields)

end Json

structure Layout.IsReadable (layout : Layout) : Prop where
  opening : ∀ level, Within Json.isSpace (layout.opening level)
  between : ∀ level, ∃ spaces, layout.between level = ',' :: spaces ∧ Within Json.isSpace spaces
  closing : ∀ level, Within Json.isSpace (layout.closing level)
  string : ∀ opened (s : String) r,
    Json.readString opened (s.toList.flatMap layout.char ++ '"' :: r) = .ok (s, r)

theorem Layout.within_indentation (level : Nat) : Within Json.isSpace (indentation level) := by
  intro c hc
  rcases List.mem_cons.mp hc with rfl | hc
  · rfl
  · rw [List.eq_of_mem_replicate hc]
    rfl

theorem Layout.pretty_isReadable : pretty.IsReadable where
  opening level := within_indentation (level + 1)
  between level := ⟨_, rfl, within_indentation (level + 1)⟩
  closing level := within_indentation level
  string := Json.readString_plain

theorem Layout.compact_isReadable : compact.IsReadable where
  opening _ := within_nil
  between _ := ⟨_, rfl, by decide⟩
  closing _ := within_nil
  string := Json.readString_plain

namespace Json

theorem skipSpace_append {s r : List Char} (hs : Within isSpace s) (hr : StartsOutside isSpace r) :
    skipSpace (s ++ r) = r :=
  dropWhile_append hs hr

def isValueStart (c : Char) : Bool :=
  isDecimal c || c == '-' || c == '"' || c == '[' || c == '\x7b' || c == 'n' || c == 't' || c == 'f'

theorem eq_of_isSpace {c : Char} (h : isSpace c = true) :
    c = ' ' ∨ c = '\t' ∨ c = '\n' ∨ c = '\r' := by
  simpa [isSpace, or_assoc] using h

theorem not_isSpace_of_isValueStart {c : Char} (h : isValueStart c = true) : isSpace c = false := by
  cases hc : isSpace c with
  | false => rfl
  | true => rcases eq_of_isSpace hc with rfl | rfl | rfl | rfl <;> cases h

theorem not_isNumeric_of_isSpace {c : Char} (h : isSpace c = true) : isNumeric c = false := by
  rcases eq_of_isSpace h with rfl | rfl | rfl | rfl <;> rfl

variable {layout : Layout}

def memberText (layout : Layout) (level : Nat) (f : String × Json) : List Char :=
  stringChars layout f.1 ++ ':' :: ' ' :: chars layout (level + 1) f.2

def namedMembers (fields : List (String × Json)) : List (Key × Json) :=
  fields.map fun f => (.name f.1, f.2)

theorem memberText_append (level : Nat) (f : String × Json) (s : List Char) :
    memberText layout level f ++ s = '"' :: (f.1.toList.flatMap layout.char ++
      '"' :: ':' :: ' ' :: (chars layout (level + 1) f.2 ++ s)) := by
  unfold memberText stringChars
  simp only [List.cons_append, List.append_assoc, List.nil_append]

theorem memberChars_cons (level : Nat) (f : String × Json) (fields : List (String × Json)) :
    memberChars layout level (namedMembers (f :: fields)) = layout.between level ++
      (memberText layout level f ++ memberChars layout level (namedMembers fields)) := by
  unfold memberText
  simp only [namedMembers, List.map_cons, memberChars, keyText, List.cons_append,
    List.append_assoc]

theorem chars_named_cons (level : Nat) (f : String × Json) (fields : List (String × Json)) :
    chars layout level (.named (f :: fields)) = '\x7b' :: (layout.opening level ++
      (memberText layout level f ++ memberChars layout level (namedMembers fields))) := by
  unfold memberText
  simp only [named, namedMembers, List.map_cons, chars, keyText, List.cons_append,
    List.append_assoc]

/-- A value is read from its text at every level, whatever follows that does not go on with a
number. -/
structure ReadsBack (layout : Layout) (v : Json) : Prop where
  starts : ∀ level, ∃ c s, chars layout level v = c :: s ∧ isValueStart c = true
  reads : ∀ level fuel r, StartsOutside isNumeric r → 2 * (chars layout level v).length ≤ fuel →
    readValue fuel (chars layout level v ++ r) = .ok (v, r)

theorem ReadsBack.startsOutside_isSpace {v : Json} (h : ReadsBack layout v) (level : Nat)
    (r : List Char) : StartsOutside isSpace (chars layout level v ++ r) := by
  obtain ⟨c, s, hs, hc⟩ := h.starts level
  rw [hs]
  exact startsOutside_cons.mpr (not_isSpace_of_isValueStart hc)

theorem readValue_atom {c : Char} {s : List Char} (hquote : c ≠ '"') (hbracket : c ≠ '[')
    (hbrace : c ≠ '\x7b') (fuel : Nat) : readValue (fuel + 1) (c :: s) = readAtom (c :: s) := by
  rw [readValue, if_neg hquote, if_neg hbracket, if_neg hbrace]

/-- Texts of atoms are read by `readAtom`. -/
theorem readsBack_of_atom {v : Json} {s : List Char} (hchars : ∀ level, chars layout level v = s)
    (hstart : ∃ c t, s = c :: t ∧ isValueStart c = true ∧ c ≠ '"' ∧ c ≠ '[' ∧ c ≠ '\x7b')
    (hread : ∀ r, StartsOutside isNumeric r → readAtom (s ++ r) = .ok (v, r)) :
    ReadsBack layout v := by
  obtain ⟨c, t, rfl, hc, hquote, hbracket, hbrace⟩ := hstart
  constructor
  case starts => exact fun level => ⟨c, t, hchars level, hc⟩
  case reads =>
    intro level fuel r hr hfuel
    rw [hchars level] at hfuel ⊢
    obtain ⟨fuel, rfl⟩ : ∃ n, fuel = n + 1 := ⟨fuel - 1, by
      rw [List.length_cons] at hfuel
      omega⟩
    exact (readValue_atom hquote hbracket hbrace fuel).trans (hread r hr)

theorem readsBack_string (hlayout : layout.IsReadable) (s : String) :
    ReadsBack layout (.string s) where
  starts level := ⟨'"', _, rfl, rfl⟩
  reads level fuel r hr hfuel := by
    have hlength : 0 < (chars layout level (.string s)).length := Nat.succ_pos _
    obtain ⟨fuel, rfl⟩ : ∃ n, fuel = n + 1 := ⟨fuel - 1, by omega⟩
    rw [chars, stringChars, List.cons_append, List.append_assoc, readValue, if_pos rfl,
      List.singleton_append, hlayout.string]
    rfl

/-- What stands behind an item does not go on with a number. -/
theorem startsOutside_between (hlayout : layout.IsReadable) (level : Nat) (r : List Char) :
    StartsOutside isNumeric (layout.between level ++ r) := by
  obtain ⟨spaces, hbetween, -⟩ := hlayout.between level
  rw [hbetween]
  exact startsOutside_cons.mpr rfl

theorem startsOutside_closing (hlayout : layout.IsReadable) (level : Nat) {c : Char}
    (hc : isNumeric c = false) (r : List Char) :
    StartsOutside isNumeric (layout.closing level ++ ([c] ++ r)) :=
  startsOutside_append (fun d hd => not_isNumeric_of_isSpace (hlayout.closing level d hd)) fun _ =>
    startsOutside_cons.mpr hc

theorem startsOutside_itemChars (hlayout : layout.IsReadable) (level : Nat) (items : List Json)
    (r : List Char) : StartsOutside isNumeric (itemChars layout level items ++ r) := by
  cases items with
  | nil =>
    rw [itemChars, List.append_assoc]
    exact startsOutside_closing hlayout level rfl r
  | cons v items =>
    rw [itemChars, List.append_assoc]
    exact startsOutside_between hlayout level _

theorem readItems_last {fuel : Nat} {s r r' : List Char} {v : Json}
    (hv : readValue fuel s = .ok (v, r)) (hr : skipSpace r = ']' :: r') :
    readItems (fuel + 1) s = .ok ([v], r') := by
  simp [readItems, hv, hr, bind, Except.bind, pure, Except.pure]

theorem readItems_more {fuel : Nat} {s r r' r'' : List Char} {v : Json} {items : List Json}
    (hv : readValue fuel s = .ok (v, r)) (hr : skipSpace r = ',' :: r')
    (hitems : readItems fuel (skipSpace r') = .ok (items, r'')) :
    readItems (fuel + 1) s = .ok (v :: items, r'') := by
  simp [readItems, hv, hr, hitems, bind, Except.bind, pure, Except.pure]

theorem readItems_chars (hlayout : layout.IsReadable) {v : Json} {items : List Json}
    (hv : ReadsBack layout v) (hitems : ∀ w ∈ items, ReadsBack layout w) (level : Nat) {fuel : Nat}
    (hfuel : 2 * ((chars layout (level + 1) v).length + (itemChars layout level items).length) <
      fuel) (r : List Char) :
    readItems fuel (chars layout (level + 1) v ++ (itemChars layout level items ++ r)) =
      .ok (v :: items, r) := by
  -- every item but the first has a comma in front, which pays for the fuel that it takes
  induction items generalizing v fuel with
  | nil =>
    obtain ⟨fuel, rfl⟩ : ∃ n, fuel = n + 1 := ⟨fuel - 1, by omega⟩
    have hread := hv.reads (level + 1) fuel (itemChars layout level [] ++ r)
      (startsOutside_itemChars hlayout level [] r) (by omega)
    refine readItems_last hread ?_
    rw [itemChars, List.append_assoc]
    exact skipSpace_append (hlayout.closing level) (startsOutside_cons.mpr rfl)
  | cons w items ih =>
    obtain ⟨fuel, rfl⟩ : ∃ n, fuel = n + 1 := ⟨fuel - 1, by omega⟩
    obtain ⟨spaces, hbetween, hspaces⟩ := hlayout.between level
    have hw := hitems w List.mem_cons_self
    have hread := hv.reads (level + 1) fuel (itemChars layout level (w :: items) ++ r)
      (startsOutside_itemChars hlayout level (w :: items) r) (by omega)
    have htext : itemChars layout level (w :: items) ++ r =
        ',' :: (spaces ++ (chars layout (level + 1) w ++ (itemChars layout level items ++ r))) := by
      rw [itemChars, hbetween]
      simp only [List.cons_append, List.append_assoc]
    have hlength : (itemChars layout level (w :: items)).length =
        1 + spaces.length + (chars layout (level + 1) w).length +
          (itemChars layout level items).length := by
      rw [itemChars, hbetween]
      simp only [List.length_cons, List.length_append]
      omega
    have hcomma : skipSpace (itemChars layout level (w :: items) ++ r) = ',' ::
        (spaces ++ (chars layout (level + 1) w ++ (itemChars layout level items ++ r))) := by
      rw [htext]
      rfl
    refine readItems_more hread hcomma ?_
    rw [skipSpace_append hspaces (hw.startsOutside_isSpace _ _)]
    exact ih hw (fun x hx => hitems x (List.mem_cons_of_mem _ hx)) (by omega)

theorem readValue_bracket {fuel : Nat} {s r : List Char} {items : List Json}
    (hopen : ∀ t, skipSpace s ≠ ']' :: t) (hitems : readItems fuel (skipSpace s) = .ok (items, r)) :
    readValue (fuel + 1) ('[' :: s) = .ok (.array items, r) := by
  rw [readValue, if_neg (by decide), if_pos rfl]
  split
  · next hs => exact absurd hs (hopen _)
  · rw [hitems]
    rfl

theorem readsBack_array (hlayout : layout.IsReadable) {items : List Json}
    (hitems : ∀ v ∈ items, ReadsBack layout v) : ReadsBack layout (.array items) := by
  cases items with
  | nil =>
    constructor
    case starts => exact fun level => ⟨'[', _, rfl, rfl⟩
    case reads =>
      intro level fuel r hr hfuel
      obtain ⟨fuel, rfl⟩ : ∃ n, fuel = n + 1 := ⟨fuel - 1, by
        rw [chars, List.length_cons] at hfuel
        omega⟩
      rfl
  | cons v items =>
    have hv := hitems v List.mem_cons_self
    constructor
    case starts => exact fun level => ⟨'[', _, rfl, rfl⟩
    case reads =>
      intro level fuel r hr hfuel
      simp only [chars, List.length_cons, List.length_append] at hfuel
      obtain ⟨fuel, rfl⟩ : ∃ n, fuel = n + 1 := ⟨fuel - 1, by omega⟩
      have hopening : skipSpace (layout.opening level ++ (chars layout (level + 1) v ++
          (itemChars layout level items ++ r))) =
            chars layout (level + 1) v ++ (itemChars layout level items ++ r) :=
        skipSpace_append (hlayout.opening level) (hv.startsOutside_isSpace _ _)
      simp only [chars, List.cons_append, List.append_assoc]
      apply readValue_bracket
      · intro t ht
        obtain ⟨c, s, hs, hc⟩ := hv.starts (level + 1)
        rw [hopening, hs] at ht
        cases ht
        cases hc
      · rw [hopening]
        exact readItems_chars hlayout hv (fun w hw => hitems w (List.mem_cons_of_mem _ hw)) level
          (by omega) r

theorem startsOutside_memberChars (hlayout : layout.IsReadable) (level : Nat)
    (members : List (Key × Json)) (r : List Char) :
    StartsOutside isNumeric (memberChars layout level members ++ r) := by
  cases members with
  | nil =>
    rw [memberChars, List.append_assoc]
    exact startsOutside_closing hlayout level rfl r
  | cons m members =>
    rw [memberChars, List.append_assoc]
    exact startsOutside_between hlayout level _

theorem skipSpace_colon (s : List Char) : skipSpace (':' :: s) = ':' :: s :=
  rfl

theorem readMembers_last {fuel : Nat} {k : String} {s r r' r'' : List Char} {v : Json}
    (hk : ∀ opened, readString opened s = .ok (k, ':' :: r))
    (hv : readValue fuel (skipSpace r) = .ok (v, r')) (hr : skipSpace r' = '\x7d' :: r'') :
    readMembers (fuel + 1) ('"' :: s) = .ok ([(.name k, v)], r'') := by
  simp [readMembers, hk, skipSpace_colon, hv, hr, bind, Except.bind, pure, Except.pure]

theorem readMembers_more {fuel : Nat} {k : String} {s r r' r'' t : List Char} {v : Json}
    {members : List (Key × Json)} (hk : ∀ opened, readString opened s = .ok (k, ':' :: r))
    (hv : readValue fuel (skipSpace r) = .ok (v, r')) (hr : skipSpace r' = ',' :: r'')
    (hmembers : readMembers fuel (skipSpace r'') = .ok (members, t)) :
    readMembers (fuel + 1) ('"' :: s) = .ok ((.name k, v) :: members, t) := by
  simp [readMembers, hk, skipSpace_colon, hv, hr, hmembers, bind, Except.bind, pure, Except.pure]

theorem readValue_member (hlayout : layout.IsReadable) {f : String × Json}
    (hf : ReadsBack layout f.2) (level fuel : Nat) (members : List (Key × Json)) (r : List Char)
    (hfuel : 2 * (memberText layout level f).length ≤ fuel) :
    readValue fuel (skipSpace (' ' :: (chars layout (level + 1) f.2 ++
      (memberChars layout level members ++ r)))) =
      .ok (f.2, memberChars layout level members ++ r) := by
  have hspace := skipSpace_append (s := [' ']) (by decide) (hf.startsOutside_isSpace (level + 1)
    (memberChars layout level members ++ r))
  rw [List.singleton_append] at hspace
  rw [hspace]
  refine hf.reads (level + 1) fuel _ (startsOutside_memberChars hlayout level members r) ?_
  unfold memberText at hfuel
  simp only [List.length_append, List.length_cons] at hfuel
  omega

theorem readMembers_chars (hlayout : layout.IsReadable) {f : String × Json}
    {fields : List (String × Json)} (hf : ReadsBack layout f.2)
    (hfields : ∀ g ∈ fields, ReadsBack layout g.2) (level : Nat) {fuel : Nat}
    (hfuel : 2 * ((memberText layout level f).length +
      (memberChars layout level (namedMembers fields)).length) < fuel) (r : List Char) :
    readMembers fuel (memberText layout level f ++
      (memberChars layout level (namedMembers fields) ++ r)) =
      .ok (namedMembers (f :: fields), r) := by
  induction fields generalizing f fuel with
  | nil =>
    obtain ⟨fuel, rfl⟩ : ∃ n, fuel = n + 1 := ⟨fuel - 1, by omega⟩
    have hread := readValue_member hlayout hf level fuel [] r (by omega)
    have hclosing : skipSpace (memberChars layout level [] ++ r) = '\x7d' :: r := by
      rw [memberChars, List.append_assoc]
      exact skipSpace_append (hlayout.closing level) (startsOutside_cons.mpr rfl)
    rw [memberText_append]
    exact readMembers_last (fun opened => hlayout.string opened _ _) hread hclosing
  | cons g fields ih =>
    obtain ⟨fuel, rfl⟩ : ∃ n, fuel = n + 1 := ⟨fuel - 1, by omega⟩
    obtain ⟨spaces, hbetween, hspaces⟩ := hlayout.between level
    have hg := hfields g List.mem_cons_self
    have hread := readValue_member hlayout hf level fuel (namedMembers (g :: fields)) r
      (by omega)
    have htext : memberChars layout level (namedMembers (g :: fields)) = ',' :: (spaces ++
        (memberText layout level g ++ memberChars layout level (namedMembers fields))) := by
      rw [memberChars_cons, hbetween, List.cons_append]
    have hcomma : skipSpace (memberChars layout level (namedMembers (g :: fields)) ++ r) =
        ',' :: (spaces ++ (memberText layout level g ++
          (memberChars layout level (namedMembers fields) ++ r))) := by
      rw [htext, List.cons_append, List.append_assoc, List.append_assoc]
      rfl
    have hnext : StartsOutside isSpace (memberText layout level g ++
        (memberChars layout level (namedMembers fields) ++ r)) := by
      rw [memberText_append]
      exact startsOutside_cons.mpr rfl
    rw [memberText_append]
    refine readMembers_more (fun opened => hlayout.string opened _ _) hread hcomma ?_
    rw [skipSpace_append hspaces hnext]
    refine ih hg (fun x hx => hfields x (List.mem_cons_of_mem _ hx)) ?_
    rw [htext] at hfuel
    simp only [List.length_cons, List.length_append] at hfuel ⊢
    omega

theorem readValue_brace {fuel : Nat} {s r : List Char} {members : List (Key × Json)}
    (hopen : ∀ t, skipSpace s ≠ '\x7d' :: t)
    (hmembers : readMembers fuel (skipSpace s) = .ok (members, r)) :
    readValue (fuel + 1) ('\x7b' :: s) = .ok (.object (Assoc.ofEntries members), r) := by
  rw [readValue, if_neg (by decide), if_neg (by decide), if_pos rfl]
  split
  · next hs => exact absurd hs (hopen _)
  · rw [hmembers]
    rfl

theorem nodup_keys_namedMembers {fields : List (String × Json)}
    (h : (fields.map (·.1)).Nodup) : (Assoc.keys (namedMembers fields)).Nodup := by
  have hkeys : Assoc.keys (namedMembers fields) = (fields.map (·.1)).map Key.name := by
    simp only [Assoc.keys, namedMembers, List.map_map, Function.comp_def]
  rw [hkeys]
  exact List.Nodup.map (fun _ _ => Key.name.inj) h

theorem readsBack_named (hlayout : layout.IsReadable) {fields : List (String × Json)}
    (hnames : (fields.map (·.1)).Nodup) (hfields : ∀ f ∈ fields, ReadsBack layout f.2) :
    ReadsBack layout (.named fields) := by
  cases fields with
  | nil =>
    constructor
    case starts => exact fun level => ⟨'\x7b', _, rfl, rfl⟩
    case reads =>
      intro level fuel r hr hfuel
      obtain ⟨fuel, rfl⟩ : ∃ n, fuel = n + 1 := ⟨fuel - 1, by
        rw [named, List.map_nil, chars, List.length_cons] at hfuel
        omega⟩
      rfl
  | cons f fields =>
    have hf := hfields f List.mem_cons_self
    constructor
    case starts => exact fun level => ⟨'\x7b', _, rfl, rfl⟩
    case reads =>
      intro level fuel r hr hfuel
      rw [chars_named_cons] at hfuel ⊢
      simp only [List.length_cons, List.length_append] at hfuel
      obtain ⟨fuel, rfl⟩ : ∃ n, fuel = n + 1 := ⟨fuel - 1, by omega⟩
      have hopening : skipSpace (layout.opening level ++ (memberText layout level f ++
          (memberChars layout level (namedMembers fields) ++ r))) = memberText layout level f ++
            (memberChars layout level (namedMembers fields) ++ r) := by
        apply skipSpace_append (hlayout.opening level)
        rw [memberText_append]
        exact startsOutside_cons.mpr rfl
      have hroom : 2 * ((memberText layout level f).length +
          (memberChars layout level (namedMembers fields)).length) < fuel := by omega
      have hmembers := readMembers_chars hlayout hf
        (fun g hg => hfields g (List.mem_cons_of_mem _ hg)) level hroom r
      have hentries : Assoc.ofEntries (namedMembers (f :: fields)) = namedMembers (f :: fields) :=
        Assoc.ofEntries_of_nodup (nodup_keys_namedMembers hnames)
      rw [← hopening] at hmembers
      simp only [List.cons_append, List.append_assoc]
      rw [readValue_brace _ hmembers, hentries]
      · rfl
      · intro t ht
        rw [hopening, memberText_append] at ht
        cases ht

theorem IsNumberText.readsBack {v : Json} {s : List Char} (h : IsNumberText s v)
    (hchars : ∀ level, chars layout level v = s) : ReadsBack layout v := by
  refine readsBack_of_atom hchars ?_ fun r hr => h.readAtom hr
  obtain ⟨c, t, hs, hc⟩ := h.exists_cons
  have hne : ∀ d, (isDecimal d || d == '-') = false → c ≠ d := by
    rintro d hd rfl
    rw [hc] at hd
    cases hd
  exact ⟨c, t, hs, by simp [isValueStart, hc], hne '"' rfl, hne '[' rfl, hne '\x7b' rfl⟩

theorem Standard.readsBack (hlayout : layout.IsReadable) {v : Json} (h : Standard v) :
    ReadsBack layout v := by
  induction h with
  | null => exact readsBack_of_atom (fun _ => rfl) ⟨'n', _, rfl, by decide⟩ fun r _ => readAtom_null r
  | bool b =>
    refine readsBack_of_atom (fun _ => rfl) ?_ fun r _ => readAtom_bool b r
    cases b with
    | true => exact ⟨'t', _, rfl, by decide⟩
    | false => exact ⟨'f', _, rfl, by decide⟩
  | int hn => exact (isNumberText_intChars hn).readsBack fun _ => rfl
  | float hd => exact (isNumberText_floatChars hd).readsBack fun _ => rfl
  | string s => exact readsBack_string hlayout s
  | array _ ih => exact readsBack_array hlayout ih
  | object hnames _ ih => exact readsBack_named hlayout hnames ih

/-- In every readable layout, a standard value is the document that its text says. -/
theorem Standard.parse_chars (hlayout : layout.IsReadable) {v : Json} (h : Standard v)
    (level : Nat) : parse (String.ofList (chars layout level v)) = .ok v := by
  have hread := h.readsBack hlayout
  have hvalue := hread.reads level (2 * (chars layout level v).length + 2) [] startsOutside_nil
    (by omega)
  obtain ⟨c, s, hs, hc⟩ := hread.starts level
  have hmark : c ≠ '\uFEFF' := by
    rintro rfl
    cases hc
  have hspace : skipSpace (chars layout level v) = chars layout level v := by
    rw [hs]
    exact List.dropWhile_cons_of_neg (by rw [not_isSpace_of_isValueStart hc]; decide)
  rw [List.append_nil] at hvalue
  have hdocument : readDocument (chars layout level v) = .ok v := by
    unfold readDocument
    split
    · next hbom =>
      rw [hs] at hbom
      exact absurd (List.cons.inj hbom).1 hmark
    · rw [hspace, hvalue]
      rfl
  unfold parse parseChars
  rw [String.toList_ofList, hdocument]
  rfl

theorem itemsNonFinite?_eq_none {items : List Json} (h : ∀ v ∈ items, nonFinite? v = none) :
    itemsNonFinite? items = none := by
  induction items with
  | nil => rfl
  | cons v items ih =>
    rw [itemsNonFinite?, h v List.mem_cons_self, ih fun w hw => h w (List.mem_cons_of_mem _ hw)]
    rfl

theorem membersNonFinite?_eq_none {fields : List (String × Json)}
    (h : ∀ f ∈ fields, nonFinite? f.2 = none) :
    membersNonFinite? (namedMembers fields) = none := by
  induction fields with
  | nil => rfl
  | cons f fields ih =>
    have hrest := ih fun g hg => h g (List.mem_cons_of_mem _ hg)
    change (keyNonFinite? (.name f.1)).or ((nonFinite? f.2).or
      (membersNonFinite? (namedMembers fields))) = none
    rw [h f List.mem_cons_self, hrest]
    rfl

theorem Standard.nonFinite?_eq_none {v : Json} (h : Standard v) : nonFinite? v = none := by
  induction h with
  | null => rfl
  | bool b => rfl
  | int hn => rfl
  | float hd => exact if_pos hd
  | string s => rfl
  | array _ ih => exact itemsNonFinite?_eq_none ih
  | object _ _ ih => exact membersNonFinite?_eq_none ih

theorem Standard.dump_eq {v : Json} (h : Standard v) : v.dump = .ok v.pretty := by
  unfold dump
  rw [h.nonFinite?_eq_none]

end Json

end JsonTemplate
