import JsonTemplate.Expression.Parser

/-!
# Balanced paths

`Balanced` is the grammar of the texts that may stand between brackets, or outside all of them: it
derives quotes and bracketed parts as a whole, so a `|` is only derived inside of them. Reading a
path from left to right accepts exactly the texts that the grammar derives.
-/

namespace JsonTemplate.Expression

def isQuote (c : Char) : Bool :=
  c = '\'' || c = '"'

inductive Balanced : Option Char → List Char → Prop where
  | nil {closer : Option Char} : Balanced closer []
  | plain {closer : Option Char} {c : Char} {s : List Char} :
      isQuote c = false → closerOf? c = none → closer ≠ some c → (c = '|' → closer ≠ none) →
        Balanced closer s → Balanced closer (c :: s)
  | quoted {closer : Option Char} {q : Char} {body s : List Char} :
      isQuote q = true → q ∉ body → Balanced closer s → Balanced closer (q :: (body ++ q :: s))
  | bracketed {closer : Option Char} {c d : Char} {body s : List Char} :
      closerOf? c = some d → Balanced (some d) body → Balanced closer s →
        Balanced closer (c :: (body ++ d :: s))

/-- A text that closes the brackets that are due, innermost first, and is balanced in between. -/
inductive Closes : List Char → List Char → Prop where
  | done {s : List Char} : Balanced none s → Closes [] s
  | close {d : Char} {due body s : List Char} :
      Balanced (some d) body → Closes due s → Closes (d :: due) (body ++ d :: s)

theorem Closes.prepend {due s t : List Char} (h : Closes due s)
    (ht : ∀ body, Balanced due.head? body → Balanced due.head? (t ++ body)) :
    Closes due (t ++ s) := by
  cases h with
  | done hs => exact .done (ht _ hs)
  | close hbody hs =>
    rw [← List.append_assoc]
    exact .close (ht _ hbody) hs

theorem closerOf?_eq_some {c d : Char} (h : closerOf? c = some d) :
    c = '[' ∧ d = ']' ∨ c = '(' ∧ d = ')' := by
  unfold closerOf? at h
  split at h
  · next hc => exact .inl ⟨hc, (Option.some.inj h).symm⟩
  · split at h
    · next hc => exact .inr ⟨hc, (Option.some.inj h).symm⟩
    · cases h

/-- What a text has to be for the reading to end well, inside a quote or not. -/
def Completes (quote : Option Char) (due s : List Char) : Prop :=
  match quote with
  | none => Closes due s
  | some q => ∃ body rest, s = body ++ q :: rest ∧ q ∉ body ∧ Closes due rest

/-- The induction is on the reading; what is due when a character is read says how the part that
starts with it is derived. -/
theorem completes_of_checkBalance {quote : Option Char} {due s : List Char}
    (h : checkBalance quote due s = .ok ()) : Completes quote due s := by
  fun_induction checkBalance quote due s with
  | case1 quote due hdone =>
    cases quote with
    | some q => cases hdone
    | none =>
      cases due with
      | cons d due => cases hdone
      | nil => exact .done .nil
  | case2 => cases h
  | case3 due c s q ih =>
    by_cases hc : c = q
    · rw [if_pos hc] at ih h
      exact ⟨[], s, by rw [hc]; rfl, List.not_mem_nil, ih h⟩
    · rw [if_neg hc] at ih h
      obtain ⟨body, rest, hs, hbody, hrest⟩ := ih h
      refine ⟨c :: body, rest, by rw [hs]; rfl, ?_, hrest⟩
      intro hq
      rcases List.mem_cons.mp hq with hq | hq
      · exact hc hq.symm
      · exact hbody hq
  | case4 due c s hquote ih =>
    obtain ⟨body, rest, hs, hbody, hrest⟩ := ih h
    rw [hs]
    change Closes due (c :: (body ++ c :: rest))
    have hpart := hrest.prepend (t := c :: (body ++ [c])) fun s hb => by
      simpa using hb.quoted hquote hbody
    simpa using hpart
  | case5 due c s hquote closer hcloser ih =>
    cases ih h with
    | close hbody hrest =>
      next body rest =>
      change Closes due (c :: (body ++ closer :: rest))
      have hpart := hrest.prepend (t := c :: (body ++ [closer])) fun s hb => by
        simpa using Balanced.bracketed hcloser hbody hb
      simpa using hpart
  | case6 due c s hquote hcloser hdue ih =>
    cases due with
    | nil => cases hdue
    | cons d due =>
      cases hdue
      exact .close .nil (ih h)
  | case7 => cases h
  | case8 due c s hquote hcloser hdue hbar ih =>
    refine (ih h).prepend (t := [c]) fun s hb => ?_
    refine hb.plain (Bool.eq_false_iff.mpr hquote) hcloser hdue ?_
    rintro rfl hnone
    exact hbar (by simpa using hnone)

theorem checkBalance_quoted {q : Char} {body : List Char} (h : q ∉ body) (due rest : List Char) :
    checkBalance (some q) due (body ++ q :: rest) = checkBalance none due rest := by
  induction body with
  | nil => rw [List.nil_append, checkBalance, if_pos rfl]
  | cons c body ih =>
    have hc : c ≠ q := fun hc => h (hc ▸ List.mem_cons_self)
    rw [List.cons_append, checkBalance, if_neg hc]
    exact ih fun hq => h (List.mem_cons_of_mem c hq)

theorem checkBalance_closer {c d : Char} (h : closerOf? c = some d) (due rest : List Char) :
    checkBalance none (d :: due) (d :: rest) = checkBalance none due rest := by
  rcases closerOf?_eq_some h with ⟨-, rfl⟩ | ⟨-, rfl⟩ <;> rfl

/-- A balanced part leaves the reading as it was before. -/
theorem checkBalance_append {closer : Option Char} {body : List Char} (h : Balanced closer body)
    {due : List Char} (hdue : due.head? = closer) (rest : List Char) :
    checkBalance none due (body ++ rest) = checkBalance none due rest := by
  induction h generalizing due rest with
  | nil => rfl
  | @plain closer c s hquote hcloser hc hbar _ ih =>
    have hbar' : ¬(decide (c = '|') && due.isEmpty) = true := by
      intro h
      have h' := Bool.and_eq_true_iff.mp h
      apply hbar (of_decide_eq_true h'.1)
      rw [← hdue, List.isEmpty_iff.mp h'.2]
      rfl
    rw [List.cons_append, checkBalance]
    unfold isQuote at hquote
    simp only [hquote, hcloser, hdue, hc, hbar', Bool.false_eq_true, if_false]
    exact ih hdue rest
  | @quoted closer q body s hquote hbody _ ih =>
    rw [List.cons_append, List.append_assoc, List.cons_append, checkBalance]
    unfold isQuote at hquote
    simp only [hquote, if_true]
    rw [checkBalance_quoted hbody, ih hdue]
  | @bracketed closer c d body s hcloser _ _ ihbody ih =>
    have hquote : (decide (c = '\'') || decide (c = '"')) = false := by
      rcases closerOf?_eq_some hcloser with ⟨rfl, -⟩ | ⟨rfl, -⟩ <;> rfl
    rw [List.cons_append, List.append_assoc, List.cons_append, checkBalance]
    simp only [hquote, hcloser, Bool.false_eq_true, if_false]
    rw [ihbody rfl, checkBalance_closer hcloser, ih hdue]

theorem checkBalance_iff {s : List Char} : checkBalance none [] s = .ok () ↔ Balanced none s := by
  constructor
  · intro h
    cases completes_of_checkBalance h with
    | done hs => exact hs
  · intro h
    have happend : checkBalance none [] (s ++ []) = checkBalance none [] [] :=
      checkBalance_append h rfl []
    rw [List.append_nil] at happend
    exact happend

def isMark (c : Char) : Bool :=
  isQuote c || c = '[' || c = ']' || c = '(' || c = ')'

theorem isMark_of_closerOf? {c d : Char} (h : closerOf? c = some d) :
    isMark c = true ∧ isMark d = true := by
  rcases closerOf?_eq_some h with ⟨rfl, rfl⟩ | ⟨rfl, rfl⟩ <;> exact ⟨rfl, rfl⟩

theorem isMark_of_isQuote {c : Char} (h : isQuote c = true) : isMark c = true := by
  unfold isMark
  rw [h]
  rfl

def Opened (quote : Option Char) (due : List Char) : Prop :=
  (∀ q ∈ quote, isMark q = true) ∧ ∀ d ∈ due, isMark d = true

theorem Opened.enter {due : List Char} (h : Opened none due) {q : Char} (hq : isQuote q = true) :
    Opened (some q) due :=
  ⟨fun _ hc => Option.mem_some.mp hc ▸ isMark_of_isQuote hq, h.2⟩

theorem Opened.leave {quote : Option Char} {due : List Char} (h : Opened quote due) :
    Opened none due :=
  ⟨fun _ hq => (Option.not_mem_none _ hq).elim, h.2⟩

theorem Opened.cons {due : List Char} (h : Opened none due) {c d : Char}
    (hd : closerOf? c = some d) : Opened none (d :: due) :=
  ⟨h.1, List.forall_mem_cons.mpr ⟨(isMark_of_closerOf? hd).2, h.2⟩⟩

theorem Opened.tail {due : List Char} (h : Opened none due) : Opened none due.tail :=
  ⟨h.1, fun d hd => h.2 d (List.mem_of_mem_tail hd)⟩

theorem eq_nil_of_checkBalance_unmarked {quote : Option Char} {due s : List Char}
    (ho : Opened quote due) (hs : ∀ c ∈ s, isMark c = false)
    (h : checkBalance quote due s = .ok ()) : quote = none ∧ due = [] := by
  fun_induction checkBalance quote due s with
  | case1 quote due hdone =>
    rw [Bool.and_eq_true] at hdone
    exact ⟨Option.isNone_iff_eq_none.mp hdone.1, List.isEmpty_iff.mp hdone.2⟩
  | case2 => cases h
  | case3 due c s q ih =>
    have hc : c ≠ q := by
      rintro rfl
      have hq := ho.1 c rfl
      rw [hs c List.mem_cons_self] at hq
      cases hq
    rw [if_neg hc] at ih h
    exact ih ho (fun d hd => hs d (List.mem_cons_of_mem c hd)) h
  | case4 due c s hquote ih =>
    have hc := isMark_of_isQuote hquote
    rw [hs c List.mem_cons_self] at hc
    cases hc
  | case5 due c s hquote closer hcloser ih =>
    have hc := (isMark_of_closerOf? hcloser).1
    rw [hs c List.mem_cons_self] at hc
    cases hc
  | case6 due c s hquote hcloser hdue ih =>
    have hc := ho.2 c (List.mem_of_head? hdue)
    rw [hs c List.mem_cons_self] at hc
    cases hc
  | case7 => cases h
  | case8 due c s hquote hcloser hdue hbar ih =>
    exact ih ho (fun d hd => hs d (List.mem_cons_of_mem c hd)) h

/-- Before the `|` something may be open, but nothing after it can close it. -/
theorem checkBalance_bar_ne_ok {t : List Char} (ht : ∀ c ∈ t, isMark c = false) (s : List Char)
    {quote : Option Char} {due : List Char} (ho : Opened quote due) :
    checkBalance quote due (s ++ '|' :: t) ≠ .ok () := by
  induction s generalizing quote due with
  | nil =>
    have hbar : ∀ c ∈ '|' :: t, isMark c = false := List.forall_mem_cons.mpr ⟨rfl, ht⟩
    intro h
    obtain ⟨rfl, rfl⟩ := eq_nil_of_checkBalance_unmarked ho hbar h
    cases h
  | cons c s ih =>
    cases quote with
    | some q =>
      rw [List.cons_append, checkBalance]
      split
      · exact ih ho.leave
      · exact ih ho
    | none =>
      rw [List.cons_append, checkBalance]
      split
      · next hquote => exact ih (ho.enter hquote)
      · split
        · next closer hcloser => exact ih (ho.cons hcloser)
        · split
          · exact ih ho.tail
          · split
            · intro h
              cases h
            · exact ih ho

end JsonTemplate.Expression
