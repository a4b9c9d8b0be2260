import JsonTemplate.Assoc
import Mathlib.Data.List.Induction

/-!
# Putting entries one after the other

`ofEntries` keeps the keys of its entries in the order in which they first came, without
repetition, and with each key the value that came last. Putting all entries of such a list is the
same as putting the entries that it was made of, so lists that were put together part by part are
the same as lists that were put together at once.
-/

namespace JsonTemplate.Assoc

variable {κ α : Type _}

@[simp] theorem keys_cons (e : κ × α) (m : List (κ × α)) : keys (e :: m) = e.1 :: keys m := rfl

variable [DecidableEq κ]

theorem mem_of_get? {k : κ} {v : α} {m : List (κ × α)} (h : get? k m = some v) : (k, v) ∈ m := by
  induction m with
  | nil => cases h
  | cons e m ih =>
    by_cases hk : e.1 = k
    · obtain rfl : e.2 = v := by simpa [get?, hk] using h
      exact hk ▸ List.mem_cons_self
    · exact List.mem_cons_of_mem e (ih (by simpa [get?, hk] using h))

theorem isSome_get?_iff {k : κ} {m : List (κ × α)} : (get? k m).isSome = true ↔ k ∈ keys m := by
  rw [Option.isSome_iff_ne_none, Ne, get?_eq_none_iff, not_not]

theorem get?_of_mem {k : κ} {v : α} {m : List (κ × α)} (hm : (keys m).Nodup) (h : (k, v) ∈ m) :
    get? k m = some v := by
  induction m with
  | nil => cases h
  | cons e m ih =>
    rw [keys_cons, List.nodup_cons] at hm
    obtain rfl | h := List.mem_cons.mp h
    · simp [get?]
    · have hk : k ∈ keys m := List.mem_map.mpr ⟨(k, v), h, rfl⟩
      have hne : e.1 ≠ k := fun heq => hm.1 (heq ▸ hk)
      simp [get?, hne, ih hm.2 h]

theorem put_of_not_mem {k : κ} {m : List (κ × α)} (h : k ∉ keys m) (v : α) :
    put k v m = m ++ [(k, v)] := by
  induction m with
  | nil => rfl
  | cons e m ih =>
    rw [keys_cons, List.mem_cons, not_or] at h
    simp [put, Ne.symm h.1, ih h.2]

theorem put_of_get? {k : κ} {v : α} {m : List (κ × α)} (h : get? k m = some v) :
    put k v m = m := by
  induction m with
  | nil => cases h
  | cons e m ih =>
    by_cases hk : e.1 = k
    · subst hk
      obtain rfl : e.2 = v := by simpa [get?] using h
      simp [put]
    · simp [put, hk, ih (by simpa [get?, hk] using h)]

theorem mem_of_mem_put {k : κ} {v : α} {m : List (κ × α)} {e : κ × α} (h : e ∈ put k v m) :
    e = (k, v) ∨ e ∈ m := by
  induction m with
  | nil => simpa [put] using h
  | cons e' m ih =>
    by_cases hk : e'.1 = k
    · simp only [put, hk, if_true, List.mem_cons] at h
      exact h.imp_right (List.mem_cons_of_mem e')
    · simp only [put, hk, if_false, List.mem_cons] at h
      obtain rfl | h := h
      · exact .inr List.mem_cons_self
      · exact (ih h).imp_right (List.mem_cons_of_mem e')

theorem nodup_keys_put {m : List (κ × α)} (h : (keys m).Nodup) (k : κ) (v : α) :
    (keys (put k v m)).Nodup := by
  rw [keys_put]
  split
  · exact h
  · next hk => exact List.nodup_append.mpr ⟨h, by simp, by grind⟩

theorem put_put_self (k : κ) (v w : α) (m : List (κ × α)) : put k v (put k w m) = put k v m := by
  induction m with
  | nil => simp [put]
  | cons e m ih => by_cases hk : e.1 = k <;> simp [put, hk, ih]

/-- A key that is already there keeps its place whatever comes after it. -/
theorem put_comm {k k' : κ} {m : List (κ × α)} (hk : k ∈ keys m) (hne : k ≠ k') (v v' : α) :
    put k v (put k' v' m) = put k' v' (put k v m) := by
  induction m with
  | nil => cases hk
  | cons e m ih =>
    by_cases he : e.1 = k
    · simp [put, he, hne]
    · have hm : k ∈ keys m := by simpa [Ne.symm he] using hk
      by_cases he' : e.1 = k' <;> simp [put, he, he', Ne.symm hne, ih hm]

@[simp] theorem putAll_cons (m : List (κ × α)) (e : κ × α) (n : List (κ × α)) :
    putAll m (e :: n) = putAll (put e.1 e.2 m) n := rfl

theorem putAll_append (m n n' : List (κ × α)) : putAll m (n ++ n') = putAll (putAll m n) n' :=
  List.foldl_append

theorem putAll_of_get? {m n : List (κ × α)} (h : ∀ e ∈ n, get? e.1 m = some e.2) :
    putAll m n = m := by
  induction n with
  | nil => rfl
  | cons e n ih =>
    obtain ⟨he, hn⟩ := List.forall_mem_cons.mp h
    rw [putAll_cons, put_of_get? he, ih hn]

theorem get?_putAll {n : List (κ × α)} (hn : (keys n).Nodup) (k : κ) (m : List (κ × α)) :
    get? k (putAll m n) = (get? k n).or (get? k m) := by
  induction n generalizing m with
  | nil => rfl
  | cons e n ih =>
    rw [keys_cons, List.nodup_cons] at hn
    rw [putAll_cons, ih hn.2]
    by_cases he : e.1 = k
    · subst he
      rw [get?_eq_none_iff.mpr hn.1, get?_put_self]
      simp [get?]
    · rw [get?_put_of_ne he]
      simp [get?, he]

theorem mem_keys_putAll {k : κ} {m n : List (κ × α)} :
    k ∈ keys (putAll m n) ↔ k ∈ keys m ∨ k ∈ keys n := by
  induction n generalizing m with
  | nil => simp [putAll, keys]
  | cons e n ih =>
    rw [putAll_cons, ih, keys_put, keys_cons, List.mem_cons]
    split <;> grind

section

variable {β : Type _} {P : α → β → Prop} {m : List (κ × α)} {n : List (κ × β)}

def Rel (P : α → β → Prop) (m : List (κ × α)) (n : List (κ × β)) : Prop :=
  ∀ k, Option.Rel P (get? k m) (get? k n)

theorem Rel.mem_keys_iff (h : Rel P m n) (k : κ) : k ∈ keys m ↔ k ∈ keys n := by
  have hk := h k
  rw [← isSome_get?_iff, ← isSome_get?_iff]
  generalize get? k m = o, get? k n = o' at hk
  cases hk <;> simp

theorem rel_iff : Rel P m n ↔ (∀ k, k ∈ keys m ↔ k ∈ keys n) ∧
    ∀ k a b, get? k m = some a → get? k n = some b → P a b := by
  constructor
  · intro h
    refine ⟨h.mem_keys_iff, fun k a b ha hb => ?_⟩
    have hk := h k
    rw [ha, hb] at hk
    cases hk with
    | some hab => exact hab
  · rintro ⟨hkeys, hvalues⟩ k
    have hk := hkeys k
    rw [← isSome_get?_iff, ← isSome_get?_iff] at hk
    cases ha : get? k m with
    | none =>
      rw [ha] at hk
      rw [Option.not_isSome_iff_eq_none.mp (mt hk.mpr (by simp))]
      exact .none
    | some a =>
      rw [ha] at hk
      obtain ⟨b, hb⟩ := Option.isSome_iff_exists.mp (hk.mp rfl)
      rw [hb]
      exact .some (hvalues k a b ha hb)

theorem Rel.exists_right (h : Rel P m n) (hm : (keys m).Nodup) {e : κ × α} (he : e ∈ m) :
    ∃ b, (e.1, b) ∈ n ∧ P e.2 b := by
  obtain ⟨hkeys, hvalues⟩ := rel_iff.mp h
  have hfound : (get? e.1 n).isSome = true :=
    isSome_get?_iff.mpr ((hkeys e.1).mp (List.mem_map_of_mem he))
  obtain ⟨b, hb⟩ := Option.isSome_iff_exists.mp hfound
  exact ⟨b, mem_of_get? hb, hvalues e.1 e.2 b (get?_of_mem hm he) hb⟩

theorem Rel.exists_left (h : Rel P m n) (hn : (keys n).Nodup) {e : κ × β} (he : e ∈ n) :
    ∃ a, (e.1, a) ∈ m ∧ P a e.2 := by
  obtain ⟨hkeys, hvalues⟩ := rel_iff.mp h
  have hfound : (get? e.1 m).isSome = true :=
    isSome_get?_iff.mpr ((hkeys e.1).mpr (List.mem_map_of_mem he))
  obtain ⟨a, ha⟩ := Option.isSome_iff_exists.mp hfound
  exact ⟨a, mem_of_get? ha, hvalues e.1 a e.2 ha (get?_of_mem hn he)⟩

theorem Rel.put (h : Rel P m n) (k : κ) {a : α} {b : β} (hab : P a b) :
    Rel P (put k a m) (put k b n) := by
  intro k'
  by_cases hk : k = k'
  · subst hk
    rw [get?_put_self, get?_put_self]
    exact .some hab
  · rw [get?_put_of_ne hk, get?_put_of_ne hk]
    exact h k'

end

theorem rel_of_perm {P : α → α → Prop} (hP : ∀ a, P a a) {m n : List (κ × α)} (h : m.Perm n)
    (hm : (keys m).Nodup) : Rel P m n := by
  refine rel_iff.mpr ⟨fun k => (h.map Prod.fst).mem_iff, fun k a b ha hb => ?_⟩
  have hb' : get? k m = some b := get?_of_mem hm (h.mem_iff.mpr (mem_of_get? hb))
  obtain rfl : a = b := Option.some.inj (ha.symm.trans hb')
  exact hP a

theorem Rel.putAll {P : α → α → Prop} (hP : ∀ a, P a a) {m n : List (κ × α)} (h : Rel P m n)
    (es : List (κ × α)) : Rel P (putAll m es) (putAll n es) := by
  induction es generalizing m n with
  | nil => exact h
  | cons e es ih => exact ih (h.put e.1 (hP e.2))

theorem ofEntries_append (es fs : List (κ × α)) :
    ofEntries (es ++ fs) = putAll (ofEntries es) fs :=
  putAll_append [] es fs

theorem ofEntries_concat (es : List (κ × α)) (e : κ × α) :
    ofEntries (es ++ [e]) = put e.1 e.2 (ofEntries es) :=
  ofEntries_append es [e]

theorem putAll_put_of_not_mem {k : κ} {m n : List (κ × α)} (hm : k ∈ keys m) (hn : k ∉ keys n)
    (v : α) : putAll (put k v m) n = put k v (putAll m n) := by
  induction n generalizing m with
  | nil => rfl
  | cons e n ih =>
    rw [keys_cons, List.mem_cons, not_or] at hn
    have hm' : k ∈ keys (put e.1 e.2 m) := by
      rw [keys_put]
      split <;> simp [hm]
    rw [putAll_cons, putAll_cons, ← put_comm hm hn.1, ih hm' hn.2]

/-- The entry that is put last into a list is put last when the list is. -/
theorem putAll_put {n : List (κ × α)} (hn : (keys n).Nodup) (m : List (κ × α)) (k : κ) (v : α) :
    putAll m (put k v n) = put k v (putAll m n) := by
  induction n generalizing m with
  | nil => rfl
  | cons e n ih =>
    rw [keys_cons, List.nodup_cons] at hn
    by_cases he : e.1 = k
    · subst he
      have hself : e.1 ∈ keys (put e.1 e.2 m) := by
        rw [keys_put]
        split <;> simp_all
      calc putAll m (put e.1 v (e :: n))
        _ = putAll (put e.1 v m) n := by simp [put]
        _ = putAll (put e.1 v (put e.1 e.2 m)) n := by rw [put_put_self]
        _ = put e.1 v (putAll m (e :: n)) := putAll_put_of_not_mem hself hn.1 v
    · simp only [put, he, if_false, putAll_cons]
      exact ih hn.2 (put e.1 e.2 m)

theorem keys_ofEntries (es : List (κ × α)) : keys (ofEntries es) = (keys es).eraseDups := by
  induction es using List.reverseRecOn with
  | nil => rfl
  | append_singleton es e ih =>
    have hkeys : keys (es ++ [e]) = keys es ++ [e.1] := List.map_append
    rw [ofEntries_concat, keys_put, ih, hkeys, List.eraseDups_append]
    by_cases he : e.1 ∈ keys es <;> simp [List.removeAll, List.eraseDups_cons, he]

theorem nodup_keys_ofEntries (es : List (κ × α)) : (keys (ofEntries es)).Nodup := by
  induction es using List.reverseRecOn with
  | nil => exact List.nodup_nil
  | append_singleton es e ih =>
    rw [ofEntries_concat]
    exact nodup_keys_put ih e.1 e.2

theorem get?_ofEntries (k : κ) (es : List (κ × α)) :
    get? k (ofEntries es) = (es.reverse.find? (·.1 = k)).map (·.2) := by
  induction es using List.reverseRecOn with
  | nil => rfl
  | append_singleton es e ih =>
    rw [ofEntries_concat, List.reverse_concat]
    by_cases he : e.1 = k
    · subst he
      simp [get?_put_self]
    · simp [get?_put_of_ne he, he, ih]

theorem mem_of_mem_ofEntries {es : List (κ × α)} {e : κ × α} (h : e ∈ ofEntries es) : e ∈ es := by
  induction es using List.reverseRecOn with
  | nil => cases h
  | append_singleton es e' ih =>
    rw [ofEntries_concat] at h
    obtain rfl | h := mem_of_mem_put h
    · simp
    · simp [ih h]

theorem ofEntries_of_nodup {m : List (κ × α)} (h : (keys m).Nodup) : ofEntries m = m := by
  induction m using List.reverseRecOn with
  | nil => rfl
  | append_singleton m e ih =>
    have hkeys : keys (m ++ [e]) = keys m ++ [e.1] := List.map_append
    rw [hkeys, List.nodup_append] at h
    have he : e.1 ∉ keys m := by
      intro hmem
      exact h.2.2 e.1 hmem e.1 (List.mem_singleton_self _) rfl
    rw [ofEntries_concat, ih h.1, put_of_not_mem he]

/-- Entries that were put together before count like the entries themselves. -/
theorem putAll_ofEntries (m es : List (κ × α)) : putAll m (ofEntries es) = putAll m es := by
  induction es using List.reverseRecOn with
  | nil => rfl
  | append_singleton es e ih =>
    rw [ofEntries_concat, putAll_put (nodup_keys_ofEntries es), ih, putAll_append]
    rfl

end JsonTemplate.Assoc
