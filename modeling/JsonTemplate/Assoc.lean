/-!
# Association lists in order of first insertion

`put` replaces the value of a key where it stands and appends a new key at the end, so the keys
keep the order in which they first came. `get?` reads a value back.
-/

namespace JsonTemplate.Assoc

variable {κ α : Type _} [DecidableEq κ]

def get? (k : κ) : List (κ × α) → Option α
  | [] => none
  | (k', v) :: m => if k' = k then some v else get? k m

def put (k : κ) (v : α) : List (κ × α) → List (κ × α)
  | [] => [(k, v)]
  | (k', v') :: m => if k' = k then (k', v) :: m else (k', v') :: put k v m

def putAll (m new : List (κ × α)) : List (κ × α) :=
  new.foldl (fun m e => put e.1 e.2 m) m

/-- The association list of some entries; of a repeated key the first place and the last value
count. -/
def ofEntries (entries : List (κ × α)) : List (κ × α) :=
  putAll [] entries

def keys (m : List (κ × α)) : List κ :=
  m.map (·.1)

@[simp] theorem get?_nil (k : κ) : get? k ([] : List (κ × α)) = none := rfl

theorem get?_put_self (k : κ) (v : α) (m : List (κ × α)) : get? k (put k v m) = some v := by
  induction m with
  | nil => simp [put, get?]
  | cons e m ih => by_cases h : e.1 = k <;> simp [put, get?, h, ih]

theorem get?_put_of_ne {k k' : κ} (h : k ≠ k') (v : α) (m : List (κ × α)) :
    get? k' (put k v m) = get? k' m := by
  induction m with
  | nil => simp [put, get?, h]
  | cons e m ih =>
    by_cases hk : e.1 = k
    · simp [put, get?, hk, h]
    · by_cases hk' : e.1 = k' <;> simp [put, get?, hk, hk', Ne.symm h, ih]

theorem get?_eq_none_iff {k : κ} {m : List (κ × α)} : get? k m = none ↔ k ∉ keys m := by
  induction m with
  | nil => simp [keys]
  | cons e m ih =>
    by_cases h : e.1 = k
    · simp [get?, keys, h]
    · simpa [get?, keys, h, Ne.symm h] using ih

/-- A key that is already there leaves the keys as they are; a new key comes last. -/
theorem keys_put (k : κ) (v : α) (m : List (κ × α)) :
    keys (put k v m) = if k ∈ keys m then keys m else keys m ++ [k] := by
  induction m with
  | nil => simp [put, keys]
  | cons e m ih =>
    by_cases h : e.1 = k
    · simp [put, keys, h]
    · have hk : k ≠ e.1 := Ne.symm h
      simp only [keys] at ih
      by_cases hm : k ∈ m.map (·.1) <;> simp [put, keys, h, hk, ih, hm]

end JsonTemplate.Assoc
