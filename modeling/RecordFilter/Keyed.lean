/-!
# Entries under text keys

Lists of entries in increasing order of their keys, one entry a key. JSON objects and the
collections of a store are such lists.

* `Keyed.get?` reads the entry under a key, `Keyed.put` sets it, `Keyed.remove` drops it.
* `Keyed.replace` sets only what is there, `Keyed.ensure` only what is missing.
* `get?_put_self`, `get?_put_of_ne`, `get?_remove`, `get?_replace` and `get?_ensure` say what a change does
  to the entries read back.
-/

namespace RecordFilter

/-- Entries under text keys. `Keyed.put` keeps the keys in increasing code point order. -/
abbrev Keyed (α : Type) := List (String × α)

namespace Keyed

variable {α : Type}

/-- The entry under `key`, if there is one. -/
def get? (key : String) : Keyed α → Option α
  | [] => none
  | (k, v) :: rest => if k = key then some v else get? key rest

/-- Sets the entry under `key`, at its place in the order when it is new. -/
def put (key : String) (value : α) : Keyed α → Keyed α
  | [] => [(key, value)]
  | (k, v) :: rest =>
    if k = key then (key, value) :: rest
    else if key < k then (key, value) :: (k, v) :: rest
    else (k, v) :: put key value rest

/-- Sets the entry under `key` in its place. Nothing happens when there is none. -/
def replace (key : String) (value : α) : Keyed α → Keyed α
  | [] => []
  | (k, v) :: rest => if k = key then (key, value) :: rest else (k, v) :: replace key value rest

/-- Sets the entry under `key` when there is none. -/
def ensure (key : String) (value : α) (m : Keyed α) : Keyed α :=
  if (get? key m).isSome then m else put key value m

/-- Drops what stands under `key`. -/
def remove (key : String) : Keyed α → Keyed α
  | [] => []
  | (k, v) :: rest => if k = key then remove key rest else (k, v) :: remove key rest

/-- The keys, in the order of the entries. -/
def keys (entries : Keyed α) : List String :=
  entries.map Prod.fst

/-- Puts entries one after the other, so that the last of those under one key stays. -/
def putAll (base : Keyed α) (entries : List (String × α)) : Keyed α :=
  entries.foldl (fun m e => put e.1 e.2 m) base

/-! ## What a change does to the entries read back -/

@[simp] theorem get?_nil (key : String) : get? key ([] : Keyed α) = none := rfl

@[simp] theorem get?_put_self (key : String) (value : α) (m : Keyed α) :
    get? key (put key value m) = some value := by
  induction m with
  | nil => simp [put, get?]
  | cons e rest ih =>
    obtain ⟨k, v⟩ := e
    simp only [put]
    split
    · simp [get?]
    · split
      · simp [get?]
      · rename_i hne _
        simp [get?, hne, ih]

theorem get?_put_of_ne {key other : String} (h : other ≠ key) (value : α) (m : Keyed α) :
    get? other (put key value m) = get? other m := by
  induction m with
  | nil => simp [put, get?, Ne.symm h]
  | cons e rest ih =>
    obtain ⟨k, v⟩ := e
    simp only [put]
    split
    · rename_i hk
      subst hk
      simp [get?, Ne.symm h]
    · split
      · simp [get?, Ne.symm h]
      · simp only [get?, ih]

theorem get?_remove (key other : String) (m : Keyed α) :
    get? other (remove key m) = if other = key then none else get? other m := by
  induction m with
  | nil => simp [remove]
  | cons e rest ih =>
    obtain ⟨k, v⟩ := e
    simp only [remove]
    split
    · rename_i hk
      subst hk
      rw [ih]
      by_cases h : other = k
      · simp [h]
      · simp [h, get?, Ne.symm h]
    · rename_i hk
      simp only [get?, ih]
      by_cases h : other = key
      · subst h
        simp [hk]
      · simp [h]

theorem get?_replace (key other : String) (value : α) (m : Keyed α) :
    get? other (replace key value m) =
      if other = key then (get? key m).map fun _ => value else get? other m := by
  induction m with
  | nil => simp [replace]
  | cons e rest ih =>
    obtain ⟨k, v⟩ := e
    simp only [replace]
    split
    · rename_i hk
      subst hk
      by_cases h : other = k
      · simp [h, get?]
      · simp [h, get?, Ne.symm h]
    · rename_i hk
      simp only [get?, ih, if_neg hk]
      by_cases h : other = key
      · simp [h, hk]
      · simp [h]

/-- Setting an entry to what it is changes nothing. -/
theorem replace_eq_self {key : String} {value : α} {m : Keyed α} (h : get? key m = some value) :
    replace key value m = m := by
  induction m with
  | nil => rfl
  | cons e rest ih =>
    obtain ⟨k, v⟩ := e
    simp only [get?] at h
    simp only [replace]
    split
    · rename_i hk
      rw [if_pos hk] at h
      rw [hk, Option.some.inj h]
    · rename_i hk
      rw [if_neg hk] at h
      rw [ih h]

theorem ensure_of_get?_eq_some {key : String} {old : α} {m : Keyed α} (h : get? key m = some old)
    (value : α) : ensure key value m = m := by
  simp [ensure, h]

theorem get?_ensure (key other : String) (value : α) (m : Keyed α) :
    get? other (ensure key value m) =
      if other = key then some ((get? key m).getD value) else get? other m := by
  rw [ensure]
  split
  · rename_i h
    obtain ⟨old, hold⟩ := Option.isSome_iff_exists.mp h
    by_cases hkey : other = key
    · simp [hkey, hold]
    · simp [hkey]
  · rename_i h
    have hnone : get? key m = none := by simpa using h
    by_cases hkey : other = key
    · simp [hkey, hnone]
    · simp [hkey, get?_put_of_ne hkey]

end Keyed

end RecordFilter
