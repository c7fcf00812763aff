import RecordFilter.Keyed

/-!
# Laws of entries under text keys

* `put_put_self` and `put_comm`: the last value put under a key counts, and the order in which different
  keys are put does not. `replace_replace` and `replace_comm` say the same of setting what is there, and
  `put_replace`, `ensure_replace` and `ensure_comm` of the changes together.
* `Keyed.Ordered` says that keys increase; all changes keep it.
* `putAll_put`: to put changes that were collected is to put them as they came.
* `get?_putAll`: what is read back after many entries were put.
-/

namespace RecordFilter.Keyed

variable {α : Type}

/-! ## Putting and setting twice -/

@[simp] theorem put_put_self (key : String) (v w : α) (m : Keyed α) :
    put key v (put key w m) = put key v m := by
  -- the second entry stops where the first one did, at the same key or before a greater one
  induction m with
  | nil => simp [put]
  | cons e rest ih =>
    obtain ⟨k, x⟩ := e
    rw [put]
    split
    · rename_i hk
      rw [put, if_pos rfl, put, if_pos hk]
    · rename_i hk
      split
      · rename_i hlt
        rw [put, if_pos rfl, put, if_neg hk, if_pos hlt]
      · rename_i hlt
        rw [put, if_neg hk, if_neg hlt, ih, put, if_neg hk, if_neg hlt]

/-- The smaller one of two keys is put at the same place before and after the greater one. -/
theorem put_comm_of_lt {k l : String} (h : k < l) (v w : α) (m : Keyed α) :
    put k v (put l w m) = put l w (put k v m) := by
  have hkl : k ≠ l := String.ne_of_lt h
  have hlk : ¬l < k := String.lt_asymm h
  induction m with
  | nil => simp [put, h, hkl, hkl.symm, hlk]
  | cons e rest ih =>
    obtain ⟨a, x⟩ := e
    by_cases hak : a = k
    · subst hak
      simp [put, hkl, hlk]
    · by_cases hlt : k < a
      · -- the smaller key is new here, and stays in front of the greater one
        by_cases hal : a = l
        · subst hal
          simp [put, hak, hkl, hlt, hlk]
        · by_cases hla : l < a
          · simp [put, hak, hal, hkl, hkl.symm, hlt, hla, h, hlk]
          · simp [put, hak, hal, hkl, hlt, hla, hlk]
      · -- the smaller key belongs further back, and so does the greater one
        have hal : a ≠ l := fun heq => hlt (heq ▸ h)
        have hla : ¬l < a := fun hla => hlt (String.lt_trans h hla)
        simp [put, hak, hal, hlt, hla, ih]

/-- Entries under different keys are put in any order. -/
theorem put_comm {k l : String} (h : k ≠ l) (v w : α) (m : Keyed α) :
    put k v (put l w m) = put l w (put k v m) := by
  rcases String.le_total k l with hle | hle
  · exact put_comm_of_lt (Std.lt_of_le_of_ne hle h) v w m
  · exact (put_comm_of_lt (Std.lt_of_le_of_ne hle h.symm) w v m).symm

/-- Only the last of two settings counts. -/
@[simp] theorem replace_replace (key : String) (v w : α) (m : Keyed α) :
    replace key v (replace key w m) = replace key v m := by
  induction m with
  | nil => rfl
  | cons e rest ih =>
    obtain ⟨k, x⟩ := e
    rw [replace]
    split
    · rename_i hk
      rw [replace, if_pos rfl, replace, if_pos hk]
    · rename_i hk
      rw [replace, if_neg hk, ih, replace, if_neg hk]

/-- Entries under different keys are set in any order. -/
theorem replace_comm {k l : String} (h : k ≠ l) (v w : α) (m : Keyed α) :
    replace k v (replace l w m) = replace l w (replace k v m) := by
  induction m with
  | nil => rfl
  | cons e rest ih =>
    obtain ⟨a, x⟩ := e
    by_cases hk : a = k
    · subst hk
      simp [replace, h]
    · by_cases hl : a = l
      · subst hl
        simp [replace, hk]
      · simp [replace, hk, hl, ih]

/-- An entry is put before or after another one is set in its place. -/
theorem put_replace {k l : String} (h : k ≠ l) (v w : α) (m : Keyed α) :
    put k v (replace l w m) = replace l w (put k v m) := by
  -- along the entries, the place of the new key does not depend on what the others hold
  induction m with
  | nil => simp [put, replace, h]
  | cons e rest ih =>
    obtain ⟨a, x⟩ := e
    by_cases hl : a = l
    · subst hl
      by_cases hlt : k < a
      · simp [put, replace, h, h.symm, hlt]
      · simp [put, replace, h.symm, hlt]
    · by_cases hk : a = k
      · subst hk
        simp [put, replace, h]
      · by_cases hlt : k < a
        · simp [put, replace, h, hk, hl, hlt]
        · simp [put, replace, hk, hl, hlt, ih]

/-- So it is where it is put only if it is missing. -/
theorem ensure_replace {k l : String} (h : k ≠ l) (v w : α) (m : Keyed α) :
    ensure k v (replace l w m) = replace l w (ensure k v m) := by
  rw [ensure, ensure, get?_replace, if_neg h, put_replace h]
  split
  · rfl
  · rfl

theorem ensure_comm {k l : String} (h : k ≠ l) (v w : α) (m : Keyed α) :
    ensure k v (ensure l w m) = ensure l w (ensure k v m) := by
  have hkl : get? k (ensure l w m) = get? k m := by rw [get?_ensure, if_neg h]
  have hlk : get? l (ensure k v m) = get? l m := by rw [get?_ensure, if_neg h.symm]
  rw [ensure, hkl, ensure, ensure, hlk, ensure]
  cases (get? k m).isSome with
  | true => rfl
  | false =>
    cases (get? l m).isSome with
    | true => rfl
    | false => exact put_comm h v w m

theorem get?_replace_self {key : String} {old : α} {m : Keyed α} (h : get? key m = some old) (v : α) :
    get? key (replace key v m) = some v := by
  rw [get?_replace, if_pos rfl, h, Option.map_some]

/-- What stays are the entries under other keys. -/
theorem remove_eq_filter (key : String) (m : Keyed α) :
    remove key m = m.filter fun e => e.1 ≠ key := by
  induction m with
  | nil => rfl
  | cons e rest ih =>
    obtain ⟨k, x⟩ := e
    rw [remove]
    split
    · rename_i hk
      rw [List.filter_cons_of_neg (by simp [hk]), ih]
    · rename_i hk
      rw [List.filter_cons_of_pos (by simp [hk]), ih]

theorem ne_of_mem_remove {key : String} {m : Keyed α} {e : String × α} (h : e ∈ remove key m) :
    e.1 ≠ key := by
  rw [remove_eq_filter, List.mem_filter] at h
  simpa using h.2

/-! ## Putting many -/

@[simp] theorem putAll_cons (base : Keyed α) (e : String × α) (entries : List (String × α)) :
    putAll base (e :: entries) = putAll (put e.1 e.2 base) entries := rfl

/-- An entry that is not put again may be put last. -/
theorem putAll_put_of_not_mem {key : String} {entries : List (String × α)}
    (h : ∀ e ∈ entries, e.1 ≠ key) (v : α) (base : Keyed α) :
    putAll (put key v base) entries = put key v (putAll base entries) := by
  induction entries generalizing base with
  | nil => rfl
  | cons e entries ih =>
    rw [putAll_cons, putAll_cons, put_comm (h e List.mem_cons_self),
      ih fun d hd => h d (List.mem_cons_of_mem _ hd)]

/-- Keys increase from entry to entry. -/
def Ordered (m : Keyed α) : Prop :=
  m.Pairwise fun a b => a.1 < b.1

theorem lt_of_ordered_append {m rest : Keyed α} {e : String × α} (h : Ordered (m ++ e :: rest)) :
    ∀ d ∈ m, d.1 < e.1 :=
  fun d hd => (List.pairwise_append.mp h).2.2 d hd e List.mem_cons_self

theorem mem_put {key : String} {v : α} {m : Keyed α} {e : String × α} (h : e ∈ put key v m) :
    e = (key, v) ∨ e ∈ m := by
  -- a new entry comes to the old ones or takes the place of one of them
  induction m with
  | nil =>
    rw [put, List.mem_singleton] at h
    exact Or.inl h
  | cons d rest ih =>
    obtain ⟨k, x⟩ := d
    rw [put] at h
    split at h
    · rcases List.mem_cons.mp h with h | h
      · exact Or.inl h
      · exact Or.inr (List.mem_cons_of_mem _ h)
    · split at h
      · exact List.mem_cons.mp h
      · rcases List.mem_cons.mp h with h | h
        · exact Or.inr (by rw [h]; exact List.mem_cons_self)
        · rcases ih h with h | h
          · exact Or.inl h
          · exact Or.inr (List.mem_cons_of_mem _ h)

theorem Ordered.put {m : Keyed α} (h : Ordered m) (key : String) (v : α) :
    Ordered (put key v m) := by
  induction m with
  | nil => exact List.pairwise_singleton _ _
  | cons e rest ih =>
    obtain ⟨k, x⟩ := e
    obtain ⟨hhead, hrest⟩ := List.pairwise_cons.mp h
    rw [Keyed.put]
    split
    · rename_i hk
      subst hk
      exact List.pairwise_cons.mpr ⟨hhead, hrest⟩
    · rename_i hk
      split
      · rename_i hlt
        refine List.pairwise_cons.mpr ⟨?_, h⟩
        intro d hd
        rcases List.mem_cons.mp hd with rfl | hd
        · exact hlt
        · exact String.lt_trans hlt (hhead d hd)
      · rename_i hlt
        -- the key belongs behind the head, which stays the least
        refine List.pairwise_cons.mpr ⟨?_, ih hrest⟩
        intro d hd
        rcases mem_put hd with rfl | hd
        · exact Std.lt_of_le_of_ne (String.not_lt.mp hlt) hk
        · exact hhead d hd

/-- A key that is greater than all others is put at the end. -/
theorem put_of_forall_lt {key : String} {m : Keyed α} (h : ∀ e ∈ m, e.1 < key) (v : α) :
    put key v m = m ++ [(key, v)] := by
  induction m with
  | nil => rfl
  | cons e rest ih =>
    obtain ⟨k, x⟩ := e
    have hlt : k < key := h (k, x) List.mem_cons_self
    rw [put, if_neg (String.ne_of_lt hlt), if_neg (String.lt_asymm hlt), List.cons_append,
      ih fun d hd => h d (List.mem_cons_of_mem _ hd)]

theorem remove_sublist (key : String) (m : Keyed α) : (remove key m).Sublist m := by
  rw [remove_eq_filter]
  exact List.filter_sublist

theorem Ordered.remove {m : Keyed α} (h : Ordered m) (key : String) : Ordered (remove key m) :=
  h.sublist (remove_sublist key m)

theorem keys_replace (key : String) (v : α) (m : Keyed α) : keys (replace key v m) = keys m := by
  induction m with
  | nil => rfl
  | cons e rest ih =>
    obtain ⟨k, x⟩ := e
    rw [replace]
    split
    · rename_i hk
      rw [hk]
      rfl
    · exact congrArg (k :: ·) ih

theorem ordered_iff_keys (m : Keyed α) : Ordered m ↔ (keys m).Pairwise (· < ·) := by
  rw [Ordered, keys, List.pairwise_map]

theorem Ordered.replace {m : Keyed α} (h : Ordered m) (key : String) (v : α) :
    Ordered (replace key v m) := by
  rw [ordered_iff_keys, keys_replace]
  exact (ordered_iff_keys m).mp h

theorem mem_replace {key : String} {v : α} {m : Keyed α} {e : String × α}
    (h : e ∈ replace key v m) : e = (key, v) ∨ e ∈ m := by
  induction m with
  | nil => cases h
  | cons d rest ih =>
    obtain ⟨k, x⟩ := d
    rw [Keyed.replace] at h
    split at h
    · rcases List.mem_cons.mp h with h | h
      · exact Or.inl h
      · exact Or.inr (List.mem_cons_of_mem _ h)
    · rcases List.mem_cons.mp h with h | h
      · exact Or.inr (by rw [h]; exact List.mem_cons_self)
      · rcases ih h with h | h
        · exact Or.inl h
        · exact Or.inr (List.mem_cons_of_mem _ h)

theorem Ordered.ensure {m : Keyed α} (h : Ordered m) (key : String) (v : α) :
    Ordered (ensure key v m) := by
  rw [Keyed.ensure]
  split
  · exact h
  · exact h.put key v

theorem mem_ensure {key : String} {v : α} {m : Keyed α} {e : String × α}
    (h : e ∈ ensure key v m) : e = (key, v) ∨ e ∈ m := by
  rw [Keyed.ensure] at h
  split at h
  · exact Or.inr h
  · exact mem_put h

theorem mem_of_get?_eq_some {key : String} {v : α} {m : Keyed α} (h : get? key m = some v) :
    (key, v) ∈ m := by
  induction m with
  | nil => cases h
  | cons e rest ih =>
    obtain ⟨k, x⟩ := e
    rw [get?] at h
    split at h
    · rename_i hk
      cases h
      rw [hk]
      exact List.mem_cons_self
    · exact List.mem_cons_of_mem _ (ih h)

theorem mem_keys_iff {key : String} {m : Keyed α} : key ∈ keys m ↔ (get? key m).isSome = true := by
  induction m with
  | nil => simp [keys]
  | cons e rest ih =>
    obtain ⟨k, v⟩ := e
    rw [keys, List.map_cons, List.mem_cons, ← keys, ih, get?]
    by_cases hk : k = key
    · simp [hk]
    · simp [hk, Ne.symm hk]

/-- What is put shows, and where nothing is put what was there before. -/
theorem get?_putAll {entries : Keyed α} (h : Ordered entries) (key : String) (base : Keyed α) :
    get? key (putAll base entries) = (get? key entries).or (get? key base) := by
  induction entries generalizing base with
  | nil => rfl
  | cons e rest ih =>
    obtain ⟨k, v⟩ := e
    obtain ⟨hhead, hrest⟩ := List.pairwise_cons.mp h
    rw [putAll_cons, ih hrest, get?]
    by_cases hk : k = key
    · subst hk
      -- the key is the least one, and is not put again
      have hnew : get? k rest = none := Option.eq_none_iff_forall_ne_some.mpr fun w hw =>
        String.ne_of_lt (hhead (k, w) (mem_of_get?_eq_some hw)) rfl
      rw [if_pos rfl, hnew, get?_put_self, Option.none_or, Option.some_or]
    · rw [if_neg hk, get?_put_of_ne (Ne.symm hk)]

/-- To put a change that joins others is to put the others first and then this one. -/
theorem putAll_put {entries : Keyed α} (h : Ordered entries) (key : String) (v : α)
    (base : Keyed α) : putAll base (put key v entries) = put key v (putAll base entries) := by
  induction entries generalizing base with
  | nil => rfl
  | cons e rest ih =>
    obtain ⟨k, x⟩ := e
    obtain ⟨hhead, hrest⟩ := List.pairwise_cons.mp h
    have hne (d : String × α) (hd : d ∈ rest) : d.1 ≠ k := (String.ne_of_lt (hhead d hd)).symm
    rw [put]
    split
    · rename_i hk
      subst hk
      -- the head is put under this key already, and nothing after it is
      rw [putAll_cons, putAll_cons, putAll_put_of_not_mem hne, putAll_put_of_not_mem hne,
        put_put_self]
    · split
      · -- the key is less than all that are put
        rename_i hlt
        refine putAll_put_of_not_mem ?_ v base
        intro d hd
        rcases List.mem_cons.mp hd with rfl | hd
        · exact (String.ne_of_lt hlt).symm
        · exact (String.ne_of_lt (String.lt_trans hlt (hhead d hd))).symm
      · rw [putAll_cons, putAll_cons, ih hrest]

end RecordFilter.Keyed
