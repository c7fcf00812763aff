import RecordFilter.Store.Basic

/-!
# The first item that passes a test

Operations address a record by a test, and act on the first record of its entity that passes.

* `IsFirst` splits a list at that item.
* `isFirst_of_focus?` and `isFirst_of_findFinIdx?`: the two ways to come to it.
* `IsFirst.focus?`, `IsFirst.find?` and `IsFirst.findFinIdx?` find it.
* `IsFirst.modify`, `IsFirst.erase` and `IsFirst.eraseP`: what is done to it is done between what stands
  before it and after it.
* `modifyFirst` changes the first item. `find?_modifyFirst_self` and `find?_modifyFirst_of_not_passes` tell what
  is found then, `modifyFirst_modifyFirst` and `modifyFirst_comm` what two changes make.
* `foldl_erase_filter`: erasing what passes, item by item.
-/

namespace RecordFilter

variable {α β : Type} {test : α → Bool}

/-! ## The split at the item -/

/-- An item is the first of a list that passes a test. -/
structure IsFirst (test : α → Bool) (l before : List α) (a : α) (after : List α) : Prop where
  eq_append : l = before ++ a :: after
  rejects : ∀ b ∈ before, test b = false
  passes : test a = true

theorem IsFirst.cons {l before after : List α} {a b : α} (h : IsFirst test l before a after)
    (hb : test b = false) : IsFirst test (b :: l) (b :: before) a after where
  eq_append := by rw [h.eq_append, List.cons_append]
  rejects := by
    intro d hd
    rcases List.mem_cons.mp hd with rfl | hd
    · exact hb
    · exact h.rejects d hd
  passes := h.passes

/-- What holds of all items holds of the first one, and of those around it. -/
theorem IsFirst.forall_mem {l before after : List α} {a : α} (h : IsFirst test l before a after)
    {p : α → Prop} (hall : ∀ b ∈ l, p b) : (∀ b ∈ before, p b) ∧ p a ∧ ∀ b ∈ after, p b := by
  rw [h.eq_append, List.forall_mem_append, List.forall_mem_cons] at hall
  exact hall

/-- An item that comes first as what a function makes of it. -/
theorem IsFirst.of_map {f : α → β} {test : β → Bool} {l : List α} {before after : List β} {b : β}
    (h : IsFirst test (l.map f) before b after) :
    ∃ before' a after', IsFirst (fun x => test (f x)) l before' a after' ∧
      before'.map f = before ∧ f a = b ∧ after'.map f = after := by
  obtain ⟨before', rest, rfl, rfl, hrest⟩ := List.map_eq_append_iff.mp h.eq_append
  obtain ⟨a, after', rfl, rfl, rfl⟩ := List.map_eq_cons_iff.mp hrest
  refine ⟨before', a, after', ⟨rfl, ?_, h.passes⟩, rfl, rfl, rfl⟩
  intro x hx
  exact h.rejects (f x) (List.mem_map_of_mem hx)

/-- Putting another item in the place of the first one leaves those around it. -/
theorem isFirst_of_focus? {l : List α} {a : α} {put : α → List α}
    (h : focus? test l = some (a, put)) :
    ∃ before after, IsFirst test l before a after ∧ put = fun b => before ++ b :: after := by
  induction l generalizing a put with
  | nil => cases h
  | cons b l ih =>
    rw [focus?] at h
    split at h
    · rename_i hb
      cases h
      exact ⟨[], l, ⟨rfl, by simp, hb⟩, rfl⟩
    · rename_i hb
      obtain ⟨⟨a', put'⟩, hplace, heq⟩ := Option.map_eq_some_iff.mp h
      cases heq
      -- the item stands further back, and one more that fails stands before it
      obtain ⟨before, after, hfirst, rfl⟩ := ih hplace
      exact ⟨b :: before, after, hfirst.cons (by simpa using hb), rfl⟩

/-- The place of the first item is found. -/
theorem IsFirst.focus? {l before after : List α} {a : α} (h : IsFirst test l before a after) :
    focus? test l = some (a, fun b => before ++ b :: after) := by
  obtain ⟨rfl, hrejects, hpasses⟩ := h
  induction before with
  | nil =>
    rw [List.nil_append, RecordFilter.focus?, if_pos hpasses]
    rfl
  | cons d before ih =>
    have hd : ¬test d = true := by simp [hrejects d List.mem_cons_self]
    rw [List.cons_append, RecordFilter.focus?, if_neg hd,
      ih fun b hb => hrejects b (List.mem_cons_of_mem _ hb)]
    rfl

/-- Taking out the first item leaves those around it. -/
theorem isFirst_of_findFinIdx? {l : List α} {position : Fin l.length}
    (h : l.findFinIdx? test = some position) :
    ∃ before after, IsFirst test l before l[position] after ∧
      l.eraseIdx position = before ++ after := by
  obtain ⟨hpasses, hrejects⟩ := List.findFinIdx?_eq_some_iff.mp h
  refine ⟨l.take position, l.drop (position + 1), ⟨?_, ?_, hpasses⟩, ?_⟩
  · rw [Fin.getElem_fin, ← List.drop_eq_getElem_cons, List.take_append_drop]
  · intro b hb
    obtain ⟨j, hj, rfl⟩ := List.mem_take_iff_getElem.mp hb
    simpa using hrejects ⟨j, by omega⟩ (Fin.mk_lt_of_lt_val (by omega))
  · exact List.eraseIdx_eq_take_drop_succ l position

/-- An item that is found is the first one. -/
theorem exists_isFirst_of_find? {l : List α} {a : α} (h : l.find? test = some a) :
    ∃ before after, IsFirst test l before a after := by
  obtain ⟨hpasses, before, after, heq, hrejects⟩ := List.find?_eq_some_iff_append.mp h
  exact ⟨before, after, heq, fun b hb => by simpa using hrejects b hb, hpasses⟩

/-! ## What is done to the item -/

variable {l before after : List α} {a : α}

theorem IsFirst.find? (h : IsFirst test l before a after) : l.find? test = some a := by
  have hnone : before.find? test = none := by
    rw [List.find?_eq_none]
    intro b hb
    rw [h.rejects b hb]
    exact Bool.false_ne_true
  rw [h.eq_append, List.find?_append, hnone, Option.none_or, List.find?_cons_of_pos h.passes]

/-- Nothing is focused where nothing is found. -/
theorem focus?_eq_none_iff : RecordFilter.focus? test l = none ↔ l.find? test = none := by
  constructor
  · intro hnone
    rw [Option.eq_none_iff_forall_ne_some]
    intro a ha
    obtain ⟨before, after, hfirst⟩ := exists_isFirst_of_find? ha
    rw [hfirst.focus?] at hnone
    cases hnone
  · intro hnone
    rw [Option.eq_none_iff_forall_ne_some]
    rintro ⟨a, put⟩ hplace
    obtain ⟨before, after, hfirst, -⟩ := isFirst_of_focus? hplace
    rw [hfirst.find?] at hnone
    cases hnone

/-- Another item that passes is the first one in the place of it. -/
theorem IsFirst.replaced (h : IsFirst test l before a after) {b : α} (hb : test b = true) :
    IsFirst test (before ++ b :: after) before b after :=
  ⟨rfl, h.rejects, hb⟩

/-- A change at the place of the first item is one of that item. -/
theorem IsFirst.modify (h : IsFirst test l before a after) (f : α → α) :
    l.modify (l.findIdx test) f = before ++ f a :: after := by
  obtain ⟨rfl, hrejects, hpasses⟩ := h
  induction before with
  | nil => simp [List.findIdx_cons, hpasses]
  | cons b before ih =>
    have hb : test b = false := hrejects b List.mem_cons_self
    have hrest := ih fun d hd => hrejects d (List.mem_cons_of_mem _ hd)
    simp [List.findIdx_cons, hb, hrest]

theorem IsFirst.eraseP (h : IsFirst test l before a after) : l.eraseP test = before ++ after := by
  have hrejects (b : α) (hb : b ∈ before) : ¬test b = true := by simp [h.rejects b hb]
  rw [h.eq_append, List.eraseP_append_right _ hrejects, List.eraseP_cons_of_pos h.passes]

/-- The first item has a position, from which it is taken. -/
theorem IsFirst.findFinIdx? (h : IsFirst test l before a after) :
    ∃ position, l.findFinIdx? test = some position ∧ l[position] = a ∧
      l.eraseIdx position = before ++ after := by
  cases hposition : l.findFinIdx? test with
  | none =>
    have hnone : l.find? test = none :=
      List.find?_eq_none.mpr (List.findFinIdx?_eq_none_iff.mp hposition)
    rw [h.find?] at hnone
    cases hnone
  | some position =>
    -- two splits at a first item agree in it and in what stands around it
    obtain ⟨before', after', hfirst, herase⟩ := isFirst_of_findFinIdx? hposition
    have hitem : l[position] = a := Option.some.inj (hfirst.find?.symm.trans h.find?)
    exact ⟨position, rfl, hitem, by rw [herase, ← hfirst.eraseP, h.eraseP]⟩

/-! ## Changing the item -/

/-- The list with its first item that passes a test changed. -/
def modifyFirst (test : α → Bool) (f : α → α) (l : List α) : List α :=
  l.modify (l.findIdx test) f

theorem modifyFirst_cons (test : α → Bool) (f : α → α) (a : α) (l : List α) :
    modifyFirst test f (a :: l) = if test a then f a :: l else a :: modifyFirst test f l := by
  unfold modifyFirst
  rw [List.findIdx_cons]
  cases test a with
  | true => rfl
  | false => rfl

/-- Nothing is changed where nothing is found. -/
theorem modifyFirst_of_find?_eq_none (h : l.find? test = none) (f : α → α) :
    modifyFirst test f l = l := by
  have hall := List.find?_eq_none.mp h
  induction l with
  | nil => rfl
  | cons a l ih =>
    obtain ⟨ha, hl⟩ := List.forall_mem_cons.mp hall
    rw [modifyFirst_cons, if_neg ha, ih (List.find?_eq_none.mpr hl) hl]

/-- Two changes that keep the test are changes of one item. -/
theorem modifyFirst_modifyFirst {f : α → α} (hf : ∀ a, test (f a) = test a) (g : α → α)
    (l : List α) : modifyFirst test g (modifyFirst test f l) = modifyFirst test (g ∘ f) l := by
  induction l with
  | nil => rfl
  | cons a l ih =>
    by_cases ha : test a = true
    · have hfa : test (f a) = true := (hf a).trans ha
      rw [modifyFirst_cons, if_pos ha, modifyFirst_cons, if_pos hfa, modifyFirst_cons, if_pos ha]
      rfl
    · rw [modifyFirst_cons, if_neg ha, modifyFirst_cons, if_neg ha, ih, modifyFirst_cons, if_neg ha]

theorem find?_modifyFirst_self {f : α → α} (hf : ∀ a, test (f a) = test a) (l : List α) :
    (modifyFirst test f l).find? test = (l.find? test).map f := by
  induction l with
  | nil => rfl
  | cons a l ih =>
    by_cases ha : test a = true
    · have hfa : test (f a) = true := (hf a).trans ha
      rw [modifyFirst_cons, if_pos ha, List.find?_cons_of_pos hfa, List.find?_cons_of_pos ha,
        Option.map_some]
    · rw [modifyFirst_cons, if_neg ha, List.find?_cons_of_neg ha, List.find?_cons_of_neg ha, ih]

/-- What a change of an item does not touch is read off the list as before. -/
theorem map_modifyFirst {f : α → α} {read : α → β} (h : ∀ a, read (f a) = read a)
    (l : List α) : (modifyFirst test f l).map read = l.map read := by
  induction l with
  | nil => rfl
  | cons a l ih =>
    rw [modifyFirst_cons]
    split
    · rw [List.map_cons, h, List.map_cons]
    · rw [List.map_cons, ih, List.map_cons]

/-! ### Two tests -/

variable {other : α → Bool}

/-- A change of an item that fails another test leaves what that test finds. -/
theorem find?_modifyFirst_of_not_passes {f : α → α} (hf : ∀ a, other (f a) = other a)
    (hother : ∀ a, test a = true → ¬other a = true) (l : List α) :
    (modifyFirst test f l).find? other = l.find? other := by
  induction l with
  | nil => rfl
  | cons a l ih =>
    by_cases ha : test a = true
    · have hfa : ¬other (f a) = true := by
        rw [hf]
        exact hother a ha
      rw [modifyFirst_cons, if_pos ha, List.find?_cons_of_neg hfa,
        List.find?_cons_of_neg (hother a ha)]
    · rw [modifyFirst_cons, if_neg ha, List.find?_cons, List.find?_cons, ih]

/-- Items that pass two tests of which one excludes the other are changed in any order. -/
theorem modifyFirst_comm {f g : α → α} (hf : ∀ a, other (f a) = other a)
    (hg : ∀ a, test (g a) = test a) (hother : ∀ a, test a = true → ¬other a = true) (l : List α) :
    modifyFirst other g (modifyFirst test f l) = modifyFirst test f (modifyFirst other g l) := by
  induction l with
  | nil => rfl
  | cons a l ih =>
    -- the first item passes one of the tests or none, and a change of it keeps the other
    by_cases ha : test a = true
    · have hout : ¬other a = true := hother a ha
      have hfa : ¬other (f a) = true := by rwa [hf]
      rw [modifyFirst_cons, if_pos ha, modifyFirst_cons, if_neg hfa, modifyFirst_cons, if_neg hout,
        modifyFirst_cons, if_pos ha]
    · rw [modifyFirst_cons, if_neg ha, modifyFirst_cons, modifyFirst_cons]
      by_cases hout : other a = true
      · have hga : ¬test (g a) = true := by rwa [hg]
        rw [if_pos hout, if_pos hout, modifyFirst_cons, if_neg hga]
      · rw [if_neg hout, if_neg hout, modifyFirst_cons, if_neg ha, ih]

/-! ## Erasing -/

variable [BEq α] [LawfulBEq α]

/-- To erase the first item that passes a test is to take it from its place: none before it is equal. -/
theorem IsFirst.erase (h : IsFirst test l before a after) : l.erase a = before ++ after := by
  have hnew : a ∉ before := by
    intro ha
    have hrejected := h.rejects a ha
    rw [h.passes] at hrejected
    cases hrejected
  rw [h.eq_append, List.erase_append_right _ hnew, List.erase_cons_head]

/-- The items that pass a test, erased one by one, leave the others. -/
theorem foldl_erase_filter (test : α → Bool) (l : List α) :
    (l.filter test).foldl List.erase l = l.filter fun a => !test a := by
  -- what has been gone through holds kept items only, and none of the erased ones is equal to them
  have hall (kept : List α) (hkept : ∀ a ∈ kept, test a = false) :
      (l.filter test).foldl List.erase (kept ++ l) = kept ++ l.filter fun a => !test a := by
    induction l generalizing kept with
    | nil => rfl
    | cons a l ih =>
      by_cases ha : test a = true
      · have hfirst : IsFirst test (kept ++ a :: l) kept a l := ⟨rfl, hkept, ha⟩
        rw [List.filter_cons_of_pos ha, List.foldl_cons, hfirst.erase, ih kept hkept,
          List.filter_cons_of_neg (by simp [ha])]
      · have ha : test a = false := by simpa using ha
        rw [List.filter_cons_of_neg (by simp [ha]), List.filter_cons_of_pos (by simp [ha]),
          List.append_cons, ih (kept ++ [a]), List.append_assoc, List.singleton_append]
        intro b hb
        rcases List.mem_append.mp hb with hb | hb
        · exact hkept b hb
        · rw [List.mem_singleton.mp hb]
          exact ha
  exact hall [] (by simp)

end RecordFilter
