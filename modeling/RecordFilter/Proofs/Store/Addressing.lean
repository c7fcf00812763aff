import RecordFilter.Proofs.Number.Integers
import RecordFilter.Proofs.Query.Operand
import RecordFilter.Proofs.Store.Ids

/-!
# The ids that address records

A record is addressed by what its `id` stands for: a number for itself, if it is a natural number, and a text for
the number that it spells. Numbers past the greatest id have none of their own. They stand for the greatest one,
so that records with different ids are taken for one another.

* `idOfNumber?_eq_some_iff_of_ne`, `idOfNumber?_eq_greatestId_iff` and `idOfText?_eq_some_iff` tell which numbers
  and texts stand for an id.
* `recordId?_eq_some_iff` tells what a record with an id holds.
* `Store.numeric_ids_exact_below_greatest` says which numeric ids are kept apart, and where ids are used up.
-/

namespace RecordFilter

/-- A number is a natural number from the greatest id on. -/
def Number.ReachesGreatestId (n : Number) : Prop :=
  ∃ k : Nat, greatestId.toNat ≤ k ∧ n.Is k

/-- A text spells a natural number: decimal digits, perhaps after a plus sign. -/
def SpellsNatural (s : String) (k : Nat) : Prop :=
  ∃ digits, IsNumeral digits ∧ natOfDigits digits = k ∧ (s.toList = digits ∨ s.toList = '+' :: digits)

/-! ## Numbers -/

/-- A natural number stands for itself if there is an id for it, and else for the greatest id. -/
theorem eq_idOfNat_iff {id : UInt64} {k : Nat} :
    id = idOfNat k ↔ id.toNat = k ∨ id = greatestId ∧ greatestId.toNat ≤ k := by
  -- the two ways to be read apart: below the number of ids, and from there on
  have hgreatest : greatestId.toNat = UInt64.size - 1 := rfl
  have hid := id.toNat_lt_size
  unfold idOfNat
  split
  · rename_i hlt
    constructor
    · rintro rfl
      exact Or.inl (UInt64.toNat_ofNat_of_lt' hlt)
    · rintro (rfl | ⟨rfl, hle⟩)
      · exact UInt64.ofNat_toNat.symm
      · -- only the greatest id is as large
        have hk : k = greatestId.toNat := by omega
        rw [hk, UInt64.ofNat_toNat]
  · rename_i hge
    constructor
    · intro h
      exact Or.inr ⟨h, by omega⟩
    · rintro (rfl | ⟨h, -⟩)
      · exact absurd hid hge
      · exact h

/-- Numbers stand for an id if they are natural numbers. -/
theorem idOfNumber?_eq_some_iff_idOfNat {n : Number} {id : UInt64} :
    idOfNumber? n = some id ↔ ∃ k : Nat, n.Is k ∧ id = idOfNat k := by
  -- both kinds of numbers are decided alike once it is known which integer they are
  have hall (i : Int) (hi : ∀ j : Int, n.exactUnits = j * Binary64.one ↔ i = j) :
      (if 0 ≤ i then some (idOfNat i.toNat) else none) = some id ↔
        ∃ k : Nat, n.Is k ∧ id = idOfNat k := by
    unfold Number.Is
    simp only [hi]
    constructor
    · intro h
      split at h
      · rename_i hnonneg
        cases h
        exact ⟨i.toNat, (Int.toNat_of_nonneg hnonneg).symm, rfl⟩
      · cases h
    · rintro ⟨k, rfl, rfl⟩
      rw [if_pos (Int.natCast_nonneg k), Int.toNat_natCast]
  cases n with
  | integer n => exact hall n.val fun j => Binary64.mul_one_inj
  | float x =>
    rw [idOfNumber?]
    cases hx : x.toInt? with
    | some i =>
      apply hall i
      intro j
      rw [Number.exactUnits, ← Binary64.toInt?_eq_some_iff, hx, Option.some_inj]
    | none =>
      -- a float with a fraction is no integer, and so no id
      constructor
      · intro h
        cases h
      · rintro ⟨k, hk, -⟩
        rw [Number.Is, Number.exactUnits, ← Binary64.toInt?_eq_some_iff, hx] at hk
        cases hk

/-- A number stands for an id below the greatest one if it is this id. -/
theorem idOfNumber?_eq_some_iff_of_ne {n : Number} {id : UInt64} (hid : id ≠ greatestId) :
    idOfNumber? n = some id ↔ n.Is id.toNat := by
  simp only [idOfNumber?_eq_some_iff_idOfNat, eq_idOfNat_iff]
  constructor
  · rintro ⟨k, hk, rfl | ⟨hgreatest, -⟩⟩
    · exact hk
    · exact absurd hgreatest hid
  · intro hn
    exact ⟨id.toNat, hn, Or.inl rfl⟩

/-- The numbers that stand for the greatest id are those that reach it. -/
theorem idOfNumber?_eq_greatestId_iff {n : Number} :
    idOfNumber? n = some greatestId ↔ n.ReachesGreatestId := by
  simp only [idOfNumber?_eq_some_iff_idOfNat, eq_idOfNat_iff]
  constructor
  · rintro ⟨k, hk, hgreatest | ⟨-, hle⟩⟩
    · exact ⟨k, Nat.le_of_eq hgreatest, hk⟩
    · exact ⟨k, hle, hk⟩
  · rintro ⟨k, hle, hk⟩
    exact ⟨k, hk, Or.inr ⟨trivial, hle⟩⟩

/-! ## Texts -/

/-- A text stands for the id that it spells. -/
theorem idOfText?_eq_some_iff {s : String} {id : UInt64} :
    idOfText? s = some id ↔ SpellsNatural s id.toNat := by
  -- the digits alone decide; the sign in front of them is looked at afterwards
  have hdigits (digits : List Char) :
      (if digits ≠ [] ∧ digits.all isDecimalDigit = true ∧ natOfDigits digits < UInt64.size then
          some (UInt64.ofNat (natOfDigits digits)) else none) = some id ↔
        IsNumeral digits ∧ natOfDigits digits = id.toNat := by
    rw [isNumeral_iff]
    constructor
    · intro h
      split at h
      · rename_i hall
        obtain ⟨hne, hall, hlt⟩ := hall
        cases h
        exact ⟨⟨hne, hall⟩, (UInt64.toNat_ofNat_of_lt' hlt).symm⟩
      · cases h
    · rintro ⟨⟨hne, hall⟩, hid⟩
      rw [hid, if_pos ⟨hne, hall, id.toNat_lt_size⟩, UInt64.ofNat_toNat]
  by_cases hplus : ∃ digits, s.toList = '+' :: digits
  · obtain ⟨digits, hs⟩ := hplus
    simp only [idOfText?, SpellsNatural, hs, hdigits, List.cons.injEq, true_and]
    constructor
    · rintro ⟨hnumeral, hid⟩
      exact ⟨digits, hnumeral, hid, Or.inr rfl⟩
    · rintro ⟨digits', hnumeral, hid, rfl | rfl⟩
      · -- a plus sign is no digit
        exact absurd (hnumeral.2 '+' List.mem_cons_self) (by decide)
      · exact ⟨hnumeral, hid⟩
  · rw [not_exists] at hplus
    have htext : idOfText? s = some id ↔ IsNumeral s.toList ∧ natOfDigits s.toList = id.toNat := by
      rw [← hdigits, idOfText?]
      split
      · rename_i digits hs
        exact absurd hs (hplus digits)
      · rfl
    rw [htext]
    constructor
    · rintro ⟨hnumeral, hid⟩
      exact ⟨s.toList, hnumeral, hid, Or.inl rfl⟩
    · rintro ⟨digits, hnumeral, hid, rfl | hs⟩
      · exact ⟨hnumeral, hid⟩
      · exact absurd hs (hplus digits)

/-! ## Records -/

theorem recordId?_of_number {record : Json} {n : Number} (h : record.field? "id" = some (.number n)) :
    recordId? record = idOfNumber? n := by
  rw [recordId?, h]

/-- A record has an id if a number stands for it there, or a text. -/
theorem recordId?_eq_some_iff {record : Json} {id : UInt64} :
    recordId? record = some id ↔
      (∃ n, record.field? "id" = some (.number n) ∧ idOfNumber? n = some id) ∨
        ∃ text, record.field? "id" = some (.string text) ∧ SpellsNatural text id.toNat := by
  unfold recordId?
  split
  · rename_i n hn
    simp [hn]
  · rename_i text htext
    simp [htext, idOfText?_eq_some_iff]
  · -- neither a number nor a text: there is no id to read
    rename_i hnumber htext
    constructor
    · intro h
      cases h
    · rintro (⟨n, hn, -⟩ | ⟨text, ht, -⟩)
      · exact absurd hn (hnumber n)
      · exact absurd ht (htext text)

namespace Store

/-- Ids are used up where some record has the greatest one, or an id that stands for it. -/
theorem create_exhausted_iff {σ : Type} (s : Store σ) (entity : String) (attributes : Json) :
    (s.call (.create entity attributes)).1 = .error (.idExhausted entity) ↔
      attributes.isObject = true ∧ Exhausted (s.collections.stock entity) := by
  cases attributes with
  -- a creation that is not exhausted has a free id, and so does not fail in this way
  | object fields =>
    constructor
    · intro h
      refine ⟨rfl, ?_⟩
      by_contra hleft
      obtain ⟨id, -, hcall⟩ := call_create_of_not_exhausted hleft fields
      rw [hcall] at h
      cases h
    · rintro ⟨-, hexhausted⟩
      rw [call_create_of_exhausted hexhausted]
  | null | bool | number | string | array =>
    constructor
    · intro h
      cases h
    · rintro ⟨h, -⟩
      cases h

/-- Below the greatest id, a numeric id is read as the natural number that it is. The greatest id stands for all
numbers that reach it. So two records with different numeric ids share an id just where both reach the greatest
one, and a creation finds ids used up just where a record has a number that reaches it, or a text that spells
it. -/
theorem numeric_ids_exact_below_greatest {σ : Type} (s : Store σ) (entity : String)
    (attributes a b : Json) (n m : Number) (hn : a.field? "id" = some (.number n))
    (hm : b.field? "id" = some (.number m)) :
    (∀ id, id ≠ greatestId → (recordId? a = some id ↔ n.Is id.toNat)) ∧
    (recordId? a = some greatestId ↔ n.ReachesGreatestId) ∧
    (n.exactUnits ≠ m.exactUnits →
      ((∃ id, recordId? a = some id ∧ recordId? b = some id) ↔
        n.ReachesGreatestId ∧ m.ReachesGreatestId)) ∧
    ((s.call (.create entity attributes)).1 = .error (.idExhausted entity) ↔
      attributes.isObject = true ∧ ∃ record ∈ s.collections.stock entity,
        (∃ k, record.field? "id" = some (.number k) ∧ k.ReachesGreatestId) ∨
          ∃ text, record.field? "id" = some (.string text) ∧ SpellsNatural text greatestId.toNat) := by
  rw [recordId?_of_number hn, recordId?_of_number hm]
  refine ⟨?_, idOfNumber?_eq_greatestId_iff, ?_, ?_⟩
  · intro id hid
    exact idOfNumber?_eq_some_iff_of_ne hid
  · -- below the greatest id reading is one-to-one, so a shared id can only be the greatest
    intro hne
    constructor
    · rintro ⟨id, ha, hb⟩
      by_cases hid : id = greatestId
      · subst hid
        exact ⟨idOfNumber?_eq_greatestId_iff.mp ha, idOfNumber?_eq_greatestId_iff.mp hb⟩
      · -- below the greatest id, both numbers are the id
        have hn : n.Is id.toNat := (idOfNumber?_eq_some_iff_of_ne hid).mp ha
        have hm : m.Is id.toNat := (idOfNumber?_eq_some_iff_of_ne hid).mp hb
        exact absurd (hn.trans hm.symm) hne
    · rintro ⟨ha, hb⟩
      exact ⟨greatestId, idOfNumber?_eq_greatestId_iff.mpr ha, idOfNumber?_eq_greatestId_iff.mpr hb⟩
  · simp only [create_exhausted_iff, Exhausted, recordId?_eq_some_iff, idOfNumber?_eq_greatestId_iff]

/-- Two floats past the greatest id, which differ, are both taken for it. With one of them in the store, ids are
used up. -/
theorem different_ids_taken_for_greatest :
    let x : Binary64 := ⟨false, 2 ^ 64 * Binary64.one, by decide +kernel⟩
    let y : Binary64 := ⟨false, 10 ^ 20 * Binary64.one, by decide +kernel⟩
    let a := Json.object [("id", .number (.float x))]
    let b := Json.object [("id", .number (.float y))]
    (recordId? a = some greatestId ∧ ¬(Number.float x).Is greatestId.toNat) ∧
      (recordId? b = some greatestId ∧ (Number.float x).exactUnits ≠ (Number.float y).exactUnits) ∧
      ((Store.quiet [("users", [a])]).call (.create "users" (.object []))).1 =
        .error (.idExhausted "users") := by
  intro x y a b
  refine ⟨⟨?_, ?_⟩, ⟨?_, ?_⟩, ?_⟩
  all_goals decide +kernel

/-- A float below the greatest id, the greatest id and the float next to it, and a text that spells the greatest
id. -/
theorem numeric_ids_exact_below_greatest_edge :
    let seven := Number.float ⟨false, 7 * Binary64.one, by decide +kernel⟩
    let last := Number.ofUInt64 greatestId
    let past := Number.float ⟨false, 2 ^ 64 * Binary64.one, by decide +kernel⟩
    let record (n : Number) := Json.object [("id", .number n)]
    let spelled := Json.object [("id", .string "+18446744073709551615")]
    (seven.Is (7 : UInt64).toNat ∧ recordId? (record seven) = some 7) ∧
      (last.exactUnits ≠ past.exactUnits ∧ recordId? (record last) = some greatestId ∧
        recordId? (record past) = some greatestId ∧ last.ReachesGreatestId ∧
        past.ReachesGreatestId) ∧
      ((Store.quiet [("users", [spelled])]).call (.create "users" (.object []))).1 =
        .error (.idExhausted "users") := by
  intro seven last past record spelled
  have hseven : seven.Is (7 : UInt64).toNat := by decide +kernel
  have hne : last.exactUnits ≠ past.exactUnits := by decide +kernel
  have hlast : recordId? (record last) = some greatestId := by decide +kernel
  have hpast : recordId? (record past) = some greatestId := by decide +kernel
  let s := Store.quiet [("users", [spelled])]
  -- once for the float below the greatest id, and once for the two that share the greatest one
  obtain ⟨hread, -, -, hcreate⟩ := numeric_ids_exact_below_greatest s "users" (.object [])
    (record seven) (record seven) seven seven rfl rfl
  obtain ⟨-, -, hshared, -⟩ := numeric_ids_exact_below_greatest s "users" (.object [])
    (record last) (record past) last past rfl rfl
  obtain ⟨hreaches, hreaches'⟩ := (hshared hne).mp ⟨greatestId, hlast, hpast⟩
  have hdigits : IsNumeral "18446744073709551615".toList := isNumeral_iff.mpr (by decide)
  have hspells : SpellsNatural "+18446744073709551615" greatestId.toNat :=
    ⟨_, hdigits, by decide, Or.inr (by decide)⟩
  have hused := hcreate.mpr ⟨rfl, spelled, List.mem_cons_self, Or.inr ⟨_, rfl, hspells⟩⟩
  exact ⟨⟨hseven, (hread 7 (by decide)).mpr hseven⟩,
    ⟨hne, hlast, hpast, hreaches, hreaches'⟩, hused⟩

end Store

end RecordFilter
