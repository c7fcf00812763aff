import RecordFilter.Proofs.Query.Integers
import RecordFilter.Proofs.Store.Addressing
import RecordFilter.Proofs.Store.BulkDeletion

/-!
# Requests for an id

A record that an id addresses is admitted by a request for this id too, though the one reads what the record has
under `id` as a word, and the other compares it with an operand. The exception are texts with a plus sign: they
spell an id, but they are no plain decimals, so that a request compares them as texts.

* `idRequest` asks for an id.
* `admits_idRequest_of_number`, `admits_idRequest_of_digits` and `admits_idRequest_of_plus`: how it takes a number,
  digits, and digits after a plus sign.
* `Store.id_request_lists_addressed` puts these together, for listings and bulk deletions.
-/

namespace RecordFilter

/-- The request for an id. -/
def idRequest (value : String) : QueryPlan :=
  Registry.standard.plan ["id=" ++ value]

/-! ## Natural numbers as operands -/

theorem isNumeral_toString (k : Nat) : IsNumeral (toString k).toList := by
  have hdigits : (toString k).toList = Decimal.digitsOf k := String.toList_ofList
  rw [isNumeral_iff, hdigits, List.all_eq_true]
  exact ⟨digitsOf_ne_nil k, fun c => isDecimalDigit_of_mem_digitsOf⟩

theorem spellsInteger_toString (k : Nat) : SpellsInteger (toString k) k := by
  have hspells := spellsInteger_of_isNumeral (isNumeral_toString k)
  have hdigits : natOfDigits (toString k).toList = k := by
    show natOfDigits (String.ofList (Decimal.digitsOf k)).toList = k
    rw [String.toList_ofList, natOfDigits_digitsOf]
  rwa [hdigits] at hspells

/-- A text that starts with a plus sign is no plain decimal. -/
theorem decimal?_eq_none_of_plus {text : String} (h : text.toList.head? = some '+') :
    decimal? text = none := by
  rw [decimal?_eq_none_iff]
  rintro (hmagnitude | ⟨magnitude, hminus, -⟩)
  · obtain ⟨c, rest, heq, hc⟩ := hmagnitude.exists_digit
    rw [heq, List.head?_cons, Option.some_inj] at h
    rw [h] at hc
    exact absurd hc (by decide)
  · rw [hminus, List.head?_cons, Option.some_inj] at h
    exact absurd h (by decide)

theorem compareText_eq_iff {a b : String} : compareText a b = .eq ↔ a = b := by
  unfold compareText
  split
  · rename_i hlt
    constructor
    · intro h
      cases h
    · rintro rfl
      exact absurd hlt (String.lt_irrefl a)
  · split
    · rename_i heq
      exact ⟨fun _ => heq, fun _ => rfl⟩
    · rename_i hne
      constructor
      · intro h
        cases h
      · intro h
        exact absurd h hne

/-! ## Records -/

variable {record : Json} {k : Nat}

theorem lookup?_of_field? {key : String} {value : Json} (h : record.field? key = some value)
    (hvalue : value.notNull? = some value) : lookup? record key = some value := by
  cases record with
  | object fields =>
    have hget : Keyed.get? key fields = some value := h
    rw [lookup?, Json.fields?, Option.bind_some, hget]
    exact hvalue
  | null | bool | number | string | array => cases h

/-- A value that compares as a natural number is admitted by the request for that number. -/
theorem admits_idRequest_of_numeric {value : Json} (h : record.field? "id" = some value)
    (hvalue : value.notNull? = some value) (hnumeric : numeric? value = some (Binary64.ofInt k)) :
    (idRequest (toString k)).admits record = true := by
  have hoperand := spellsInteger_toString k
  rw [idRequest, Constraint.admits_plan_id_eq (hoperand.head?_ne (by decide) (by decide))
    (hoperand.head?_ne (by decide) (by decide)), Constraint.admits_compare_of_decimal
    (lookup?_of_field? h hvalue) hnumeric hoperand.decimal?_eq, Comparison.holds_eq_iff,
    Int.compare_eq_eq]

theorem admits_idRequest_of_number {n : Number} (h : record.field? "id" = some (.number n))
    (hn : n.Is k) : (idRequest (toString k)).admits record = true := by
  apply admits_idRequest_of_numeric h rfl
  rw [numeric?, hn.signedUnits_eq]

theorem admits_idRequest_of_digits {text : String} (h : record.field? "id" = some (.string text))
    (htext : IsNumeral text.toList) (hk : natOfDigits text.toList = k) :
    (idRequest (toString k)).admits record = true := by
  apply admits_idRequest_of_numeric h rfl
  rw [numeric?, (spellsInteger_of_isNumeral htext).decimal?_eq, hk]

/-- A text with a plus sign is admitted by the request for itself, and not by one in digits. -/
theorem admits_idRequest_of_plus {text : String} (h : record.field? "id" = some (.string text))
    (hplus : text.toList.head? = some '+') :
    (idRequest text).admits record = true ∧ (idRequest (toString k)).admits record = false := by
  have hall {value : String} (bracket : value.toList.head? ≠ some '[')
      (brace : value.toList.head? ≠ some '\x7b') :
      (idRequest value).admits record = decide (text = value) := by
    have horder : compareOperand? (.string text) value = some (compareText text value) := by
      rw [compareOperand?, numeric?, decimal?_eq_none_of_plus hplus]
      rfl
    rw [idRequest, Constraint.admits_plan_id_eq bracket brace,
      Constraint.admits_compare (lookup?_of_field? h rfl) horder, Bool.eq_iff_iff,
      Comparison.holds_eq_iff, compareText_eq_iff, decide_eq_true_iff]
  have hoperand := spellsInteger_toString k
  constructor
  · rw [hall (by rw [hplus]; decide) (by rw [hplus]; decide)]
    exact decide_eq_true rfl
  · rw [hall (hoperand.head?_ne (by decide) (by decide)) (hoperand.head?_ne (by decide) (by decide)),
      decide_eq_false_iff_not]
    rintro rfl
    -- no digit is a plus sign
    exact hoperand.head?_ne (by decide) (by decide) hplus

namespace Store

/-- A record that an id addresses, by a number that is this id or by digits, is admitted by the request for the
id in decimal. So a listing by that request has the record, and a bulk deletion by it removes the record. A text
with a plus sign is admitted by the request for this very text instead. -/
theorem id_request_lists_addressed {record : Json} {id : UInt64} (h : recordId? record = some id) :
    ((∀ n, record.field? "id" = some (.number n) → n.Is id.toNat) →
      (∀ text, record.field? "id" = some (.string text) → text.toList.head? ≠ some '+') →
      (idRequest (toString id.toNat)).admits record = true ∧
      ∀ (σ : Type) (s : Store σ) entity records, s.collections.get? entity = some records →
        record ∈ records →
        let plan := idRequest (toString id.toNat)
        ∃ listed kept, s.collections.query entity plan = .ok listed ∧ record ∈ listed ∧
          (s.call (.deleteWhere entity plan)).1 = .ok (.many listed) ∧
          (s.call (.deleteWhere entity plan)).2.collections.get? entity = some kept ∧
          record ∉ kept) ∧
    ∀ text, record.field? "id" = some (.string text) → text.toList.head? = some '+' →
      (idRequest text).admits record = true ∧
        (idRequest (toString id.toNat)).admits record = false := by
  constructor
  · intro hexact hplain
    have hadmits : (idRequest (toString id.toNat)).admits record = true := by
      -- the id was read off a number or off a text, and the text is digits alone or has a plus sign
      rcases recordId?_eq_some_iff.mp h with ⟨n, hn, -⟩ | ⟨text, htext, digits, hdigits, hid, hs⟩
      · exact admits_idRequest_of_number hn (hexact n hn)
      · rcases hs with rfl | hplus
        · exact admits_idRequest_of_digits htext hdigits hid
        · exact absurd (by rw [hplus]; rfl) (hplain text htext)
    refine ⟨hadmits, ?_⟩
    intro σ s entity records hrecords hrecord
    exact listed_and_removed_of_admits hrecords hrecord hadmits
  · intro text htext hplus
    exact admits_idRequest_of_plus htext hplus

/-- A float in an entity with another record is removed by a request for its integer, and a text with a plus sign
is admitted by itself. -/
theorem id_request_lists_addressed_eight :
    let eight := Json.object [("id", .number (.float ⟨false, 8 * Binary64.one, by decide +kernel⟩))]
    let five := Json.object [("id", .string "+5")]
    let s := Store.quiet [("users", [five, eight])]
    let call := Call.deleteWhere "users" (idRequest (toString (8 : UInt64).toNat))
    (recordId? eight = some 8 ∧ s.collections.get? "users" = some [five, eight] ∧
        eight ∈ [five, eight]) ∧
      (∃ listed kept, (s.call call).1 = .ok (.many listed) ∧ eight ∈ listed ∧
        (s.call call).2.collections.get? "users" = some kept ∧ eight ∉ kept) ∧
      recordId? five = some 5 ∧ (idRequest "+5").admits five = true := by
  intro eight five s call
  have haddressed : recordId? eight = some 8 := by decide +kernel
  have hspelled : recordId? five = some 5 := by decide +kernel
  have hmem : eight ∈ [five, eight] := List.mem_cons_of_mem _ List.mem_cons_self
  have hexact (n : Number) (hn : eight.field? "id" = some (.number n)) :
      n.Is (8 : UInt64).toNat := by
    cases hn
    decide +kernel
  have hplain (text : String) (htext : eight.field? "id" = some (.string text)) :
      text.toList.head? ≠ some '+' := by
    cases htext
  obtain ⟨-, hlisted⟩ := (id_request_lists_addressed haddressed).1 hexact hplain
  obtain ⟨listed, kept, -, hin, hanswer, hkept, hout⟩ :=
    hlisted Unit s "users" [five, eight] rfl hmem
  obtain ⟨hself, -⟩ := (id_request_lists_addressed hspelled).2 "+5" rfl (by decide)
  exact ⟨⟨haddressed, rfl, hmem⟩, ⟨listed, kept, hanswer, hin, hkept, hout⟩, hspelled, hself⟩

/-- A text with a plus sign is addressed by the number that it spells, but the request for this number lists
nothing, and a bulk deletion by it removes nothing. -/
theorem id_request_misses_plus :
    let record := Json.object [("id", .string "+5")]
    let s := Store.quiet [("users", [record])]
    recordId? record = some 5 ∧ (s.call (.delete "users" 5)).1 = .ok (.one record) ∧
      (idRequest (toString (5 : UInt64).toNat)).admits record = false ∧
      (s.call (.deleteWhere "users" (idRequest (toString (5 : UInt64).toNat)))).1 =
        .ok (.many []) := by
  intro record s
  refine ⟨?_, ?_, ?_, ?_⟩
  all_goals decide +kernel

end Store

end RecordFilter
