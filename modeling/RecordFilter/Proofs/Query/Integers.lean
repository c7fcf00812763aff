import RecordFilter.Proofs.Filter.Rendered
import RecordFilter.Proofs.Number.Integers
import RecordFilter.Proofs.Query.Constraint
import RecordFilter.Proofs.Store.Atomicity

/-!
# Comparing integers

An integer of a record and an operand that spells an integer are compared by their nearest binary64 numbers.
From `2 ^ 53` on an integer can share this number with its neighbours, and then it is taken for them.

* `SpellsInteger` are the operands that spell integers.
* `admits_compare_integers`: the comparison of integers is that of their nearest numbers.
* `Constraint.integers_compare` says when this is the comparison of the integers themselves, and what it means
  for requests and bulk deletions.
-/

namespace RecordFilter

/-- A text spells an integer: decimal digits, perhaps with a minus sign before them. -/
inductive SpellsInteger : String → Int → Prop
  | natural {digits : List Char} (hdigits : IsNumeral digits) :
    SpellsInteger (String.ofList digits) (natOfDigits digits)
  | negative {digits : List Char} (hdigits : IsNumeral digits) :
    SpellsInteger (String.ofList ('-' :: digits)) (-(natOfDigits digits : Int))

/-! ## Integers as operands -/

theorem spellsInteger_of_isNumeral {text : String} (h : IsNumeral text.toList) :
    SpellsInteger text (natOfDigits text.toList) := by
  have hspells := SpellsInteger.natural h
  rwa [String.ofList_toList] at hspells

theorem decimalMagnitude?_of_isNumeral {digits : List Char} (h : IsNumeral digits) :
    decimalMagnitude? digits = some (Binary64.nearest (natOfDigits digits * Binary64.one) 1) := by
  obtain ⟨hne, hall⟩ := isNumeral_iff.mp h
  rw [List.all_eq_true] at hall
  have hunits : decimalUnits digits 0 = Binary64.nearest (natOfDigits digits * Binary64.one) 1 := by
    rw [decimalUnits, Binary64.ofDecimal_eq_nearest]
    simp only [Int.natCast_zero, Int.neg_zero, Int.toNat_zero, Nat.pow_zero, Nat.mul_one]
  rw [decimalMagnitude?, List.takeWhile_eq_self_iff.mpr hall, List.dropWhile_eq_nil_iff.mpr hall]
  simp only [if_neg hne, hunits]

namespace SpellsInteger

variable {s : String} {m : Int}

/-- A text that spells an integer is read as the number nearest to it. -/
theorem decimal?_eq (h : SpellsInteger s m) : decimal? s = some (Binary64.ofInt m) := by
  cases h with
  | @natural digits hdigits =>
    rw [decimal?, String.toList_ofList, Binary64.ofInt_natCast]
    split
    · -- no digit is a minus sign
      exact absurd (hdigits.2 '-' List.mem_cons_self) (by decide)
    · rw [decimalMagnitude?_of_isNumeral hdigits]
      rfl
  | @negative digits hdigits =>
    rw [decimal?, String.toList_ofList, Binary64.ofInt_neg, Binary64.ofInt_natCast]
    simp only [decimalMagnitude?_of_isNumeral hdigits]
    rfl

/-- It is made of digits and a minus sign, and not empty. -/
theorem chars (h : SpellsInteger s m) :
    s.toList ≠ [] ∧ ∀ c ∈ s.toList, c = '-' ∨ c.isDigit = true := by
  cases h with
  | natural hdigits =>
    rw [String.toList_ofList]
    exact ⟨hdigits.1, fun c hc => Or.inr (hdigits.2 c hc)⟩
  | negative hdigits =>
    rw [String.toList_ofList]
    refine ⟨List.cons_ne_nil _ _, List.forall_mem_cons.mpr ⟨Or.inl rfl, ?_⟩⟩
    exact fun c hc => Or.inr (hdigits.2 c hc)

/-- No other character is in it. -/
theorem not_mem (h : SpellsInteger s m) {c : Char} (hminus : c ≠ '-') (hdigit : c.isDigit = false) :
    c ∉ s.toList := by
  intro hc
  rcases h.chars.2 c hc with heq | hd
  · exact hminus heq
  · rw [hdigit] at hd
    cases hd

theorem head?_ne (h : SpellsInteger s m) {c : Char} (hminus : c ≠ '-')
    (hdigit : c.isDigit = false) : s.toList.head? ≠ some c :=
  fun hc => h.not_mem hminus hdigit (List.mem_of_head? hc)

end SpellsInteger

namespace Constraint

variable {record : Json} {field operand : String} {n : WordInt} {m : Int}

/-! ## Comparisons -/

/-- The comparison of integers is that of their nearest numbers. -/
theorem admits_compare_integers (hvalue : lookup? record field = some (.number (.integer n)))
    (hoperand : SpellsInteger operand m) (comparison : Comparison) :
    (Constraint.compare field comparison operand).admits record =
      comparison.holds (Ord.compare (Binary64.ofInt n.val) (Binary64.ofInt m)) :=
  admits_compare_of_decimal hvalue rfl hoperand.decimal?_eq comparison

theorem admits_eq_integers (hvalue : lookup? record field = some (.number (.integer n)))
    (hoperand : SpellsInteger operand m) :
    (Constraint.compare field .eq operand).admits record = true ↔
      Binary64.ofInt n.val = Binary64.ofInt m := by
  rw [admits_compare_integers hvalue hoperand, Comparison.holds_eq_iff, Int.compare_eq_eq]

/-- A weak comparison misses no integers of which it holds. -/
theorem admits_of_holds (hvalue : lookup? record field = some (.number (.integer n)))
    (hoperand : SpellsInteger operand m) {comparison : Comparison}
    (hweak : comparison ∈ [.eq, .le, .ge]) (hholds : comparison.holds (Ord.compare n.val m) = true) :
    (Constraint.compare field comparison operand).admits record = true := by
  rw [admits_compare_integers hvalue hoperand]
  simp only [List.mem_cons, List.not_mem_nil, or_false] at hweak
  rcases hweak with rfl | rfl | rfl
  · rw [Comparison.holds_eq_iff, Int.compare_eq_eq] at hholds ⊢
    rw [hholds]
  · rw [Comparison.holds_le_compare] at hholds ⊢
    exact Binary64.ofInt_le_ofInt hholds
  · rw [Comparison.holds_ge_compare] at hholds ⊢
    exact Binary64.ofInt_le_ofInt hholds

/-- A strict comparison hits only integers of which it holds. -/
theorem holds_of_admits (hvalue : lookup? record field = some (.number (.integer n)))
    (hoperand : SpellsInteger operand m) {comparison : Comparison}
    (hstrict : comparison ∈ [.ne, .lt, .gt])
    (hadmits : (Constraint.compare field comparison operand).admits record = true) :
    comparison.holds (Ord.compare n.val m) = true := by
  rw [admits_compare_integers hvalue hoperand] at hadmits
  simp only [List.mem_cons, List.not_mem_nil, or_false] at hstrict
  -- rounding keeps the order, so it may identify two integers but never swap them
  rcases hstrict with rfl | rfl | rfl
  · rw [Comparison.holds_ne_iff, Comparison.holds_eq_iff, Int.compare_eq_eq] at hadmits ⊢
    exact fun h => hadmits (by rw [h])
  · rw [Comparison.holds_lt_compare] at hadmits ⊢
    by_contra hge
    exact Int.not_lt.mpr (Binary64.ofInt_le_ofInt (Int.not_lt.mp hge)) hadmits
  · rw [Comparison.holds_gt_compare] at hadmits ⊢
    by_contra hge
    exact Int.not_lt.mpr (Binary64.ofInt_le_ofInt (Int.not_lt.mp hge)) hadmits

/-! ## Requests -/

/-- A list of one integer in a request hits the integers that have the same nearest number. -/
theorem admits_plan_integer (hvalue : lookup? record field = some (.number (.integer n)))
    (hfield : IsFieldName field) (hoperand : SpellsInteger operand m) :
    (Registry.standard.plan [field ++ "=\x7b" ++ operand ++ "\x7d"]).admits record = true ↔
      Binary64.ofInt n.val = Binary64.ofInt m := by
  have hne : operand ≠ "" := by
    rintro rfl
    exact hoperand.chars.1 rfl
  rw [Registry.admits_plan_isIn hfield hne (hoperand.not_mem (by decide) (by decide)),
    isIn_admits_iff]
  simp only [List.mem_singleton, exists_eq_left]
  exact admits_eq_integers hvalue hoperand

theorem isFieldName_id : IsFieldName "id" := ⟨by decide, List.all_eq_true.mp (by decide)⟩

/-- A request for an id compares it with a plain value. -/
theorem admits_plan_id_eq (bracket : operand.toList.head? ≠ some '[')
    (brace : operand.toList.head? ≠ some '\x7b') (record : Json) :
    (Registry.standard.plan ["id=" ++ operand]).admits record =
      (Constraint.compare "id" .eq operand).admits record := by
  have htoken : "id=" ++ operand = "id" ++ "=" ++ operand := by
    have hname : "id=" = "id" ++ "=" := by decide
    rw [hname]
  rw [htoken]
  exact Registry.admits_plan_eq isFieldName_id bracket brace record

/-- A request for an integer id admits the integers that have the same nearest number. -/
theorem admits_plan_id (hvalue : lookup? record "id" = some (.number (.integer n)))
    (hoperand : SpellsInteger operand m) :
    (Registry.standard.plan ["id=" ++ operand]).admits record = true ↔
      Binary64.ofInt n.val = Binary64.ofInt m := by
  rw [admits_plan_id_eq (hoperand.head?_ne (by decide) (by decide))
    (hoperand.head?_ne (by decide) (by decide))]
  exact admits_eq_integers hvalue hoperand

/-- A bulk deletion by an integer id removes the integers that have the same nearest number, and keeps the
others. -/
theorem deleteWhere_integer {σ : Type} {s : Store σ} {entity : String} {records : List Json}
    (hrecords : s.collections.get? entity = some records) (hoperand : SpellsInteger operand m) :
    let call := Call.deleteWhere entity (Registry.standard.plan ["id=" ++ operand])
    ∃ removed kept, (s.call call).1 = .ok (.many removed) ∧
      (s.call call).2.collections.get? entity = some kept ∧
      ∀ record ∈ records, ∀ n, lookup? record "id" = some (.number (.integer n)) →
        (record ∈ removed ↔ Binary64.ofInt n.val = Binary64.ofInt m) ∧
        (record ∈ kept ↔ Binary64.ofInt n.val ≠ Binary64.ofInt m) := by
  intro call
  obtain ⟨hanswer, hcollections⟩ :=
    Store.call_deleteWhere_of_some hrecords (Registry.standard.plan ["id=" ++ operand])
  have hentity := hcollections entity
  rw [if_pos rfl] at hentity
  refine ⟨_, _, hanswer, hentity, ?_⟩
  intro record hrecord n hvalue
  -- a record goes exactly if the plan for the id admits it, which is decided by the nearest numbers
  have hadmits := admits_plan_id hvalue hoperand
  constructor
  · rw [List.mem_filter, hadmits]
    exact and_iff_right hrecord
  · rw [List.mem_filter, Bool.not_eq_true', Bool.eq_false_iff, ne_eq, hadmits]
    exact and_iff_right hrecord

/-- An integer and an operand that spells an integer are compared by their nearest binary64 numbers, of two
that are equally near by the one with an even significand. If one of the two is less than `2 ^ 53`, this is
the comparison of the integers. However large they are, the weak comparisons miss none of which they hold, and
the strict ones hit only those of which they hold. Requests and bulk deletions for an integer take all
integers that share its nearest number. -/
theorem integers_compare (hoperand : SpellsInteger operand m) :
    (∀ n : Int, n.natAbs < 2 ^ 64 →
      Binary64.IsNearest (n * Binary64.one) (Binary64.ofInt n)) ∧
    (∀ record field n, lookup? record field = some (.number (.integer n)) →
      (∀ comparison, (Constraint.compare field comparison operand).admits record =
        comparison.holds (Ord.compare (Binary64.ofInt n.val) (Binary64.ofInt m))) ∧
      (n.val.natAbs < 2 ^ 53 ∨ m.natAbs < 2 ^ 53 → ∀ comparison,
        (Constraint.compare field comparison operand).admits record =
          comparison.holds (Ord.compare n.val m)) ∧
      (∀ comparison ∈ [.eq, .le, .ge], comparison.holds (Ord.compare n.val m) = true →
        (Constraint.compare field comparison operand).admits record = true) ∧
      (∀ comparison ∈ [.ne, .lt, .gt],
        (Constraint.compare field comparison operand).admits record = true →
          comparison.holds (Ord.compare n.val m) = true) ∧
      (IsFieldName field →
        ((Registry.standard.plan [field ++ "=\x7b" ++ operand ++ "\x7d"]).admits record = true ↔
          Binary64.ofInt n.val = Binary64.ofInt m))) ∧
    (∀ (σ : Type) (s : Store σ) entity records, s.collections.get? entity = some records →
      let call := Call.deleteWhere entity (Registry.standard.plan ["id=" ++ operand])
      ∃ removed kept, (s.call call).1 = .ok (.many removed) ∧
        (s.call call).2.collections.get? entity = some kept ∧
        ∀ record ∈ records, ∀ n, lookup? record "id" = some (.number (.integer n)) →
          (record ∈ removed ↔ Binary64.ofInt n.val = Binary64.ofInt m) ∧
          (record ∈ kept ↔ Binary64.ofInt n.val ≠ Binary64.ofInt m)) ∧
    (m.natAbs < 2 ^ 53 → ∀ n, Binary64.ofInt n = Binary64.ofInt m ↔ n = m) := by
  refine ⟨fun n => Binary64.isNearest_ofInt, ?_, ?_, ?_⟩
  · intro record field n hvalue
    refine ⟨admits_compare_integers hvalue hoperand, ?_, ?_, ?_, ?_⟩
    · intro hsmall comparison
      rw [admits_compare_integers hvalue hoperand, Binary64.compare_ofInt hsmall]
    · exact fun _ => admits_of_holds hvalue hoperand
    · exact fun _ => holds_of_admits hvalue hoperand
    · exact fun hfield => admits_plan_integer hvalue hfield hoperand
  · intro σ s entity records hrecords
    exact deleteWhere_integer hrecords hoperand
  · intro hsmall n
    rw [← Int.compare_eq_eq, Binary64.compare_ofInt (Or.inr hsmall), Int.compare_eq_eq]

/-- The integer after `2 ^ 53` is taken for `2 ^ 53`, and a bulk deletion of the one removes the other. -/
theorem neighbour_taken_for_equal :
    let n : WordInt := ⟨9007199254740993, by decide⟩
    let record := Json.object [("id", .number (.integer n))]
    let s := Store.quiet [("users", [record])]
    SpellsInteger "9007199254740992" 9007199254740992 ∧
      lookup? record "id" = some (.number (.integer n)) ∧
      Comparison.eq.holds (Ord.compare n.val 9007199254740992) = false ∧
      (Constraint.compare "id" .eq "9007199254740992").admits record = true ∧
      (Registry.standard.plan ["id=\x7b9007199254740992\x7d"]).admits record = true ∧
      (s.call (.deleteWhere "users" (Registry.standard.plan ["id=9007199254740992"]))).1 =
        .ok (.many [record]) := by
  intro n record s
  have hdigits : IsNumeral "9007199254740992".toList := isNumeral_iff.mpr (by decide)
  refine ⟨.natural hdigits, rfl, rfl, ?_, ?_, ?_⟩
  · decide +kernel
  · decide +kernel
  · decide +kernel

/-- The integers around `2 ^ 53`, and a deletion of the one below it. -/
theorem integers_compare_edge :
    let n : WordInt := ⟨9007199254740992, by decide⟩
    let record := Json.object [("id", .number (.integer n))]
    let s := Store.quiet [("users", [record])]
    let operand := "9007199254740991"
    let call := Call.deleteWhere "users" (Registry.standard.plan ["id=" ++ operand])
    (SpellsInteger operand 9007199254740991 ∧
      lookup? record "id" = some (.number (.integer n)) ∧ IsFieldName "id" ∧
      s.collections.get? "users" = some [record]) ∧
    ((Constraint.compare "id" .gt operand).admits record = true ∧
      (Constraint.compare "id" .le operand).admits record = false) ∧
    ¬(Registry.standard.plan ["id" ++ "=\x7b" ++ operand ++ "\x7d"]).admits record = true ∧
    ∃ removed kept, (s.call call).1 = .ok (.many removed) ∧
      (s.call call).2.collections.get? "users" = some kept ∧ record ∉ removed ∧ record ∈ kept := by
  intro n record s operand call
  have hdigits : IsNumeral "9007199254740991".toList := isNumeral_iff.mpr (by decide)
  have hoperand : SpellsInteger operand 9007199254740991 := .natural hdigits
  have hvalue : lookup? record "id" = some (.number (.integer n)) := rfl
  obtain ⟨-, hcompare, hdelete, hsame⟩ := integers_compare hoperand
  obtain ⟨-, hexact, -, -, hrequest⟩ := hcompare record "id" n hvalue
  have hexact := hexact (Or.inr (by decide))
  -- below the edge the rounding identifies nothing, so the two integers stay apart
  have hne : Binary64.ofInt n.val ≠ Binary64.ofInt 9007199254740991 := by
    rw [ne_eq, hsame (by decide)]
    decide
  obtain ⟨removed, kept, hremoved, hkept, hall⟩ := hdelete Unit s "users" [record] rfl
  obtain ⟨hout, hin⟩ := hall record List.mem_cons_self n hvalue
  have hgreater := (hexact .gt).trans (by decide : _ = true)
  have hnotLess := (hexact .le).trans (by decide : _ = false)
  exact ⟨⟨hoperand, hvalue, isFieldName_id, rfl⟩, ⟨hgreater, hnotLess⟩,
    fun h => hne ((hrequest isFieldName_id).mp h), removed, kept, hremoved, hkept,
    fun h => hne (hout.mp h), hin.mpr hne⟩

end Constraint

end RecordFilter
