import RecordFilter.Proofs.Query.Integers

/-!
# Wider ranges

The bounds of a range are digits, of any number and with any zeros before them. They are rounded to binary64 numbers,
or to the limit past these, before a field is compared with them. Rounding keeps the order, so that a record is not
lost when bounds move apart.

* `NumeralsLe` orders texts of digits by the numbers that they spell, `NumeralsLe.exists_decimals` the numbers that
  they are compared as.
* `Constraint.admits_of_raised` and `Constraint.admits_of_lowered` move one bound.
* `Constraint.between_of_narrower` and `Constraint.notBetween_of_wider` move both.
* `Registry.wider_ranges_keep_records` says it of requests.
-/

namespace RecordFilter

/-! ## Bounds -/

/-- Two texts of digits spell natural numbers, and the first one is not the greater. -/
structure NumeralsLe (small large : String) : Prop where
  digits_small : IsNumeral small.toList
  digits_large : IsNumeral large.toList
  le : natOfDigits small.toList ≤ natOfDigits large.toList

theorem isPlainDecimal_of_isNumeral {text : String} (h : IsNumeral text.toList) :
    IsPlainDecimal text :=
  Or.inl (.whole h)

/-- What they are compared as is in the same order. -/
theorem NumeralsLe.exists_decimals {small large : String} (h : NumeralsLe small large) :
    ∃ a b, decimal? small = some a ∧ decimal? large = some b ∧ a ≤ b := by
  refine ⟨_, _, (spellsInteger_of_isNumeral h.digits_small).decimal?_eq,
    (spellsInteger_of_isNumeral h.digits_large).decimal?_eq, ?_⟩
  apply Binary64.ofInt_le_ofInt
  exact Int.ofNat_le.mpr h.le

namespace Comparison

/-- What is below a number is below every greater one. -/
theorem holds_of_raised {comparison : Comparison} (hupper : comparison ∈ [lt, le]) {n a b : Int}
    (hab : a ≤ b) (h : comparison.holds (compare n a) = true) :
    comparison.holds (compare n b) = true := by
  simp only [List.mem_cons, List.not_mem_nil, or_false] at hupper
  rcases hupper with rfl | rfl
  · rw [holds_lt_compare] at h ⊢
    exact Int.lt_of_lt_of_le h hab
  · rw [holds_le_compare] at h ⊢
    exact Int.le_trans h hab

/-- What is above a number is above every smaller one. -/
theorem holds_of_lowered {comparison : Comparison} (hlower : comparison ∈ [gt, ge]) {n a b : Int}
    (hab : a ≤ b) (h : comparison.holds (compare n b) = true) :
    comparison.holds (compare n a) = true := by
  simp only [List.mem_cons, List.not_mem_nil, or_false] at hlower
  rcases hlower with rfl | rfl
  · rw [holds_gt_compare] at h ⊢
    exact Int.lt_of_le_of_lt hab h
  · rw [holds_ge_compare] at h ⊢
    exact Int.le_trans hab h

end Comparison

/-! ## Constraints -/

namespace Constraint

variable {record : Json} {field small large low low' high high' : String}

/-- An upper bound can be raised. -/
theorem admits_of_raised (hnumeric : HasNumeric record field) (hbounds : NumeralsLe small large)
    {comparison : Comparison} (hupper : comparison ∈ [.lt, .le])
    (h : (Constraint.compare field comparison small).admits record = true) :
    (Constraint.compare field comparison large).admits record = true := by
  obtain ⟨value, hvalue, hnumber⟩ := hnumeric
  obtain ⟨n, hn⟩ := exists_numeric?_of_isNumeric hnumber
  obtain ⟨a, b, ha, hb, hab⟩ := hbounds.exists_decimals
  rw [admits_compare_of_decimal hvalue hn ha] at h
  rw [admits_compare_of_decimal hvalue hn hb]
  exact Comparison.holds_of_raised hupper hab h

/-- A lower bound can be lowered. -/
theorem admits_of_lowered (hnumeric : HasNumeric record field) (hbounds : NumeralsLe small large)
    {comparison : Comparison} (hlower : comparison ∈ [.gt, .ge])
    (h : (Constraint.compare field comparison large).admits record = true) :
    (Constraint.compare field comparison small).admits record = true := by
  obtain ⟨value, hvalue, hnumber⟩ := hnumeric
  obtain ⟨n, hn⟩ := exists_numeric?_of_isNumeric hnumber
  obtain ⟨a, b, ha, hb, hab⟩ := hbounds.exists_decimals
  rw [admits_compare_of_decimal hvalue hn hb] at h
  rw [admits_compare_of_decimal hvalue hn ha]
  exact Comparison.holds_of_lowered hlower hab h

/-- What is inside a range is inside a wider one. -/
theorem between_of_narrower (hlow : NumeralsLe low' low) (hhigh : NumeralsLe high high')
    (h : (between field low high).admits record = true) :
    (between field low' high').admits record = true := by
  rw [between_admits_iff] at h ⊢
  obtain ⟨hnumeric, -, -, hge, hle⟩ := h
  refine ⟨hnumeric, isPlainDecimal_of_isNumeral hlow.digits_small,
    isPlainDecimal_of_isNumeral hhigh.digits_large, ?_, ?_⟩
  · exact admits_of_lowered hnumeric hlow (by decide) hge
  · exact admits_of_raised hnumeric hhigh (by decide) hle

/-- What is outside a range is outside a narrower one. -/
theorem notBetween_of_wider (hlow : NumeralsLe low' low) (hhigh : NumeralsLe high high')
    (h : (notBetween field low' high').admits record = true) :
    (notBetween field low high).admits record = true := by
  rw [notBetween_admits_iff] at h ⊢
  obtain ⟨hnumeric, -, hout⟩ := h
  refine ⟨hnumeric, isPlainDecimal_of_isNumeral hlow.digits_large, ?_⟩
  rcases hout with hless | ⟨-, hgreater⟩
  · exact Or.inl (admits_of_raised hnumeric hlow (by decide) hless)
  · exact Or.inr ⟨isPlainDecimal_of_isNumeral hhigh.digits_small,
      admits_of_lowered hnumeric hhigh (by decide) hgreater⟩

end Constraint

/-! ## Requests -/

namespace Registry

variable {record : Json} {field low low' high high' small large : String}

/-- A request for a wider range takes all that a request for a range takes. -/
theorem admits_plan_wider (hchars : ∀ c ∈ field.toList, Expression.isFieldChar c = true)
    (hlow : NumeralsLe low' low) (hhigh : NumeralsLe high high')
    (h : (standard.plan [field ++ "=[" ++ low ++ ";" ++ high ++ "]"]).admits record = true) :
    (standard.plan [field ++ "=[" ++ low' ++ ";" ++ high' ++ "]"]).admits record = true := by
  refine admits_plan_of_named '=' (by decide) hchars (by simp) ?_
  intro hfield
  rw [admits_plan_between hfield hlow.digits_large hhigh.digits_small] at h
  rw [admits_plan_between hfield hlow.digits_small hhigh.digits_large]
  exact Constraint.between_of_narrower hlow hhigh h

/-- A request for the outside of a narrower range takes all that one for the outside of a range takes. -/
theorem admits_plan_outside_narrower
    (hchars : ∀ c ∈ field.toList, Expression.isFieldChar c = true)
    (hlow : NumeralsLe low' low) (hhigh : NumeralsLe high high')
    (h : (standard.plan [field ++ "!=[" ++ low' ++ ";" ++ high' ++ "]"]).admits record = true) :
    (standard.plan [field ++ "!=[" ++ low ++ ";" ++ high ++ "]"]).admits record = true := by
  refine admits_plan_of_named '!' (by decide) hchars (by simp) ?_
  intro hfield
  rw [admits_plan_notBetween hfield hlow.digits_small hhigh.digits_large] at h
  rw [admits_plan_notBetween hfield hlow.digits_large hhigh.digits_small]
  exact Constraint.notBetween_of_wider hlow hhigh h

theorem admits_plan_raised (hchars : ∀ c ∈ field.toList, Expression.isFieldChar c = true)
    (hnumeric : HasNumeric record field) (hbounds : NumeralsLe small large)
    (h : (standard.plan [field ++ "<=" ++ small]).admits record = true) :
    (standard.plan [field ++ "<=" ++ large]).admits record = true := by
  refine admits_plan_of_named '<' (by decide) hchars (by simp) ?_
  intro hfield
  rw [admits_plan_le hfield] at h ⊢
  exact Constraint.admits_of_raised hnumeric hbounds (by decide) h

theorem admits_plan_lowered (hchars : ∀ c ∈ field.toList, Expression.isFieldChar c = true)
    (hnumeric : HasNumeric record field) (hbounds : NumeralsLe small large)
    (h : (standard.plan [field ++ ">=" ++ large]).admits record = true) :
    (standard.plan [field ++ ">=" ++ small]).admits record = true := by
  refine admits_plan_of_named '>' (by decide) hchars (by simp) ?_
  intro hfield
  rw [admits_plan_ge hfield] at h ⊢
  exact Constraint.admits_of_lowered hnumeric hbounds (by decide) h

/-- A record that a request for a range takes is taken by every request for a wider one, and what a request for the
outside of a range takes is taken by every request for the outside of a narrower one. The same holds of single bounds
where the record has a number or a plain decimal in the field. Bounds are digits of any length. -/
theorem wider_ranges_keep_records {field : String}
    (hchars : ∀ c ∈ field.toList, Expression.isFieldChar c = true) (record : Json) :
    (∀ low low' high high', NumeralsLe low' low → NumeralsLe high high' →
      ((standard.plan [field ++ "=[" ++ low ++ ";" ++ high ++ "]"]).admits record = true →
        (standard.plan [field ++ "=[" ++ low' ++ ";" ++ high' ++ "]"]).admits record = true) ∧
      ((standard.plan [field ++ "!=[" ++ low' ++ ";" ++ high' ++ "]"]).admits record = true →
        (standard.plan [field ++ "!=[" ++ low ++ ";" ++ high ++ "]"]).admits record = true)) ∧
    (HasNumeric record field → ∀ small large, NumeralsLe small large →
      ((standard.plan [field ++ "<=" ++ small]).admits record = true →
        (standard.plan [field ++ "<=" ++ large]).admits record = true) ∧
      ((standard.plan [field ++ ">=" ++ large]).admits record = true →
        (standard.plan [field ++ ">=" ++ small]).admits record = true)) := by
  constructor
  · intro low low' high high' hlow hhigh
    exact ⟨admits_plan_wider hchars hlow hhigh, admits_plan_outside_narrower hchars hlow hhigh⟩
  · intro hnumeric small large hbounds
    exact ⟨admits_plan_raised hchars hnumeric hbounds, admits_plan_lowered hchars hnumeric hbounds⟩

/-- An integer at the end of those that are exact, inside a range with zeros before its bounds. The upper bounds are
neighbours, one of them not exact. -/
theorem wider_ranges_keep_records_edge :
    let record := Json.object [("size", .number (.integer ⟨9007199254740992, by decide⟩))]
    ((∀ c ∈ "size".toList, Expression.isFieldChar c = true) ∧ HasNumeric record "size" ∧
      NumeralsLe "0004" "5" ∧ NumeralsLe "9007199254740992" "009007199254740993") ∧
    (standard.plan ["size" ++ "=[" ++ "5" ++ ";" ++ "9007199254740992" ++ "]"]).admits record = true ∧
    (standard.plan ["size" ++ "=[" ++ "0004" ++ ";" ++ "009007199254740993" ++ "]"]).admits record =
      true ∧
    (standard.plan ["size" ++ "<=" ++ "009007199254740993"]).admits record = true := by
  intro record
  have hchars : ∀ c ∈ "size".toList, Expression.isFieldChar c = true :=
    List.all_eq_true.mp (by decide)
  have hnumeric : HasNumeric record "size" := ⟨_, rfl, trivial⟩
  have hlow : NumeralsLe "0004" "5" :=
    ⟨isNumeral_iff.mpr (by decide), isNumeral_iff.mpr (by decide), by decide⟩
  have hhigh : NumeralsLe "9007199254740992" "009007199254740993" :=
    ⟨isNumeral_iff.mpr (by decide), isNumeral_iff.mpr (by decide), by decide +kernel⟩
  -- the narrower request and the smaller bound take the record, which is computed
  have hinside :
      (standard.plan ["size" ++ "=[" ++ "5" ++ ";" ++ "9007199254740992" ++ "]"]).admits record =
        true := by
    decide +kernel
  have hbelow : (standard.plan ["size" ++ "<=" ++ "9007199254740992"]).admits record = true := by
    decide +kernel
  obtain ⟨hranges, hbounds⟩ := wider_ranges_keep_records hchars record
  exact ⟨⟨hchars, hnumeric, hlow, hhigh⟩, hinside, (hranges _ _ _ _ hlow hhigh).1 hinside,
    (hbounds hnumeric _ _ hhigh).1 hbelow⟩

/-- A field that is no number is compared as a text: `1x` comes before `2`, but not before `10`. -/
example :
    let record := Json.object [("size", .string "1x")]
    (standard.plan ["size<=2"]).admits record = true ∧
      (standard.plan ["size<=10"]).admits record = false := by
  decide +kernel

end Registry

end RecordFilter
