import Mathlib.Data.List.TakeWhile
import RecordFilter.Proofs.Filter.Extraction
import RecordFilter.Proofs.Number.Digits
import RecordFilter.Query.Operand

/-!
# Values and operands

Which texts are numbers, which values compare with an operand, and when a value lies between two bounds.

* `IsPlainDecimal` are the texts that are read as numbers: `isSome_decimal?_iff`.
* `Json.IsScalar` are the values that have an order with every operand: `isSome_compareOperand?_iff`.
* `Json.IsNumeric` are those of them that compare as numbers: `isSome_numeric?_iff`.
* `within?_eq_some_iff` tells what a range says of a number, with the bounds that are looked at.
-/

namespace RecordFilter

/-! ## Plain decimals -/

/-- Digits, perhaps with a point and more digits after them. -/
inductive IsMagnitude : List Char → Prop
  | whole {digits : List Char} (hdigits : IsNumeral digits) : IsMagnitude digits
  | places {digits places : List Char} (hdigits : IsNumeral digits) (hplaces : IsNumeral places) :
    IsMagnitude (digits ++ '.' :: places)

/-- A plain decimal: a magnitude, perhaps with a minus sign before it. -/
def IsPlainDecimal (s : String) : Prop :=
  IsMagnitude s.toList ∨ ∃ magnitude, s.toList = '-' :: magnitude ∧ IsMagnitude magnitude

theorem IsMagnitude.exists_digit {s : List Char} (h : IsMagnitude s) :
    ∃ c rest, s = c :: rest ∧ c.isDigit = true := by
  have hnumeral {digits : List Char} (hdigits : IsNumeral digits) (rest : List Char) :
      ∃ c rest', digits ++ rest = c :: rest' ∧ c.isDigit = true := by
    obtain ⟨c, digits', rfl⟩ := List.exists_cons_of_ne_nil hdigits.1
    exact ⟨c, digits' ++ rest, rfl, hdigits.2 c List.mem_cons_self⟩
  cases h with
  | whole hdigits => simpa using hnumeral hdigits []
  | places hdigits => exact hnumeral hdigits _

theorem isNumeral_iff {s : List Char} : IsNumeral s ↔ s ≠ [] ∧ s.all isDecimalDigit = true := by
  simp only [IsNumeral, List.all_eq_true, isDecimalDigit_eq_isDigit]

theorem isSome_decimalMagnitude?_iff {s : List Char} :
    (decimalMagnitude? s).isSome = true ↔ IsMagnitude s := by
  constructor
  · intro h
    have hcut : s.takeWhile isDecimalDigit ++ s.dropWhile isDecimalDigit = s :=
      List.takeWhile_append_dropWhile
    have hall : (s.takeWhile isDecimalDigit).all isDecimalDigit = true := List.all_takeWhile
    -- the two branches of the reading are the two forms of a magnitude
    unfold decimalMagnitude? at h
    simp only at h
    split at h
    · cases h
    · rename_i hne
      have hdigits : IsNumeral (s.takeWhile isDecimalDigit) := isNumeral_iff.mpr ⟨hne, hall⟩
      split at h
      · rename_i hrest
        rw [hrest, List.append_nil] at hcut
        rw [hcut] at hdigits
        exact .whole hdigits
      · rename_i places hrest
        split at h
        · rename_i hplaces
          rw [← hcut, hrest]
          exact .places hdigits (isNumeral_iff.mpr hplaces)
        · cases h
      · cases h
  · intro h
    cases h with
    | whole hdigits =>
      obtain ⟨hne, hall⟩ := isNumeral_iff.mp hdigits
      rw [List.all_eq_true] at hall
      rw [decimalMagnitude?, List.takeWhile_eq_self_iff.mpr hall, List.dropWhile_eq_nil_iff.mpr hall,
        if_neg hne]
      rfl
    | @places digits places hdigits hplaces =>
      obtain ⟨hne, hall⟩ := isNumeral_iff.mp hdigits
      rw [List.all_eq_true] at hall
      obtain ⟨htake, hdrop⟩ :=
        takeWhile_append_cons hall (by decide : isDecimalDigit '.' = false) places
      rw [decimalMagnitude?, htake, hdrop, if_neg hne]
      simp only [if_pos (isNumeral_iff.mp hplaces)]
      rfl

theorem isSome_decimal?_of_minus {s : String} {magnitude : List Char}
    (h : s.toList = '-' :: magnitude) :
    (decimal? s).isSome = (decimalMagnitude? magnitude).isSome := by
  rw [decimal?, h]
  simp only
  cases decimalMagnitude? magnitude with
  | none => rfl
  | some n => rfl

theorem isSome_decimal?_of_no_minus {s : String}
    (h : ∀ magnitude, s.toList ≠ '-' :: magnitude) :
    (decimal? s).isSome = (decimalMagnitude? s.toList).isSome := by
  unfold decimal?
  split
  · rename_i magnitude hminus
    exact absurd hminus (h magnitude)
  · cases decimalMagnitude? s.toList with
    | none => rfl
    | some n => rfl

/-- The texts that are read as numbers are the plain decimals. -/
theorem isSome_decimal?_iff {s : String} : (decimal? s).isSome = true ↔ IsPlainDecimal s := by
  -- by the sign, which the two readings treat apart
  by_cases hminus : ∃ magnitude, s.toList = '-' :: magnitude
  · obtain ⟨magnitude, hminus⟩ := hminus
    rw [isSome_decimal?_of_minus hminus, isSome_decimalMagnitude?_iff, IsPlainDecimal, hminus]
    constructor
    · intro h
      exact Or.inr ⟨magnitude, rfl, h⟩
    · rintro (h | ⟨magnitude', heq, h⟩)
      · -- a magnitude starts with a digit
        obtain ⟨c, rest, heq, hc⟩ := h.exists_digit
        rw [← (List.cons.inj heq).1] at hc
        exact absurd hc (by decide)
      · rwa [(List.cons.inj heq).2]
  · rw [not_exists] at hminus
    rw [isSome_decimal?_of_no_minus hminus, isSome_decimalMagnitude?_iff, IsPlainDecimal]
    constructor
    · exact Or.inl
    · rintro (h | ⟨magnitude, heq, -⟩)
      · exact h
      · exact absurd heq (hminus magnitude)

theorem exists_decimal?_of_isPlainDecimal {s : String} (h : IsPlainDecimal s) :
    ∃ n, decimal? s = some n :=
  Option.isSome_iff_exists.mp (isSome_decimal?_iff.mpr h)

theorem decimal?_eq_none_iff {s : String} : decimal? s = none ↔ ¬IsPlainDecimal s := by
  rw [← isSome_decimal?_iff, Option.not_isSome_iff_eq_none]

/-! ## Values -/

/-- Strings, numbers and truth values. -/
def Json.IsScalar : Json → Prop
  | .string _ | .number _ | .bool _ => True
  | .null | .array _ | .object _ => False

/-- Numbers, and strings that are plain decimals. -/
def Json.IsNumeric : Json → Prop
  | .number _ => True
  | .string s => IsPlainDecimal s
  | .null | .bool _ | .array _ | .object _ => False

theorem Json.IsNumeric.isScalar {value : Json} (h : value.IsNumeric) : value.IsScalar := by
  cases value with
  | number | string => trivial
  | null | bool | array | object => exact h.elim

theorem isSome_numeric?_iff {value : Json} : (numeric? value).isSome = true ↔ value.IsNumeric := by
  cases value with
  | number n => exact ⟨fun _ => trivial, fun _ => rfl⟩
  | string s => exact isSome_decimal?_iff
  | null | bool | array | object => exact ⟨Bool.noConfusion, False.elim⟩

theorem exists_numeric?_of_isNumeric {value : Json} (h : value.IsNumeric) :
    ∃ n, numeric? value = some n :=
  Option.isSome_iff_exists.mp (isSome_numeric?_iff.mpr h)

theorem isSome_scalarText?_iff {value : Json} :
    value.scalarText?.isSome = true ↔ value.IsScalar := by
  cases value with
  | number | string | bool => exact ⟨fun _ => trivial, fun _ => rfl⟩
  | null | array | object => exact ⟨Bool.noConfusion, False.elim⟩

/-! ## Comparing and ranges -/

theorem compareOperand?_of_decimal {value : Json} {operand : String} {a b : Int}
    (ha : numeric? value = some a) (hb : decimal? operand = some b) :
    compareOperand? value operand = some (compare a b) := by
  rw [compareOperand?, ha, hb]

/-- Scalars have an order with every operand, and nothing else has one with any. -/
theorem isSome_compareOperand?_iff {value : Json} {operand : String} :
    (compareOperand? value operand).isSome = true ↔ value.IsScalar := by
  unfold compareOperand?
  split
  · rename_i a b ha hb
    have hnumeric : value.IsNumeric := isSome_numeric?_iff.mp (Option.isSome_of_eq_some ha)
    exact ⟨fun _ => hnumeric.isScalar, fun _ => rfl⟩
  · rw [Option.isSome_map, isSome_scalarText?_iff]

/-- What a range says of a value: nothing unless the value and the lower bound are numbers. A number below
the lower bound is outside whatever the upper bound is; any other number needs a number there. -/
theorem within?_eq_some_iff {value : Json} {low high : String} {inside : Bool} :
    within? value low high = some inside ↔
      ∃ n least, numeric? value = some n ∧ decimal? low = some least ∧
        ((n < least ∧ inside = false) ∨
          ∃ greatest, least ≤ n ∧ decimal? high = some greatest ∧ inside = decide (n ≤ greatest)) := by
  unfold within?
  cases numeric? value with
  | none => simp
  | some n =>
    cases decimal? low with
    | none => simp
    | some least =>
      -- the upper bound is only looked at from the lower one on
      by_cases hleast : least ≤ n
      · cases decimal? high with
        | none => simp [hleast, Int.not_lt.mpr hleast]
        | some greatest => simp [hleast, Int.not_lt.mpr hleast, eq_comm]
      · simp [hleast, Int.not_le.mp hleast, eq_comm]

end RecordFilter
