import RecordFilter.Json.Strict
import RecordFilter.Proofs.Number.Integers

/-!
# Short numerals in standard JSON

A float is read in two steps that both round. Where the digits make at most `2 ^ 53` and the power of ten is at
most the 22nd, the significand and the power are floats themselves, so that only the last step rounds: the
numeral is read as the float nearest to it, which is what JSON5 makes of the same numeral.

* `Strict.scaled_eq_ofDecimal`: short significands and powers are scaled by rounding once.
* `Strict.float?_eq_float?`: short numerals are read as their nearest floats.
-/

namespace RecordFilter

namespace Json.Strict

open Binary64 (one nearest)

/-- Powers of ten up to the 22nd are floats: their odd parts have 52 binary digits. -/
theorem representable_ten_pow {k : Nat} (h : k ≤ 22) : Binary64.Representable (10 ^ k * one) := by
  have hfive : 5 ^ k ≤ 2 ^ 53 :=
    calc 5 ^ k ≤ 5 ^ 22 := Nat.pow_le_pow_right (by decide) h
      _ ≤ 2 ^ 53 := by decide
  have hsplit : 10 ^ k * one = 5 ^ k * 2 ^ (k + Binary64.places) := by
    rw [Binary64.one_eq, Nat.pow_add, ← Nat.mul_assoc, ← Nat.mul_pow]
  rw [hsplit]
  exact Binary64.representable_mul_two_pow hfive (by omega)

theorem power_eq {k : Nat} (h : k ≤ 22) : power k = 10 ^ k * one := by
  have hpos : ((k : Int)).toNat = k := Int.toNat_natCast k
  have hneg : (-(k : Int)).toNat = 0 := by omega
  rw [power, Binary64.ofDecimal_eq_nearest, hpos, hneg, Nat.one_mul, Nat.pow_zero,
    Binary64.nearest_of_representable (representable_ten_pow h)]

/-- Short significands and powers of ten are scaled by rounding once. -/
theorem scaled_eq_ofDecimal {significand : Nat} {exponent : Int} (hs : significand ≤ 2 ^ 53)
    (he : exponent.natAbs ≤ 22) :
    scaled significand exponent = Binary64.ofDecimal significand exponent := by
  have hunits : nearest (significand * one) 1 = significand * one :=
    Binary64.nearest_of_representable (Binary64.representable_mul_one hs)
  simp only [scaled, hunits]
  split
  · rename_i hzero
    have hs : significand = 0 := (Nat.mul_eq_zero.mp hzero).resolve_right (Nat.ne_of_gt Binary64.one_pos)
    rw [hs]
    rfl
  · rw [if_neg (by omega), Binary64.ofDecimal_eq_nearest]
    split
    · -- a power that is exact as a float is multiplied with
      have hneg : (-exponent).toNat = 0 := by omega
      rw [hneg, power_eq (by omega), Binary64.times, Nat.pow_zero]
      refine Binary64.nearest_eq_of_mul_eq Binary64.one_pos (by decide) ?_
      ring
    · -- or divided by, without a shrinking before
      have hpos : exponent.toNat = 0 := by omega
      have htimes : ((-exponent).toNat - 1) / 308 = 0 := Nat.div_eq_of_lt (by omega)
      simp only [htimes, shrink, Nat.mul_zero, Nat.sub_zero]
      rw [hpos, power_eq (by omega), Binary64.dividedBy, Nat.pow_zero]
      refine Binary64.nearest_eq_of_mul_eq (Nat.mul_pos (Nat.pow_pos (by decide)) Binary64.one_pos)
        (Nat.pow_pos (by decide)) ?_
      ring

/-! ## All digits fit -/

theorem le_natOfDigits_foldl (digits : List Char) (s : Nat) :
    s ≤ digits.foldl (fun n c => 10 * n + (c.toNat - '0'.toNat)) s := by
  induction digits generalizing s with
  | nil => exact Nat.le_refl s
  | cons c rest ih =>
    calc s ≤ 10 * s + (c.toNat - '0'.toNat) := by omega
      _ ≤ _ := ih _

/-- Digits that 64 bits hold behind a significand are all put behind it. -/
theorem accumulate_eq {digits : List Char} {s : Nat}
    (h : digits.foldl (fun n c => 10 * n + (c.toNat - '0'.toNat)) s < 2 ^ 64) :
    accumulate s digits = (digits.foldl (fun n c => 10 * n + (c.toNat - '0'.toNat)) s, []) := by
  induction digits generalizing s with
  | nil => rfl
  | cons c rest ih =>
    have hnext : 10 * s + (c.toNat - '0'.toNat) < 2 ^ 64 :=
      Nat.lt_of_le_of_lt (le_natOfDigits_foldl rest _) h
    simp only [accumulate, Nat.pow_eq, if_pos hnext]
    exact ih h

theorem parts_eq {n : Numeral} (h : natOfDigits (n.whole ++ n.fraction.getD []) < 2 ^ 64) :
    parts n = (natOfDigits (n.whole ++ n.fraction.getD []),
      n.exponent.getD 0 - (n.fraction.getD []).length) := by
  have hsplit : natOfDigits (n.whole ++ n.fraction.getD []) =
      (n.fraction.getD []).foldl (fun n c => 10 * n + (c.toNat - '0'.toNat)) (natOfDigits n.whole) :=
    List.foldl_append
  rw [hsplit] at h ⊢
  have hwhole : accumulate 0 n.whole = (natOfDigits n.whole, []) :=
    accumulate_eq (Nat.lt_of_le_of_lt (le_natOfDigits_foldl _ _) h)
  simp only [parts, hwhole, accumulate_eq h, List.length_nil, Nat.sub_zero]
  rw [Int.natCast_zero, Int.add_zero]

/-- A numeral with digits that make at most `2 ^ 53` and a power of ten up to the 22nd is read as the float
nearest to it. -/
theorem float?_eq_float? {n : Numeral} (hs : natOfDigits (n.whole ++ n.fraction.getD []) ≤ 2 ^ 53)
    (he : (n.exponent.getD 0 - (n.fraction.getD []).length).natAbs ≤ 22) : float? n = n.float? := by
  have hword : natOfDigits (n.whole ++ n.fraction.getD []) < 2 ^ 64 :=
    Nat.lt_of_le_of_lt hs (by decide)
  simp only [float?, parts_eq hword, scaled_eq_ofDecimal hs he]
  rfl

/-- With seventeen digits it may be read as a neighbour, which is written with other digits. -/
example : (number? "51.248178375505404".toList).map Number.text = some "51.24817837550541".toList := by
  decide +kernel

end Json.Strict

end RecordFilter
