import RecordFilter.Proofs.Number.Digits
import RecordFilter.Proofs.Number.Nearest

/-!
# The shortest decimal reads back

Every magnitude of the format but zero reads back from a decimal of seventeen digits. The first digit of the
grid is found by counting digits, so that the magnitude is at least `10 ^ 16` of the grid's steps; the nearest
decimal is half a step away at most, less than the `2 ^ (-54)`th part of the magnitude, and reading it rounds
back.

* `Shortest.one_mul_pow_le`: the exponent of the first digit is not too large.
* `Shortest.units_nearestOnGrid`: a grid that is fine enough has a decimal which reads back.
* `Shortest.units_decimal`: the shortest decimal of a magnitude reads as this magnitude.
-/

namespace RecordFilter

namespace Shortest

theorem units_onGrid? {units : Nat} {exponent : Int} {d : Decimal}
    (h : onGrid? units exponent = some d) : d.units = units := by
  simp only [onGrid?] at h
  split at h
  · rename_i hbelow
    split at h
    · rename_i habove
      -- both neighbours read back, and what is rounded to is one of them
      obtain rfl := Option.some.inj h
      rcases roundHalfEven_cases (ratio units exponent).1 (ratio units exponent).2 with hr | hr
      · simp only [nearestOnGrid, hr]
        exact hbelow
      · simp only [nearestOnGrid, hr]
        exact habove
    · obtain rfl := Option.some.inj h
      exact hbelow
  · split at h
    · rename_i habove
      obtain rfl := Option.some.inj h
      exact habove
    · cases h

/-! ## The first digit -/

theorem ten_pow_le_of_digitsOf {n : Nat} (h : 0 < n) : 10 ^ ((Decimal.digitsOf n).length - 1) ≤ n := by
  rcases Nat.eq_zero_or_pos ((Decimal.digitsOf n).length - 1) with hone | hmore
  · rw [hone]
    exact h
  · refine Nat.not_lt.mp fun hlt => ?_
    have hle : (Decimal.digitsOf n).length ≤ _ := (Nat.length_toDigits_le_iff (by decide) hmore).mpr hlt
    omega

theorem lt_ten_pow_digitsOf (n : Nat) : n < 10 ^ (Decimal.digitsOf n).length :=
  (Nat.length_toDigits_le_iff (by decide) Nat.length_toDigits_pos).mp (Nat.le_refl _)

/-- The power of ten that the first digit stands for is not above the magnitude. -/
theorem one_mul_pow_le {u : Nat} (h : u ≠ 0) :
    Binary64.one * 10 ^ (leadingExponent u).toNat ≤ u * 10 ^ (-leadingExponent u).toNat := by
  rw [leadingExponent]
  split
  · rename_i hle
    -- from one on the digits are those of the whole part
    have hpow := ten_pow_le_of_digitsOf (Nat.div_pos hle Binary64.one_pos)
    have hdigits : 0 < (Decimal.digitsOf (u / Binary64.one)).length := Nat.length_toDigits_pos
    generalize (Decimal.digitsOf (u / Binary64.one)).length = k at hpow hdigits
    have hexp : ((k : Int) - 1).toNat = k - 1 := by omega
    have hneg : (-((k : Int) - 1)).toNat = 0 := by omega
    rw [hexp, hneg, Nat.pow_zero, Nat.mul_one, Nat.mul_comm]
    exact (Nat.le_div_iff_mul_le Binary64.one_pos).mp hpow
  · -- below one they are the zeros that stand in front
    have hpow := lt_ten_pow_digitsOf ((Binary64.one - 1) / u)
    generalize (Decimal.digitsOf ((Binary64.one - 1) / u)).length = k at hpow
    have hexp : (-(k : Int)).toNat = 0 := by omega
    have hneg : (- -(k : Int)).toNat = k := by omega
    rw [hexp, hneg, Nat.pow_zero, Nat.mul_one, Nat.mul_comm]
    have hlt := (Nat.div_lt_iff_lt_mul (Nat.pos_of_ne_zero h)).mp hpow
    omega

/-! ## Grids that are fine enough -/

theorem ratio_eq (u : Nat) (e : Int) :
    ratio u e = (u * 10 ^ (-e).toNat, Binary64.one * 10 ^ e.toNat) := by
  rw [ratio]
  split
  · have hneg : (-e).toNat = 0 := by omega
    rw [hneg, Nat.pow_zero, Nat.mul_one]
    rfl
  · have hpos : e.toNat = 0 := by omega
    rw [hpos, Nat.pow_zero, Nat.mul_one]
    rfl

/-- A grid of which the magnitude has `10 ^ 16` steps has a decimal that reads back. -/
theorem units_nearestOnGrid {u : Nat} (hu : Binary64.Representable u) (hne : u ≠ 0) {e : Int}
    (hfine : 10 ^ 16 * (Binary64.one * 10 ^ e.toNat) ≤ u * 10 ^ (-e).toNat) :
    (nearestOnGrid u e).units = u := by
  have hscale : 0 < 10 ^ (-e).toNat := Nat.pow_pos (by decide)
  have hpos : 0 < u * 10 ^ (-e).toNat := Nat.mul_pos (Nat.pos_of_ne_zero hne) hscale
  have hunits : (nearestOnGrid u e).units =
      Binary64.nearest (roundHalfEven (u * 10 ^ (-e).toNat) (Binary64.one * 10 ^ e.toNat) *
        (Binary64.one * 10 ^ e.toNat)) (10 ^ (-e).toNat) := by
    rw [nearestOnGrid, ratio_eq, Decimal.units, Binary64.ofDecimal_eq_nearest, Nat.mul_assoc,
      Nat.mul_comm (10 ^ e.toNat)]
  rw [hunits]
  refine Binary64.nearest_eq_of_near hu ?_
  have hd : 0 < Binary64.one * 10 ^ e.toNat := Nat.mul_pos Binary64.one_pos (Nat.pow_pos (by decide))
  generalize u * 10 ^ (-e).toNat = n at hfine hpos ⊢
  generalize Binary64.one * 10 ^ e.toNat = d at hfine hd ⊢
  have hn := Nat.div_add_mod' n d
  have hmod := Nat.mod_lt n hd
  -- half a step against `10 ^ 16` steps, and `2 ^ 53` is less than `10 ^ 16`
  rcases roundHalfEven_spec n d with ⟨hround, hhalf⟩ | ⟨hround, hhalf⟩
  · rw [hround]
    omega
  · rw [hround, Nat.succ_mul]
    omega

/-- Seventeen digits from the first one on make a grid that is fine enough. -/
theorem fine_of_sixteen_below {u : Nat} {lead : Int}
    (h : Binary64.one * 10 ^ lead.toNat ≤ u * 10 ^ (-lead).toNat) :
    10 ^ 16 * (Binary64.one * 10 ^ (lead - 16).toNat) ≤ u * 10 ^ (-(lead - 16)).toNat := by
  have hexp : 16 + (lead - 16).toNat + (-lead).toNat = lead.toNat + (-(lead - 16)).toNat := by omega
  refine Nat.le_of_mul_le_mul_right ?_ (Nat.pow_pos (by decide) : 0 < 10 ^ (-lead).toNat)
  calc 10 ^ 16 * (Binary64.one * 10 ^ (lead - 16).toNat) * 10 ^ (-lead).toNat
      = Binary64.one * 10 ^ (16 + (lead - 16).toNat + (-lead).toNat) := by
        rw [Nat.pow_add, Nat.pow_add]
        ring
    _ = Binary64.one * 10 ^ lead.toNat * 10 ^ (-(lead - 16)).toNat := by
        rw [hexp, Nat.pow_add, Nat.mul_assoc]
    _ ≤ u * 10 ^ (-lead).toNat * 10 ^ (-(lead - 16)).toNat := Nat.mul_le_mul_right _ h
    _ = u * 10 ^ (-(lead - 16)).toNat * 10 ^ (-lead).toNat := Nat.mul_right_comm ..

/-- The shortest decimal of a magnitude reads as this magnitude. -/
theorem units_decimal {u : Nat} (h : Binary64.Representable u) (hne : u ≠ 0) :
    (decimal u).units = u := by
  rw [decimal]
  cases hfound : (List.range 16).findSome? fun n : Nat => onGrid? u (leadingExponent u - n) with
  | none =>
    rw [Option.getD_none]
    exact units_nearestOnGrid h hne (fine_of_sixteen_below (one_mul_pow_le hne))
  | some d =>
    obtain ⟨n, -, hn⟩ := List.exists_of_findSome?_eq_some hfound
    exact units_onGrid? hn

end Shortest

end RecordFilter
