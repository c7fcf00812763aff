import Mathlib.Tactic.Ring
import RecordFilter.Number.Binary64

/-!
# Laws of rounding

Rounding looks at the value of a quotient and at nothing else, so that it does not matter how a decimal is
spelled.

* `nearest_eq_of_mul_eq`: equal quotients are rounded alike.
* `nearest_of_representable`: a magnitude of the format is its own nearest one.
* `ofDecimal_eq_nearest`: the cases that `ofDecimal` finds without the power have the value that they would
  have with it.
* `ofDecimal_mul_pow`: zeros at the end of the digits are the same as a larger exponent.
-/

namespace RecordFilter

/-! ## Rounding to integers -/

theorem roundHalfEven_cases (n d : Nat) :
    roundHalfEven n d = n / d ∨ roundHalfEven n d = n / d + 1 := by
  simp only [roundHalfEven]
  split
  · exact Or.inl rfl
  · split
    · exact Or.inr rfl
    · rcases Nat.mod_two_eq_zero_or_one (n / d) with h | h
      · exact Or.inl (by rw [h, Nat.add_zero])
      · exact Or.inr (by rw [h])

theorem div_le_roundHalfEven (n d : Nat) : n / d ≤ roundHalfEven n d := by
  rcases roundHalfEven_cases n d with h | h
  · exact Nat.le_of_eq h.symm
  · rw [h]
    exact Nat.le_succ _

theorem roundHalfEven_mul_right (n d : Nat) {k : Nat} (hk : 0 < k) :
    roundHalfEven (n * k) (d * k) = roundHalfEven n d := by
  have hrem : n * k % (d * k) = n % d * k := Nat.mul_mod_mul_right k n d
  have hlow : 2 * (n % d * k) < d * k ↔ 2 * (n % d) < d := by
    rw [← Nat.mul_assoc]
    exact Nat.mul_lt_mul_right hk
  have hhigh : d * k < 2 * (n % d * k) ↔ d < 2 * (n % d) := by
    rw [← Nat.mul_assoc]
    exact Nat.mul_lt_mul_right hk
  simp only [roundHalfEven, hrem, hlow, hhigh, Nat.mul_div_mul_right _ _ hk]

/-- A multiple of the divisor is not rounded. -/
theorem roundHalfEven_of_mod_eq_zero {n d : Nat} (hd : 0 < d) (h : n % d = 0) :
    roundHalfEven n d = n / d := by
  simp [roundHalfEven, h, hd]

/-- Less than half of the divisor is rounded to nothing. -/
theorem roundHalfEven_of_two_mul_lt {n d : Nat} (h : 2 * n < d) : roundHalfEven n d = 0 := by
  have hlt : n < d := by omega
  simp [roundHalfEven, Nat.mod_eq_of_lt hlt, Nat.div_eq_of_lt hlt, h]

namespace Binary64

/-! ## Rounding to the format -/

theorem step_pos (units : Nat) : 0 < step units :=
  Nat.two_pow_pos _

theorem one_eq : one = 2 ^ places := by
  unfold one
  generalize places = p
  exact Nat.pow_eq

theorem one_pos : 0 < one := by
  rw [one_eq]
  exact Nat.two_pow_pos _

theorem limit_eq : limit = 2 ^ (1024 + places) := by
  unfold limit
  generalize 1024 + places = p
  exact Nat.pow_eq

theorem representable_zero : Representable 0 := by
  constructor
  · rw [limit_eq]
    exact Nat.two_pow_pos (1024 + places)
  · exact Nat.zero_mod _

theorem nearest_mul_right (n d : Nat) {k : Nat} (hk : 0 < k) :
    nearest (n * k) (d * k) = nearest n d := by
  have hgap : d * k * step (n / d) = d * step (n / d) * k := by
    rw [Nat.mul_assoc, Nat.mul_comm k, ← Nat.mul_assoc]
  simp only [nearest, Nat.mul_div_mul_right _ _ hk, hgap, roundHalfEven_mul_right _ _ hk]

/-- Equal quotients are rounded alike. -/
theorem nearest_eq_of_mul_eq {n d n' d' : Nat} (hd : 0 < d) (hd' : 0 < d')
    (h : n * d' = n' * d) : nearest n d = nearest n' d' :=
  calc nearest n d = nearest (n * d') (d * d') := (nearest_mul_right n d hd').symm
    _ = nearest (n' * d) (d' * d) := by rw [h, Nat.mul_comm d d']
    _ = nearest n' d' := nearest_mul_right n' d' hd

theorem nearest_of_representable {units : Nat} (h : Representable units) :
    nearest units 1 = units := by
  obtain ⟨hlimit, hstep⟩ := h
  have hround : roundHalfEven units (1 * step units) * step units = units := by
    rw [Nat.one_mul, roundHalfEven_of_mod_eq_zero (step_pos units) hstep]
    exact Nat.div_mul_cancel (Nat.dvd_of_mod_eq_zero hstep)
  simp only [nearest, Nat.div_one, hround]
  exact Nat.min_eq_right (Nat.le_of_lt hlimit)

/-- All quotients from the limit on are rounded to it. -/
theorem nearest_of_limit_le {n d : Nat} (h : limit ≤ n / d) : nearest n d = limit := by
  have hdvd : step (n / d) ∣ 2 ^ (n / d).log2 := Nat.pow_dvd_pow 2 (Nat.sub_le _ _)
  have hne : n / d ≠ 0 := by
    have hpos : 0 < limit := by
      rw [limit_eq]
      exact Nat.two_pow_pos _
    omega
  have hlog : 1024 + places ≤ (n / d).log2 := by
    rw [limit_eq] at h
    exact (Nat.le_log2 hne).mpr h
  refine Nat.min_eq_left ?_
  -- the highest power of two in the quotient is a multiple of the gap, and not below the limit
  calc limit = 2 ^ (1024 + places) := limit_eq
    _ ≤ 2 ^ (n / d).log2 := Nat.pow_le_pow_right (by decide) hlog
    _ = 2 ^ (n / d).log2 / step (n / d) * step (n / d) := (Nat.div_mul_cancel hdvd).symm
    _ ≤ n / d / step (n / d) * step (n / d) :=
      Nat.mul_le_mul_right _ (Nat.div_le_div_right (Nat.log2_self_le hne))
    _ = n / (d * step (n / d)) * step (n / d) := by rw [Nat.div_div_eq_div_mul]
    _ ≤ _ := Nat.mul_le_mul_right _ (div_le_roundHalfEven _ _)

/-- Less than half of a unit is rounded to zero. -/
theorem nearest_of_two_mul_lt {n d : Nat} (h : 2 * n < d) : nearest n d = 0 := by
  have hdiv : n / d = 0 := Nat.div_eq_of_lt (by omega)
  have hstep : step 0 = 1 := rfl
  simp only [nearest, hdiv, hstep, Nat.mul_one, roundHalfEven_of_two_mul_lt h]
  exact Nat.min_eq_right (Nat.zero_le _)

/-! ## Rounding decimals -/

/-- A power of ten lies above the same power of eight. -/
theorem two_pow_le_ten_pow {m k : Nat} (h : m ≤ 3 * k) : 2 ^ m ≤ 10 ^ k :=
  calc 2 ^ m ≤ 2 ^ (3 * k) := Nat.pow_le_pow_right (by decide) h
    _ = 8 ^ k := Nat.pow_mul 2 3 k
    _ ≤ 10 ^ k := Nat.pow_le_pow_left (by decide) k

theorem limit_le_of_large {digits k : Nat} (hdigits : digits ≠ 0) (h : 400 < k) :
    limit ≤ digits * 10 ^ k * one :=
  calc limit = 2 ^ (1024 + places) := limit_eq
    _ ≤ 2 ^ (3 * k + places) := Nat.pow_le_pow_right (by decide) (by omega)
    _ = 2 ^ (3 * k) * one := by rw [one_eq, Nat.pow_add]
    _ ≤ 10 ^ k * one := Nat.mul_le_mul_right _ (two_pow_le_ten_pow (Nat.le_refl _))
    _ ≤ digits * 10 ^ k * one :=
      Nat.mul_le_mul_right _ (Nat.le_mul_of_pos_left _ (Nat.pos_of_ne_zero hdigits))

theorem two_mul_lt_of_small {digits k : Nat} (h : digits.log2 + 1100 < 3 * k) :
    2 * (digits * one) < 10 ^ k :=
  calc 2 * (digits * one) = digits * 2 ^ (1 + places) := by rw [one_eq, Nat.pow_add]; ring
    _ < 2 ^ (digits.log2 + 1) * 2 ^ (1 + places) :=
      Nat.mul_lt_mul_of_pos_right Nat.lt_log2_self (Nat.two_pow_pos _)
    _ = 2 ^ (digits.log2 + 1 + (1 + places)) := (Nat.pow_add ..).symm
    _ ≤ 10 ^ k := two_pow_le_ten_pow (by rw [places]; omega)

theorem ofDecimal_eq_nearest (digits : Nat) (exponent : Int) :
    ofDecimal digits exponent =
      nearest (digits * 10 ^ exponent.toNat * one) (10 ^ (-exponent).toNat) := by
  rw [ofDecimal]
  split
  · rename_i hzero
    rw [hzero, nearest_of_two_mul_lt (by simp)]
  · rename_i hdigits
    split
    · rename_i hlarge
      -- already the power of ten is past the limit
      have hneg : (-exponent).toNat = 0 := by omega
      rw [hneg, Nat.pow_zero, nearest_of_limit_le]
      rw [Nat.div_one]
      exact limit_le_of_large hdigits (by omega)
    · split
      · rename_i hsmall
        have hpos : exponent.toNat = 0 := by omega
        rw [hpos, Nat.pow_zero, Nat.mul_one, nearest_of_two_mul_lt]
        exact two_mul_lt_of_small (by omega)
      · split
        · rename_i hexp
          have hneg : (-exponent).toNat = 0 := by omega
          rw [hneg]
          rfl
        · rename_i hexp
          have hpos : exponent.toNat = 0 := by omega
          rw [hpos, Nat.pow_zero, Nat.mul_one]
          rfl

/-- Zeros at the end of the digits are the same as a larger exponent. -/
theorem ofDecimal_mul_pow (digits k : Nat) (exponent : Int) :
    ofDecimal (digits * 10 ^ k) (exponent - k) = ofDecimal digits exponent := by
  rw [ofDecimal_eq_nearest, ofDecimal_eq_nearest]
  refine nearest_eq_of_mul_eq (Nat.pow_pos (by decide)) (Nat.pow_pos (by decide)) ?_
  have hpow : k + (exponent - k).toNat + (-exponent).toNat =
      exponent.toNat + (-(exponent - k)).toNat := by omega
  calc digits * 10 ^ k * 10 ^ (exponent - k).toNat * one * 10 ^ (-exponent).toNat
      = digits * one * 10 ^ (k + (exponent - k).toNat + (-exponent).toNat) := by
        rw [Nat.pow_add, Nat.pow_add]
        ring
    _ = digits * one * 10 ^ (exponent.toNat + (-(exponent - k)).toNat) := by rw [hpow]
    _ = digits * 10 ^ exponent.toNat * one * 10 ^ (-(exponent - k)).toNat := by
        rw [Nat.pow_add]
        ring

end Binary64

end RecordFilter
