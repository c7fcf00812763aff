import RecordFilter.Number.Basic
import RecordFilter.Proofs.Number.Nearest

/-!
# Integers as binary64 numbers

An integer is compared by the binary64 number nearest to it. Rounding keeps the order, though it may make
different integers equal, and it changes no integer up to `2 ^ 53`.

* `ofInt` is the number nearest to an integer, `isNearest_ofInt` says so, `ofInt_le_ofInt` keeps the order.
* `ofInt_eq_mul_one`: an integer up to `2 ^ 53` is its own nearest number.
* `compare_ofInt`: integers compare as their nearest numbers do if one of them is less than `2 ^ 53`.
* `Number.Is` says that a number is a natural number, and `Number.Is.signedUnits_eq` by which binary64 number it
  is compared then.
-/

namespace RecordFilter

namespace Binary64

/-- The number nearest to an integer, in units. -/
def ofInt (n : Int) : Int :=
  let magnitude : Int := nearest (n.natAbs * one) 1
  if n < 0 then -magnitude else magnitude

theorem ofInt_natCast (n : Nat) : ofInt n = nearest (n * one) 1 := by
  have hn : ¬(n : Int) < 0 := by omega
  simp only [ofInt, if_neg hn, Int.natAbs_natCast]

theorem ofInt_neg (n : Int) : ofInt (-n) = -ofInt n := by
  have hzero : nearest (0 * one) 1 = 0 := by
    rw [Nat.zero_mul]
    exact nearest_of_two_mul_lt (by decide)
  rcases Int.lt_trichotomy n 0 with hn | rfl | hn
  · have hpos : ¬-n < 0 := by omega
    simp only [ofInt, Int.natAbs_neg, if_pos hn, if_neg hpos, Int.neg_neg]
  · simp only [ofInt, Int.neg_zero, Int.natAbs_zero, hzero]
    rfl
  · have hneg : -n < 0 := by omega
    have hpos : ¬n < 0 := by omega
    simp only [ofInt, Int.natAbs_neg, if_pos hneg, if_neg hpos]

/-- Integers of 64 bits lie far below the limit. -/
theorem nearest_lt_limit {n : Nat} (h : n < 2 ^ 64) : nearest (n * one) 1 < limit := by
  have hbound : n * one ≤ 2 ^ (64 + places) :=
    calc n * one ≤ 2 ^ 64 * one := Nat.mul_le_mul_right one (Nat.le_of_lt h)
      _ = 2 ^ (64 + places) := by rw [one_eq, Nat.pow_add]
  have hpow : Representable (2 ^ (64 + places)) := by
    constructor
    · rw [limit_eq]
      exact Nat.pow_lt_pow_right (by decide) (by omega)
    · exact Nat.mod_eq_zero_of_dvd (step_dvd_two_pow (Nat.le_of_eq Nat.log2_two_pow))
  calc nearest (n * one) 1 ≤ nearest (2 ^ (64 + places)) 1 := nearest_le_nearest hbound
    _ = 2 ^ (64 + places) := nearest_of_representable hpow
    _ < limit := hpow.1

/-- The nearest number of an integer of 64 bits is one that is nearest to it. -/
theorem isNearest_ofInt {n : Int} (h : n.natAbs < 2 ^ 64) : IsNearest (n * one) (ofInt n) := by
  have hnat (a : Nat) (ha : a < 2 ^ 64) : IsNearest (a * one) (ofInt a) := by
    rw [ofInt_natCast, ← Int.natCast_mul]
    exact isNearest_nearest (nearest_lt_limit ha)
  obtain ⟨a, rfl | rfl⟩ := n.eq_nat_or_neg
  · exact hnat a (by omega)
  · rw [ofInt_neg, Int.neg_mul]
    exact (hnat a (by omega)).neg

theorem ofInt_le_ofInt {n m : Int} (h : n ≤ m) : ofInt n ≤ ofInt m := by
  have hnat {a b : Nat} (hab : a ≤ b) : ofInt a ≤ ofInt b := by
    rw [ofInt_natCast, ofInt_natCast]
    exact Int.ofNat_le.mpr (nearest_le_nearest (Nat.mul_le_mul_right _ hab))
  have hnonneg (a : Nat) : 0 ≤ ofInt a := by
    rw [ofInt_natCast]
    exact Int.natCast_nonneg _
  -- both on one side of zero, or zero between them
  obtain ⟨a, rfl | rfl⟩ := n.eq_nat_or_neg
  · obtain ⟨b, rfl⟩ := Int.eq_ofNat_of_zero_le (Int.le_trans (Int.natCast_nonneg a) h)
    exact hnat (Int.ofNat_le.mp h)
  · obtain ⟨b, rfl | rfl⟩ := m.eq_nat_or_neg
    · have ha := hnonneg a
      have hb := hnonneg b
      rw [ofInt_neg]
      omega
    · have hba := hnat (a := b) (b := a) (by omega)
      rw [ofInt_neg, ofInt_neg]
      omega

/-- A multiple of a power of two by an integer up to `2 ^ 53` is a magnitude of the format. -/
theorem representable_mul_two_pow {n k : Nat} (h : n ≤ 2 ^ 53) (hk : k < 971 + places) :
    Representable (n * 2 ^ k) := by
  have hbound : n * 2 ^ k ≤ 2 ^ (53 + k) :=
    calc n * 2 ^ k ≤ 2 ^ 53 * 2 ^ k := Nat.mul_le_mul_right _ h
      _ = 2 ^ (53 + k) := (Nat.pow_add ..).symm
  constructor
  · rw [limit_eq]
    exact Nat.lt_of_le_of_lt hbound (Nat.pow_lt_pow_right (by decide) (by omega))
  · refine Nat.mod_eq_zero_of_dvd ?_
    rcases Nat.lt_or_eq_of_le hbound with hlt | heq
    · -- the distance of neighbours is not more than the power of two
      have hlog : (n * 2 ^ k).log2 ≤ 52 + k := by
        by_cases hzero : n * 2 ^ k = 0
        · rw [hzero]
          exact Nat.zero_le _
        · have hlog := (Nat.log2_lt hzero).mpr hlt
          omega
      have hstep : step (n * 2 ^ k) ∣ 2 ^ k := Nat.pow_dvd_pow 2 (by omega)
      exact Nat.dvd_trans hstep (Nat.dvd_mul_left _ _)
    · rw [heq]
      exact step_dvd_two_pow (Nat.le_of_eq Nat.log2_two_pow)

theorem representable_mul_one {n : Nat} (h : n ≤ 2 ^ 53) : Representable (n * one) := by
  rw [one_eq]
  exact representable_mul_two_pow h (by omega)

/-- An integer up to `2 ^ 53` is its own nearest number. -/
theorem ofInt_eq_mul_one {n : Int} (h : n.natAbs ≤ 2 ^ 53) : ofInt n = n * one := by
  have hnat (a : Nat) (ha : a ≤ 2 ^ 53) : ofInt a = a * one := by
    rw [ofInt_natCast, nearest_of_representable (representable_mul_one ha), Int.natCast_mul]
  obtain ⟨a, rfl | rfl⟩ := n.eq_nat_or_neg
  · exact hnat a (by omega)
  · rw [ofInt_neg, hnat a (by omega), Int.neg_mul]

theorem ofInt_lt_ofInt_iff {n m : Int} (h : n.natAbs < 2 ^ 53 ∨ m.natAbs < 2 ^ 53) :
    ofInt n < ofInt m ↔ n < m := by
  have hnext (k : Int) : k * one < (k + 1) * one :=
    Int.mul_lt_mul_of_pos_right (by omega) (Int.natCast_pos.mpr one_pos)
  constructor
  · intro hlt
    by_contra hge
    have hle := ofInt_le_ofInt (Int.not_lt.mp hge)
    omega
  · intro hlt
    -- the neighbour of the small one, towards the other, is small enough to be kept as well
    rcases h with hn | hm
    · calc ofInt n = n * one := ofInt_eq_mul_one (by omega)
        _ < (n + 1) * one := hnext n
        _ = ofInt (n + 1) := (ofInt_eq_mul_one (by omega)).symm
        _ ≤ ofInt m := ofInt_le_ofInt (by omega)
    · calc ofInt n ≤ ofInt (m - 1) := ofInt_le_ofInt (by omega)
        _ = (m - 1) * one := ofInt_eq_mul_one (by omega)
        _ < (m - 1 + 1) * one := hnext (m - 1)
        _ = m * one := by rw [Int.sub_add_cancel]
        _ = ofInt m := (ofInt_eq_mul_one (by omega)).symm

/-- Integers compare as their nearest numbers do if one of them is less than `2 ^ 53`. -/
theorem compare_ofInt {n m : Int} (h : n.natAbs < 2 ^ 53 ∨ m.natAbs < 2 ^ 53) :
    compare (ofInt n) (ofInt m) = compare n m := by
  rcases Int.lt_trichotomy n m with hlt | rfl | hgt
  · rw [Int.compare_eq_lt.mpr hlt, Int.compare_eq_lt.mpr ((ofInt_lt_ofInt_iff h).mpr hlt)]
  · rw [Int.compare_eq_eq.mpr rfl, Int.compare_eq_eq.mpr rfl]
  · rw [Int.compare_eq_gt.mpr hgt, Int.compare_eq_gt.mpr ((ofInt_lt_ofInt_iff h.symm).mpr hgt)]

/-! ## Numbers that are integers -/

theorem mul_one_inj {i j : Int} : i * (one : Int) = j * one ↔ i = j :=
  Int.mul_eq_mul_right_iff (Int.ne_of_gt (Int.natCast_pos.mpr one_pos))

theorem natAbs_signedUnits (x : Binary64) : x.signedUnits.natAbs = x.units := by
  unfold signedUnits
  split
  · rw [Int.natAbs_neg, Int.natAbs_natCast]
  · rw [Int.natAbs_natCast]

/-- A float is an integer if its magnitude is a multiple of one. -/
theorem toInt?_eq_some_iff {x : Binary64} {i : Int} :
    x.toInt? = some i ↔ x.signedUnits = i * one := by
  unfold toInt?
  split
  · -- a multiple of one is divided by it and multiplied again without a loss
    rename_i hmod
    have hunits : (x.units : Int) = (x.units / one : Nat) * one := by
      rw [← Int.natCast_mul, Nat.div_mul_cancel (Nat.dvd_of_mod_eq_zero hmod)]
    rw [Option.some_inj, ← mul_one_inj, signedUnits]
    cases x.negative with
    | false => simp only [Bool.false_eq_true, if_false, ← hunits]
    | true => simp only [if_true, Int.neg_mul, ← hunits]
  · rename_i hmod
    constructor
    · intro h
      cases h
    · intro h
      have hunits : x.units = i.natAbs * one := by
        rw [← natAbs_signedUnits, h, Int.natAbs_mul, Int.natAbs_natCast]
      rw [hunits, Nat.mul_mod_left] at hmod
      exact absurd rfl hmod

end Binary64

namespace Number

/-- The value of a number in units of the binary64 format. An integer is not rounded. -/
def exactUnits : Number → Int
  | integer n => n.val * Binary64.one
  | float x => x.signedUnits

/-- A number is a natural number, be it an integer or a float. -/
def Is (n : Number) (k : Nat) : Prop :=
  n.exactUnits = k * Binary64.one

instance (n : Number) (k : Nat) : Decidable (n.Is k) :=
  inferInstanceAs (Decidable (_ = _))

variable {n : Number} {k : Nat}

/-- A natural number is compared by the binary64 number nearest to it. A float is that number itself. -/
theorem Is.signedUnits_eq (h : n.Is k) : n.signedUnits = Binary64.ofInt k := by
  cases n with
  | integer n =>
    have hval : n.val = k := Binary64.mul_one_inj.mp h
    rw [← hval]
    rfl
  | float x =>
    have hunits : x.signedUnits = (k * Binary64.one : Nat) := by
      rw [Int.natCast_mul]
      exact h
    have hmagnitude : x.units = k * Binary64.one := by
      rw [← x.natAbs_signedUnits, hunits, Int.natAbs_natCast]
    -- the float holds the number, so that rounding leaves it as it is
    have hrepresentable := x.representable
    rw [hmagnitude] at hrepresentable
    rw [Binary64.ofInt_natCast, Binary64.nearest_of_representable hrepresentable]
    exact hunits

end Number

end RecordFilter
