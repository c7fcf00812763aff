import RecordFilter.Proofs.Number.Rounding

/-!
# Rounding to the nearest magnitude

A whole number of units is rounded to a magnitude of the format that is nearest to it, and from two that are
equally near to the one with an even significand. Rounding keeps the order.

* `natAbs_sub_roundHalfEven_le`: rounding to multiples of a number is to the nearest one.
* `nearest_le_nearest`: rounding to the format keeps the order of magnitudes.
* `nearest_eq_of_near`: a quotient close enough to a magnitude of the format is rounded to it.
* `isNearest_nearest`: what is rounded to is nearest, with an even significand in a tie.
-/

namespace RecordFilter

/-! ## Multiples of a number -/

/-- Rounding goes to the multiple below or above, whichever is not further. -/
theorem roundHalfEven_spec (n d : Nat) :
    roundHalfEven n d = n / d ∧ 2 * (n % d) ≤ d ∨
      roundHalfEven n d = n / d + 1 ∧ d ≤ 2 * (n % d) := by
  simp only [roundHalfEven]
  split_ifs
  all_goals omega

theorem roundHalfEven_le_add_one (n d : Nat) : roundHalfEven n d ≤ n / d + 1 := by
  rcases roundHalfEven_cases n d with h | h
  · omega
  · omega

theorem roundHalfEven_le_roundHalfEven {n m : Nat} (d : Nat) (h : n ≤ m) :
    roundHalfEven n d ≤ roundHalfEven m d := by
  have hdiv : n / d ≤ m / d := Nat.div_le_div_right h
  rcases Nat.lt_or_eq_of_le hdiv with hlt | heq
  · calc roundHalfEven n d ≤ n / d + 1 := roundHalfEven_le_add_one n d
      _ ≤ m / d := hlt
      _ ≤ roundHalfEven m d := div_le_roundHalfEven m d
  · -- between the same two integers, the one with the greater remainder is no nearer to the lower one
    have hmod : n % d ≤ m % d := by
      have hn := Nat.div_add_mod n d
      have hm := Nat.div_add_mod m d
      rw [heq] at hn
      omega
    simp only [roundHalfEven, heq]
    split_ifs
    all_goals omega

/-- What lies between a number and the multiples of another one. -/
theorem mul_le_or_le_mul (n k d : Nat) : k * d ≤ n / d * d ∨ n / d * d + d ≤ k * d := by
  rcases Nat.lt_or_ge (n / d) k with h | h
  · right
    calc n / d * d + d = (n / d + 1) * d := (Nat.succ_mul _ _).symm
      _ ≤ k * d := Nat.mul_le_mul_right d h
  · left
    exact Nat.mul_le_mul_right d h

/-- No multiple is nearer than the one that is rounded to. -/
theorem natAbs_sub_roundHalfEven_le (n k : Nat) {d : Nat} (hd : 0 < d) :
    ((n : Int) - (roundHalfEven n d * d : Nat)).natAbs ≤ ((n : Int) - (k * d : Nat)).natAbs := by
  have hn := Nat.div_add_mod' n d
  have hmod := Nat.mod_lt n hd
  have hmultiple := mul_le_or_le_mul n k d
  rcases roundHalfEven_spec n d with ⟨hround, hhalf⟩ | ⟨hround, hhalf⟩
  · rw [hround]
    omega
  · rw [hround, Nat.succ_mul]
    omega

/-- Where another multiple is as near, an even one is rounded to. -/
theorem even_roundHalfEven_of_tie {n k d : Nat} (hd : 0 < d) (hne : k * d ≠ roundHalfEven n d * d)
    (htie : ((n : Int) - (k * d : Nat)).natAbs = ((n : Int) - (roundHalfEven n d * d : Nat)).natAbs) :
    roundHalfEven n d % 2 = 0 := by
  have hn := Nat.div_add_mod' n d
  have hmod := Nat.mod_lt n hd
  have hmultiple := mul_le_or_le_mul n k d
  have hhalf : 2 * (n % d) = d := by
    rcases roundHalfEven_spec n d with ⟨hround, hhalf⟩ | ⟨hround, hhalf⟩
    · rw [hround] at hne htie
      omega
    · rw [hround, Nat.succ_mul] at hne htie
      omega
  simp only [roundHalfEven, hhalf, Nat.lt_irrefl, if_false]
  omega

/-- Less than half of the divisor away from a multiple, this multiple is rounded to. -/
theorem roundHalfEven_eq_of_near {n d k : Nat}
    (h : 2 * ((n : Int) - (k * d : Nat)).natAbs < d) : roundHalfEven n d = k := by
  have hle := natAbs_sub_roundHalfEven_le n k (by omega : 0 < d)
  rcases Nat.lt_trichotomy (roundHalfEven n d) k with hlt | heq | hgt
  · have hmul : (roundHalfEven n d + 1) * d ≤ k * d := Nat.mul_le_mul_right d hlt
    rw [Nat.succ_mul] at hmul
    omega
  · exact heq
  · have hmul : (k + 1) * d ≤ roundHalfEven n d * d := Nat.mul_le_mul_right d hgt
    rw [Nat.succ_mul] at hmul
    omega

namespace Binary64

/-! ## Without a greatest magnitude -/

/-- The magnitude nearest to `units`, as if there were no greatest one. -/
def rounded (units : Nat) : Nat :=
  roundHalfEven units (step units) * step units

/-- The powers of two around a magnitude are multiples of the distance between its neighbours. -/
theorem step_dvd_two_pow {units k : Nat} (h : units.log2 ≤ k) : step units ∣ 2 ^ k :=
  Nat.pow_dvd_pow 2 (by omega)

theorem rounded_zero : rounded 0 = 0 := rfl

theorem two_pow_log2_le_rounded {units : Nat} (h : units ≠ 0) : 2 ^ units.log2 ≤ rounded units :=
  calc 2 ^ units.log2 = 2 ^ units.log2 / step units * step units :=
        (Nat.div_mul_cancel (step_dvd_two_pow (Nat.le_refl _))).symm
    _ ≤ units / step units * step units :=
        Nat.mul_le_mul_right _ (Nat.div_le_div_right (Nat.log2_self_le h))
    _ ≤ rounded units := Nat.mul_le_mul_right _ (div_le_roundHalfEven _ _)

theorem rounded_le_two_pow (units : Nat) : rounded units ≤ 2 ^ (units.log2 + 1) := by
  have hdvd : step units ∣ 2 ^ (units.log2 + 1) := step_dvd_two_pow (Nat.le_succ _)
  have hmod : 2 ^ (units.log2 + 1) % step units = 0 := Nat.mod_eq_zero_of_dvd hdvd
  calc rounded units ≤ roundHalfEven (2 ^ (units.log2 + 1)) (step units) * step units :=
        Nat.mul_le_mul_right _
          (roundHalfEven_le_roundHalfEven _ (Nat.le_of_lt Nat.lt_log2_self))
    _ = 2 ^ (units.log2 + 1) / step units * step units := by
        rw [roundHalfEven_of_mod_eq_zero (step_pos units) hmod]
    _ = 2 ^ (units.log2 + 1) := Nat.div_mul_cancel hdvd

theorem rounded_le_rounded {u v : Nat} (h : u ≤ v) : rounded u ≤ rounded v := by
  by_cases hv : v = 0
  · have huv : u = v := by omega
    rw [huv]
  have hlog : u.log2 ≤ v.log2 := by
    by_cases hu : u = 0
    · rw [hu]
      exact Nat.zero_le _
    · exact (Nat.le_log2 hv).mpr (Nat.le_trans (Nat.log2_self_le hu) h)
  -- the distance between neighbours changes from binade to binade only
  rcases Nat.lt_or_eq_of_le hlog with hlt | heq
  · -- a power of two lies between the two, and neither is rounded past it
    calc rounded u ≤ 2 ^ (u.log2 + 1) := rounded_le_two_pow u
      _ ≤ 2 ^ v.log2 := Nat.pow_le_pow_right (by decide) hlt
      _ ≤ rounded v := two_pow_log2_le_rounded hv
  · have hstep : step u = step v := by rw [step, step, heq]
    rw [rounded, rounded, hstep]
    exact Nat.mul_le_mul_right _ (roundHalfEven_le_roundHalfEven _ h)

/-- What is rounded to lies in the same binade, or is the first magnitude of the next one. -/
theorem step_rounded {units : Nat} (h : units ≠ 0) :
    step (rounded units) = step units ∨ rounded units = 2 ^ (units.log2 + 1) := by
  rcases Nat.lt_or_eq_of_le (rounded_le_two_pow units) with hlt | heq
  · left
    have hlow := two_pow_log2_le_rounded h
    have hne : rounded units ≠ 0 := by
      have hpos := Nat.two_pow_pos units.log2
      omega
    have hlog : (rounded units).log2 = units.log2 := (Nat.log2_eq_iff hne).mpr ⟨hlow, hlt⟩
    rw [step, step, hlog]
  · exact Or.inr heq

theorem step_dvd_rounded (units : Nat) : step (rounded units) ∣ rounded units := by
  by_cases h : units = 0
  · rw [h, rounded_zero]
    exact Nat.dvd_zero _
  · rcases step_rounded h with hstep | hpow
    · rw [hstep]
      exact Nat.dvd_mul_left _ _
    · rw [hpow]
      exact step_dvd_two_pow (Nat.le_of_eq Nat.log2_two_pow)

/-- A magnitude of the format is a multiple of the distances in the binades below it. -/
theorem step_dvd_of_le {u v : Nat} (h : 2 ^ u.log2 ≤ v) (hv : step v ∣ v) : step u ∣ v := by
  have hne : v ≠ 0 := by
    have hpos := Nat.two_pow_pos u.log2
    omega
  have hlog : u.log2 ≤ v.log2 := (Nat.le_log2 hne).mpr h
  have hstep : step u ∣ step v := Nat.pow_dvd_pow 2 (by omega)
  exact Nat.dvd_trans hstep hv

/-- No magnitude is nearer than the one that is rounded to. -/
theorem natAbs_sub_rounded_le (units : Nat) {v : Nat} (hv : step v ∣ v) :
    ((units : Int) - rounded units).natAbs ≤ ((units : Int) - v).natAbs := by
  by_cases h : units = 0
  · rw [h, rounded_zero]
    exact Nat.zero_le _
  rcases Nat.lt_or_ge v (2 ^ units.log2) with hlt | hge
  · -- the power of two between the two is a multiple, and nearer
    obtain ⟨k, hk⟩ := step_dvd_two_pow (Nat.le_refl units.log2)
    have hpow := natAbs_sub_roundHalfEven_le units k (step_pos units)
    rw [Nat.mul_comm k, ← hk] at hpow
    have hself := Nat.log2_self_le h
    rw [rounded]
    omega
  · obtain ⟨k, hk⟩ := step_dvd_of_le hge hv
    rw [hk, Nat.mul_comm]
    exact natAbs_sub_roundHalfEven_le units k (step_pos units)

/-- The first magnitude of a binade has an even significand. -/
theorem even_two_pow_div_step (k : Nat) : 2 ^ (k + 1) / step (2 ^ (k + 1)) % 2 = 0 := by
  rw [step, Nat.log2_two_pow]
  obtain ⟨e, he⟩ : ∃ e, k + 1 - (k + 1 - 52) = e + 1 := ⟨k - (k + 1 - 52), by omega⟩
  have hdiv : 2 ^ (k + 1) / 2 ^ (k + 1 - 52) = 2 ^ (e + 1) := by
    rw [Nat.pow_div (Nat.sub_le _ _) (by decide), he]
  show 2 ^ (k + 1) / 2 ^ (k + 1 - 52) % 2 = 0
  rw [hdiv, Nat.pow_succ, Nat.mul_mod_left]

/-- Where another magnitude is as near, one with an even significand is rounded to. -/
theorem even_rounded_of_tie {units v : Nat} (hv : step v ∣ v) (hne : v ≠ rounded units)
    (htie : ((units : Int) - v).natAbs = ((units : Int) - rounded units).natAbs) :
    rounded units / step (rounded units) % 2 = 0 := by
  have h : units ≠ 0 := by
    rintro rfl
    rw [rounded_zero] at hne htie
    omega
  have heven : roundHalfEven units (step units) % 2 = 0 := by
    rcases Nat.lt_or_ge v (2 ^ units.log2) with hlt | hge
    · -- the power of two between the two would be nearer
      have hpow := natAbs_sub_rounded_le units (v := 2 ^ units.log2)
        (step_dvd_two_pow (Nat.le_of_eq Nat.log2_two_pow))
      have hself := Nat.log2_self_le h
      omega
    · obtain ⟨k, rfl⟩ := step_dvd_of_le hge hv
      rw [Nat.mul_comm] at hne htie
      exact even_roundHalfEven_of_tie (step_pos units) hne htie
  -- in the next binade the significand is even whatever it was rounded from
  rcases step_rounded h with hstep | hpow
  · rw [hstep, rounded, Nat.mul_div_cancel _ (step_pos units)]
    exact heven
  · rw [hpow]
    exact even_two_pow_div_step units.log2

/-! ## With the limit -/

theorem nearest_one_eq (units : Nat) : nearest units 1 = min limit (rounded units) := by
  simp only [nearest, rounded, Nat.div_one, Nat.one_mul]

theorem nearest_eq_rounded {units : Nat} (h : nearest units 1 < limit) :
    nearest units 1 = rounded units := by
  rw [nearest_one_eq] at h ⊢
  omega

/-- Rounding to the format keeps the order of magnitudes. -/
theorem nearest_le_nearest {u v : Nat} (h : u ≤ v) : nearest u 1 ≤ nearest v 1 := by
  have hrounded := rounded_le_rounded h
  rw [nearest_one_eq, nearest_one_eq]
  omega

/-- What is rounded to is a magnitude of the format, unless it is the limit. -/
theorem representable_nearest {units : Nat} (h : nearest units 1 < limit) :
    Representable (nearest units 1) := by
  refine ⟨h, ?_⟩
  rw [nearest_eq_rounded h]
  exact Nat.mod_eq_zero_of_dvd (step_dvd_rounded units)

/-- No magnitude of the format is nearer than the one that is rounded to. -/
theorem natAbs_sub_nearest_le {units v : Nat} (h : nearest units 1 < limit) (hv : Representable v) :
    ((units : Int) - nearest units 1).natAbs ≤ ((units : Int) - v).natAbs := by
  rw [nearest_eq_rounded h]
  exact natAbs_sub_rounded_le units (Nat.dvd_of_mod_eq_zero hv.2)

/-- Of two that are equally near the one with an even significand is rounded to. -/
theorem even_nearest_of_tie {units v : Nat} (h : nearest units 1 < limit) (hv : Representable v)
    (hne : v ≠ nearest units 1)
    (htie : ((units : Int) - v).natAbs = ((units : Int) - nearest units 1).natAbs) :
    nearest units 1 / step (nearest units 1) % 2 = 0 := by
  rw [nearest_eq_rounded h] at hne htie ⊢
  exact even_rounded_of_tie (Nat.dvd_of_mod_eq_zero hv.2) hne htie

/-! ## Quotients close to a magnitude -/

/-- A significand has at most 53 binary digits. -/
theorem lt_two_pow_mul_step (u : Nat) : u < 2 ^ 53 * step u :=
  calc u < 2 ^ (u.log2 + 1) := Nat.lt_log2_self
    _ ≤ 2 ^ (53 + (u.log2 - 52)) := Nat.pow_le_pow_right (by decide) (by omega)
    _ = 2 ^ 53 * step u := Nat.pow_add ..

theorem add_step_le {u v w : Nat} (hv : step u ∣ v) (hw : step u ∣ w) (h : v < w) :
    v + step u ≤ w := by
  refine Nat.not_lt.mp fun hlt => ?_
  exact Nat.not_lt.mpr (Nat.le_of_lt_add_of_dvd hlt hw hv) h

section Near

variable {n d u : Nat}

/-- A quotient less than half of the distance away from a magnitude lies in its binade or below. -/
theorem log2_div_le_of_near (hd : 0 < d) (hu : step u ∣ u)
    (hnear : 2 * ((n : Int) - (u * d : Nat)).natAbs < step u * d) : (n / d).log2 ≤ u.log2 := by
  refine Nat.not_lt.mp fun hlt => ?_
  have hne : n / d ≠ 0 := by
    intro hzero
    rw [hzero, Nat.log2_zero] at hlt
    omega
  have hquotient : u + step u ≤ n / d :=
    calc u + step u ≤ 2 ^ (u.log2 + 1) :=
          add_step_le hu (step_dvd_two_pow (Nat.le_succ _)) Nat.lt_log2_self
      _ ≤ 2 ^ (n / d).log2 := Nat.pow_le_pow_right (by decide) hlt
      _ ≤ n / d := Nat.log2_self_le hne
  have hn : (u + step u) * d ≤ n := (Nat.le_div_iff_mul_le hd).mp hquotient
  rw [Nat.add_mul] at hn
  omega

/-- Below a power of two the distance is half as large, but no smaller than what a significand of this power
leaves. -/
theorem le_two_pow_mul_step_div_of_near (hd : 0 < d) (hu : step u ∣ u)
    (hnear : 2 * ((n : Int) - (u * d : Nat)).natAbs < step u * d) :
    u ≤ 2 ^ 53 * step (n / d) := by
  refine Nat.not_lt.mp fun hlt => ?_
  have hn : n < 2 ^ 53 * step (n / d) * d := (Nat.div_lt_iff_lt_mul hd).mp (lt_two_pow_mul_step _)
  have hpow : 2 ^ 53 * step (n / d) = 2 ^ (53 + ((n / d).log2 - 52)) := (Nat.pow_add ..).symm
  rw [hpow] at hlt hn
  -- call the power of two above the quotient `2 ^ e`
  generalize 53 + ((n / d).log2 - 52) = e at hlt hn
  have hne : u ≠ 0 := Nat.ne_zero_of_lt hlt
  have hlog : e ≤ u.log2 := (Nat.le_log2 hne).mpr (Nat.le_of_lt hlt)
  -- it is not closer to the magnitude than half of the distance between neighbours there
  have hgap : 2 * 2 ^ e + step u ≤ 2 * u := by
    rcases Nat.lt_or_eq_of_le hlog with hbelow | heq
    · have hdouble : 2 ^ (e + 1) ≤ 2 ^ u.log2 := Nat.pow_le_pow_right (by decide) hbelow
      have hstep : step u ≤ 2 ^ u.log2 := Nat.le_of_dvd (Nat.two_pow_pos _) (step_dvd_two_pow (Nat.le_refl _))
      have hself := Nat.log2_self_le hne
      rw [Nat.pow_succ] at hdouble
      omega
    · have hle := add_step_le (step_dvd_two_pow (Nat.le_of_eq heq.symm)) hu hlt
      omega
  have hmul := Nat.mul_le_mul_right d hgap
  rw [Nat.add_mul, Nat.mul_assoc, Nat.mul_assoc] at hmul
  omega

/-- A quotient whose distance from a magnitude is below its `2 ^ (-54)`th part is rounded to it. -/
theorem nearest_eq_of_near (hu : Representable u)
    (hnear : 2 ^ 54 * ((n : Int) - (u * d : Nat)).natAbs < u * d) : nearest n d = u := by
  have hdvd : step u ∣ u := Nat.dvd_of_mod_eq_zero hu.2
  have hd : 0 < d := by
    refine Nat.pos_of_ne_zero ?_
    rintro rfl
    omega
  -- the hypothesis in the terms of both binades, that of the magnitude and that of the quotient
  have hown : 2 * ((n : Int) - (u * d : Nat)).natAbs < step u * d := by
    have hmul := Nat.mul_le_mul_right d (Nat.le_of_lt (lt_two_pow_mul_step u))
    rw [Nat.mul_assoc] at hmul
    omega
  have hquotient : 2 * ((n : Int) - (u * d : Nat)).natAbs < d * step (n / d) := by
    have hmul := Nat.mul_le_mul_right d (le_two_pow_mul_step_div_of_near hd hdvd hown)
    rw [Nat.mul_assoc, Nat.mul_comm (step (n / d))] at hmul
    omega
  obtain ⟨k, hk⟩ : step (n / d) ∣ u := by
    have hlog := log2_div_le_of_near hd hdvd hown
    exact Nat.dvd_trans (Nat.pow_dvd_pow 2 (by omega)) hdvd
  have hround : roundHalfEven n (d * step (n / d)) = k := by
    refine roundHalfEven_eq_of_near ?_
    have hmultiple : k * (d * step (n / d)) = u * d := by
      rw [hk]
      ring
    rw [hmultiple]
    exact hquotient
  simp only [nearest, hround]
  rw [Nat.mul_comm, ← hk]
  exact Nat.min_eq_right (Nat.le_of_lt hu.1)

end Near

/-! ## With a sign -/

/-- A number of the format is nearest to a number of units: no other one is nearer, and its significand is
even if another one is as near. -/
structure IsNearest (units x : Int) : Prop where
  representable : Representable x.natAbs
  nearest : ∀ y : Int, Representable y.natAbs → (units - x).natAbs ≤ (units - y).natAbs
  even : ∀ y : Int, Representable y.natAbs → y ≠ x → (units - y).natAbs = (units - x).natAbs →
    x.natAbs / step x.natAbs % 2 = 0

theorem IsNearest.neg {units x : Int} (h : IsNearest units x) : IsNearest (-units) (-x) where
  representable := by
    rw [Int.natAbs_neg]
    exact h.representable
  nearest := by
    intro y hy
    have hle := h.nearest (-y) (by rwa [Int.natAbs_neg])
    omega
  even := by
    intro y hy hne htie
    rw [Int.natAbs_neg]
    exact h.even (-y) (by rwa [Int.natAbs_neg]) (by omega) (by omega)

/-- What is rounded to is nearest, unless it is the limit. -/
theorem isNearest_nearest {units : Nat} (h : nearest units 1 < limit) :
    IsNearest units (nearest units 1) := by
  have hle {v : Nat} (hv : Representable v) := natAbs_sub_nearest_le h hv
  have hzero := hle representable_zero
  constructor
  · exact representable_nearest h
  · intro y hy
    have hy := hle hy
    omega
  · intro y hy hne htie
    -- a number of the other sign is further than the one without it
    have hsign : y = y.natAbs := by
      have hy := hle hy
      omega
    rw [Int.natAbs_natCast]
    rw [hsign] at hne htie
    exact even_nearest_of_tie h hy (fun heq => hne (congrArg _ heq)) htie

end Binary64

end RecordFilter
