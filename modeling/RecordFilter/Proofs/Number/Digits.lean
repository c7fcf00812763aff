import Mathlib.Algebra.Group.Nat.Defs
import RecordFilter.Number.Basic

/-!
# Decimal digits

* `natOfDigits_digitsOf`: the digits of a number spell it.
* `head?_digitsOf_ne_zero`: the digits of a positive number do not start with a zero.
* `Decimal.trimmed_spec`: what is left of the digits when the zeros at their end are dropped.
-/

namespace RecordFilter

/-! ## Spelling natural numbers -/

theorem natOfDigits_append (ds es : List Char) :
    natOfDigits (ds ++ es) = natOfDigits ds * 10 ^ es.length + natOfDigits es := by
  have h : Nat.ofDigitChars 10 es (Nat.ofDigitChars 10 ds 0) = _ :=
    Nat.ofDigitChars_eq_ofDigitChars_zero
  rw [← Nat.ofDigitChars_append, Nat.mul_comm] at h
  exact h

@[simp] theorem natOfDigits_nil : natOfDigits [] = 0 := rfl

@[simp] theorem natOfDigits_replicate_zero (k : Nat) : natOfDigits (List.replicate k '0') = 0 :=
  (Nat.ofDigitChars_replicate_zero (b := 10)).trans (Nat.mul_zero _)

@[simp] theorem natOfDigits_zero_cons (ds : List Char) :
    natOfDigits ('0' :: ds) = natOfDigits ds := rfl

/-- Zeros after the digits multiply by powers of ten. -/
theorem natOfDigits_append_zeros (ds : List Char) (k : Nat) :
    natOfDigits (ds ++ List.replicate k '0') = natOfDigits ds * 10 ^ k := by
  rw [natOfDigits_append, natOfDigits_replicate_zero, List.length_replicate, Nat.add_zero]

/-- Zeros before the digits count for nothing. -/
theorem natOfDigits_zeros_append (k : Nat) (ds : List Char) :
    natOfDigits (List.replicate k '0' ++ ds) = natOfDigits ds := by
  rw [natOfDigits_append, natOfDigits_replicate_zero, Nat.zero_mul, Nat.zero_add]

theorem natOfDigits_digitsOf (n : Nat) : natOfDigits (Decimal.digitsOf n) = n :=
  Nat.ofDigitChars_ten_toDigits

theorem digitsOf_ne_nil (n : Nat) : Decimal.digitsOf n ≠ [] :=
  Nat.toDigits_ne_nil

theorem isDecimalDigit_eq_isDigit (c : Char) : isDecimalDigit c = c.isDigit := by
  simp [isDecimalDigit, Char.isDigit, Char.le_def]

theorem isDecimalDigit_of_mem_digitsOf {n : Nat} {c : Char} (h : c ∈ Decimal.digitsOf n) :
    isDecimalDigit c = true := by
  rw [isDecimalDigit_eq_isDigit]
  exact Nat.isDigit_of_mem_toDigits (by decide) (by decide) h

/-- The digits of a positive number do not start with a zero. -/
theorem head?_digitsOf_ne_zero {n : Nat} (h : 0 < n) : (Decimal.digitsOf n).head? ≠ some '0' := by
  induction n using Nat.strongRecOn with
  | ind n ih =>
    rw [Decimal.digitsOf]
    rcases Nat.lt_or_ge n 10 with hlt | hge
    · rw [Nat.toDigits_of_lt_base hlt]
      have hdigit : ∀ m < 10, 0 < m → [m.digitChar].head? ≠ some '0' := by decide
      exact hdigit n hlt h
    · -- the last digit leaves the first one as it is
      have hfirst := ih (n / 10) (by omega) (by omega)
      obtain ⟨c, rest, hcons⟩ := List.exists_cons_of_ne_nil (digitsOf_ne_nil (n / 10))
      rw [hcons] at hfirst
      rw [Decimal.digitsOf] at hcons
      rw [Nat.toDigits_of_base_le (by decide) hge, hcons]
      exact hfirst

/-! ## Dropping zeros -/

namespace Decimal

theorem dropZeros_spec (ds : List Char) (exponent : Int) :
    ∃ k : Nat, ds.reverse = (dropZeros ds exponent).1 ++ List.replicate k '0' ∧
      (dropZeros ds exponent).2 = exponent + k := by
  -- the digits come the last one first, and each zero among the first is dropped
  induction ds generalizing exponent with
  | nil => exact ⟨0, by simp [dropZeros]⟩
  | cons c ds ih =>
    by_cases hc : c = '0'
    · subst hc
      obtain ⟨k, hdigits, hexponent⟩ := ih (exponent + 1)
      refine ⟨k + 1, ?_, ?_⟩
      · rw [dropZeros, List.reverse_cons, hdigits, List.append_assoc, List.replicate_succ']
      · rw [dropZeros, hexponent]
        omega
    · have hkept : dropZeros (c :: ds) exponent = ((c :: ds).reverse, exponent) := by
        rw [dropZeros]
        intro rest h
        exact hc (List.cons.inj h).1
      exact ⟨0, by simp [hkept]⟩

/-- The digits that are kept spell the decimal with the exponent that goes with them. There are some
where it is not zero, and the first of them is not a zero. -/
theorem trimmed_spec (d : Decimal) :
    ∃ k : Nat, d.digits = natOfDigits d.trimmed.1 * 10 ^ k ∧ d.trimmed.2 = d.exponent + k ∧
      (0 < d.digits → ∃ c rest, d.trimmed.1 = c :: rest ∧ c ≠ '0') ∧
      ∀ c ∈ d.trimmed.1, isDecimalDigit c = true := by
  obtain ⟨k, hdigits, hexponent⟩ := dropZeros_spec (digitsOf d.digits).reverse d.exponent
  rw [List.reverse_reverse] at hdigits
  have hvalue : d.digits = natOfDigits d.trimmed.1 * 10 ^ k := by
    rw [← natOfDigits_append_zeros, ← natOfDigits_digitsOf d.digits]
    exact congrArg natOfDigits hdigits
  refine ⟨k, hvalue, hexponent, ?_, ?_⟩
  · -- the first digit is kept, since dropping stops before it; and the first digit is no zero
    intro hpos
    have hhead := head?_digitsOf_ne_zero hpos
    rw [hdigits] at hhead
    have hkept : d.trimmed.1 ≠ [] := by
      intro hnil
      rw [hnil, natOfDigits_nil, Nat.zero_mul] at hvalue
      omega
    obtain ⟨c, rest, hcons⟩ := List.exists_cons_of_ne_nil hkept
    refine ⟨c, rest, hcons, ?_⟩
    rintro rfl
    exact hhead (by rw [show (dropZeros _ _).1 = d.trimmed.1 from rfl, hcons]; rfl)
  · intro c hc
    have hmem : c ∈ digitsOf d.digits := by
      rw [hdigits]
      exact List.mem_append_left _ hc
    exact isDecimalDigit_of_mem_digitsOf hmem

end Decimal

end RecordFilter
