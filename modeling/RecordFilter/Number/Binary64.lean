/-!
# Binary64 numbers

The finite numbers of the binary64 format, exactly. A magnitude is counted in units of `2 ^ (-1074)`,
the least positive number of the format, so that order and equality are those of the integers.

* `Binary64.nearest` rounds a quotient of natural numbers to the nearest magnitude of the format.
* `Binary64.ofDecimal` does so for `digits * 10 ^ exponent`.
* `Binary64.times` and `Binary64.dividedBy` are the operations of the format, each rounded.
* Past the largest finite number all of them give `Binary64.limit`, which stands for infinity.
-/

namespace RecordFilter

/-- The integer nearest to `n / d`, the even one of two that are equally near. -/
def roundHalfEven (n d : Nat) : Nat :=
  let q := n / d
  let r := n % d
  if 2 * r < d then q else if d < 2 * r then q + 1 else q + q % 2

namespace Binary64

/-- Binary places of the unit: the unit is `2 ^ (-places)`. -/
def places : Nat := 1074

/-- The number one, in units. -/
def one : Nat := Nat.pow 2 places

/-- The first magnitude past the finite ones, `2 ^ 1024`. -/
def limit : Nat := Nat.pow 2 (1024 + places)

/-- The distance of neighbouring magnitudes at `units`: a significand has 53 binary digits. -/
def step (units : Nat) : Nat :=
  Nat.pow 2 (units.log2 - 52)

/-- The magnitudes that the format holds. -/
def Representable (units : Nat) : Prop :=
  units < limit ∧ units % step units = 0

instance (units : Nat) : Decidable (Representable units) :=
  inferInstanceAs (Decidable (_ ∧ _))

/-- The magnitude nearest to `n / d` units, the one with an even significand of two that are equally
near, and `limit` for everything past the finite ones. -/
def nearest (n d : Nat) : Nat :=
  let gap := step (n / d)
  min limit (roundHalfEven n (d * gap) * gap)

/-- The magnitude nearest to the number `digits * 10 ^ exponent`. The first three cases are the value
of the last two, found without the power when it is too large or too small to matter. -/
def ofDecimal (digits : Nat) (exponent : Int) : Nat :=
  if digits = 0 then 0
  else if 400 < exponent then limit
  else if (digits.log2 : Int) + 3 * exponent < -1100 then 0
  else if 0 ≤ exponent then nearest (digits * Nat.pow 10 exponent.toNat * one) 1
  else nearest (digits * one) (Nat.pow 10 (-exponent).toNat)

/-- The product of two magnitudes, rounded. -/
def times (u v : Nat) : Nat :=
  nearest (u * v) one

/-- The quotient of two magnitudes, rounded. -/
def dividedBy (u v : Nat) : Nat :=
  nearest (u * one) v

end Binary64

/-- A finite binary64 number: a sign, which zero has too, and a magnitude in units. -/
structure Binary64 where
  negative : Bool
  units : Nat
  representable : Binary64.Representable units
deriving DecidableEq

namespace Binary64

/-- The number with this sign and magnitude, where the format holds it. -/
def ofUnits? (negative : Bool) (units : Nat) : Option Binary64 :=
  if h : Representable units then some ⟨negative, units, h⟩ else none

/-- The signed value in units. Both zeros are `0`. -/
def signedUnits (x : Binary64) : Int :=
  if x.negative then -(x.units : Int) else x.units

/-- The integer that the number is, if it is one. -/
def toInt? (x : Binary64) : Option Int :=
  if x.units % one = 0 then
    some (if x.negative then -((x.units / one : Nat) : Int) else ((x.units / one : Nat) : Int))
  else none

end Binary64

end RecordFilter
