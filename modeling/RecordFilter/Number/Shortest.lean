import RecordFilter.Number.Binary64

/-!
# The shortest decimal text of a number

The fewest decimal digits that read back as a given binary64 magnitude, and of those the nearest.

* `Shortest.onGrid?` looks at the two neighbours of the magnitude on one decimal grid.
* `Shortest.decimal` takes the coarsest grid that has a neighbour which reads back, and after sixteen
  grids the nearest number of the seventeenth.
* `Layout.write` writes a decimal positionally or with an exponent.
-/

namespace RecordFilter

/-- A decimal number `digits * 10 ^ exponent`. -/
structure Decimal where
  digits : Nat
  exponent : Int
deriving DecidableEq, Repr

namespace Decimal

/-- The binary64 magnitude that the decimal reads as. -/
def units (d : Decimal) : Nat :=
  Binary64.ofDecimal d.digits d.exponent

/-- The decimal digits of a natural number. -/
def digitsOf (n : Nat) : List Char :=
  Nat.toDigits 10 n

/-- Drops the zeros at the end of the digits, least digit first, raising the exponent for each. -/
def dropZeros : List Char → Int → List Char × Int
  | '0' :: rest, exponent => dropZeros rest (exponent + 1)
  | digits, exponent => (digits.reverse, exponent)

/-- The digits without zeros at their end, and the exponent that goes with them. -/
def trimmed (d : Decimal) : List Char × Int :=
  dropZeros (digitsOf d.digits).reverse d.exponent

end Decimal

namespace Shortest

/-- The magnitude `units` as a quotient, counted in steps of `10 ^ exponent`. -/
def ratio (units : Nat) (exponent : Int) : Nat × Nat :=
  if 0 ≤ exponent then (units, Binary64.one * Nat.pow 10 exponent.toNat)
  else (units * Nat.pow 10 (-exponent).toNat, Binary64.one)

/-- The number nearest to `units` on the grid of step `10 ^ exponent`, the even one of two that are
equally near. -/
def nearestOnGrid (units : Nat) (exponent : Int) : Decimal :=
  let (n, d) := ratio units exponent
  ⟨roundHalfEven n d, exponent⟩

/-- The neighbour of `units` on the grid of step `10 ^ exponent` that reads back as `units`, the nearest
one where both do. -/
def onGrid? (units : Nat) (exponent : Int) : Option Decimal :=
  let (n, d) := ratio units exponent
  let below : Decimal := ⟨n / d, exponent⟩
  let above : Decimal := ⟨n / d + 1, exponent⟩
  if below.units = units then
    if above.units = units then some (nearestOnGrid units exponent) else some below
  else if above.units = units then some above
  else none

/-- The exponent of the first decimal digit of a positive magnitude. -/
def leadingExponent (units : Nat) : Int :=
  if Binary64.one ≤ units then
    ((Decimal.digitsOf (units / Binary64.one)).length : Int) - 1
  else
    -((Decimal.digitsOf ((Binary64.one - 1) / units)).length : Int)

/-- The decimal with the fewest digits that reads back as `units`. Of seventeen digits the nearest
decimal always does. -/
def decimal (units : Nat) : Decimal :=
  let lead := leadingExponent units
  ((List.range 16).findSome? fun (n : Nat) => onGrid? units (lead - n)).getD
    (nearestOnGrid units (lead - 16))

end Shortest

/-- How a decimal is laid out: positionally where the exponent of its first digit lies from `least`
on and below `bound`, and with an exponent otherwise. -/
structure Layout where
  least : Int
  bound : Int
deriving Repr

namespace Layout

/-- The digits of an exponent after its sign. -/
def exponentText (e : Int) : List Char :=
  (if e < 0 then '-' else '+') :: Decimal.digitsOf e.natAbs

/-- Writes positionally, always with a digit on both sides of the point. `lead` is the exponent of the
first digit. -/
def positional (digits : List Char) (lead : Int) : List Char :=
  if lead < 0 then
    '0' :: '.' :: (List.replicate (-lead - 1).toNat '0' ++ digits)
  else
    let whole := lead.toNat + 1
    digits.take whole ++ List.replicate (whole - digits.length) '0' ++
      '.' :: (if digits.length ≤ whole then ['0'] else digits.drop whole)

/-- Writes one digit, the others after a point if there are any, and the exponent. -/
def scientific (digits : List Char) (lead : Int) : List Char :=
  digits.take 1 ++ (if digits.length ≤ 1 then [] else '.' :: digits.drop 1) ++
    'e' :: exponentText lead

/-- The text of the magnitude `units`. -/
def magnitude (layout : Layout) (units : Nat) : List Char :=
  if units = 0 then ['0', '.', '0']
  else
    let (digits, exponent) := (Shortest.decimal units).trimmed
    let lead := exponent + digits.length - 1
    if layout.least ≤ lead ∧ lead < layout.bound then positional digits lead
    else scientific digits lead

/-- The text of a number, a minus sign first where it has one, as `-0.0` does. -/
def write (layout : Layout) (x : Binary64) : List Char :=
  (if x.negative then ['-'] else []) ++ layout.magnitude x.units

end Layout

end RecordFilter
