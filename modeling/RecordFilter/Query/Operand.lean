import RecordFilter.Json.Printer

/-!
# Comparing record values with operands

Operands are texts. Where the value of a record and the operand are both numbers they compare as
binary64 numbers; otherwise their texts compare, character by character.

* `decimal?` reads an operand as a number, `numeric?` a value of a record.
* `compareOperand?` orders a value against an operand.
* `within?` tells whether a number lies between two bounds.

Numbers are counted in units of the binary64 format, so that their order is that of the integers.
-/

namespace RecordFilter

/-- The magnitude of digits with a point before the last `places` of them. -/
def decimalUnits (digits : List Char) (places : Nat) : Nat :=
  Binary64.ofDecimal (natOfDigits digits) (-(places : Int))

/-- The magnitude of a plain decimal without a sign. -/
def decimalMagnitude? (s : List Char) : Option Nat :=
  let whole := s.takeWhile isDecimalDigit
  if whole = [] then none
  else
    match s.dropWhile isDecimalDigit with
    | [] => some (decimalUnits whole 0)
    | '.' :: fraction =>
      if fraction ≠ [] ∧ fraction.all isDecimalDigit then
        some (decimalUnits (whole ++ fraction) fraction.length)
      else none
    | _ => none

/-- The number that a plain decimal spells, such as `30`, `-4` or `2.5`. An exponent, a plus sign and
blanks make a text no decimal. -/
def decimal? (s : String) : Option Int :=
  match s.toList with
  | '-' :: rest => (decimalMagnitude? rest).map fun n => -(n : Int)
  | rest => (decimalMagnitude? rest).map fun n => (n : Int)

/-- The value of a record as a number. -/
def numeric? : Json → Option Int
  | .number n => some n.signedUnits
  | .string s => decimal? s
  | _ => none

/-- The order of two texts, by their characters' codes. -/
def compareText (a b : String) : Ordering :=
  if a < b then .lt else if a = b then .eq else .gt

/-- The order of a value against an operand; arrays and objects have none. -/
def compareOperand? (actual : Json) (operand : String) : Option Ordering :=
  match numeric? actual, decimal? operand with
  | some a, some b => some (compare a b)
  | _, _ => actual.scalarText?.map (compareText · operand)

/-- Whether the value equals one of the operands. -/
def containsOperand (actual : Json) (operands : List String) : Bool :=
  operands.any fun operand => compareOperand? actual operand = some .eq

/-- Whether a number lies between two bounds. The upper bound is looked at only where the lower one
is kept, and a bound that is looked at has to be a number. -/
def within? (actual : Json) (low high : String) : Option Bool := do
  let value ← numeric? actual
  let least ← decimal? low
  if least ≤ value then
    let greatest ← decimal? high
    return decide (value ≤ greatest)
  else
    return false

end RecordFilter
