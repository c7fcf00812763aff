import RecordFilter.Number.Shortest

/-!
# JSON numbers

A number is an integer that a 64-bit word holds, signed or unsigned, or a finite binary64 number.
The two kinds stay apart: `1` and `1.0` are different numbers, though they compare as equal values.

* `Number.signedUnits` is the value that comparisons look at.
* `Number.text` is the text that is written, compared as text and matched by patterns.
* `Numeral` is a number as it is spelled, `Numeral.number?` the number it stands for.
-/

namespace RecordFilter

/-- An integer that 64 bits hold, with a sign or without. -/
structure WordInt where
  val : Int
  fits : -9223372036854775808 ≤ val ∧ val < 18446744073709551616
deriving DecidableEq

/-- The integer as a word, if 64 bits hold it. -/
def WordInt.ofInt? (n : Int) : Option WordInt :=
  if h : -9223372036854775808 ≤ n ∧ n < 18446744073709551616 then some ⟨n, h⟩ else none

/-- A JSON number. -/
inductive Number
  | integer (n : WordInt)
  | float (x : Binary64)
deriving DecidableEq

namespace Number

/-- A natural number below `2 ^ 64` as a JSON number. -/
def ofUInt64 (n : UInt64) : Number :=
  .integer ⟨n.toNat, by have := n.toNat_lt; omega⟩

/-- The value, rounded to binary64, in units of the format. -/
def signedUnits : Number → Int
  | .integer n =>
    let magnitude : Int := Binary64.nearest (n.val.natAbs * Binary64.one) 1
    if n.val < 0 then -magnitude else magnitude
  | .float x => x.signedUnits

/-- Floats are written positionally from `0.00001` on and below `1e+16`. -/
def layout : Layout := ⟨-5, 16⟩

/-- The decimal text of an integer. -/
def integerText (n : Int) : List Char :=
  if n < 0 then '-' :: Decimal.digitsOf n.natAbs else Decimal.digitsOf n.natAbs

/-- The text of a number: an integer has no point, a float has one or an exponent. -/
def text : Number → List Char
  | .integer n => integerText n.val
  | .float x => layout.write x

end Number

/-! ## Numbers as they are spelled -/

/-- Whether the character is one of the ten ASCII digits. -/
def isDecimalDigit (c : Char) : Bool :=
  '0' ≤ c && c ≤ '9'

/-- The number that decimal digits spell. -/
def natOfDigits (digits : List Char) : Nat :=
  digits.foldl (fun n c => 10 * n + (c.toNat - '0'.toNat)) 0

/-- A spelled decimal number. -/
structure Numeral where
  negative : Bool
  whole : List Char
  /-- What follows the point, if there is one. -/
  fraction : Option (List Char)
  exponent : Option Int
deriving Repr

namespace Numeral

/-- The number as an integer, when it is spelled without point and exponent. -/
def integer? (n : Numeral) : Option Int :=
  if n.fraction.isNone && n.exponent.isNone then
    let magnitude : Int := natOfDigits n.whole
    some (if n.negative then -magnitude else magnitude)
  else none

/-- The nearest binary64 number, if it is finite. -/
def float? (n : Numeral) : Option Binary64 :=
  let fraction := n.fraction.getD []
  Binary64.ofUnits? n.negative <|
    Binary64.ofDecimal (natOfDigits (n.whole ++ fraction)) (n.exponent.getD 0 - fraction.length)

/-- The number that the numeral stands for: an integer where it is spelled as one that a word holds, a
float otherwise, and nothing where that is not finite. -/
def number? (n : Numeral) : Option Number :=
  match n.integer?.bind WordInt.ofInt? with
  | some i => some (.integer i)
  | none => n.float?.map .float

/-- Reads an exponent if one stands here; its mark must be followed by a digit. -/
def scanExponent : List Char → Option (Option Int × List Char)
  | c :: rest =>
    if c = 'e' ∨ c = 'E' then
      let (negative, rest) :=
        match rest with
        | '-' :: r => (true, r)
        | '+' :: r => (false, r)
        | r => (false, r)
      let digits := rest.takeWhile isDecimalDigit
      if digits = [] then none
      else
        let magnitude : Int := natOfDigits digits
        some (some (if negative then -magnitude else magnitude), rest.dropWhile isDecimalDigit)
    else some (none, c :: rest)
  | [] => some (none, [])

/-- Reads the digits before the point: a zero stands alone. -/
def scanWhole : List Char → List Char × List Char
  | '0' :: rest => (['0'], rest)
  | s => (s.takeWhile isDecimalDigit, s.dropWhile isDecimalDigit)

/-- Reads the point and the digits after it, if a point stands here. -/
def scanFraction : List Char → Option (List Char) × List Char
  | '.' :: rest => (some (rest.takeWhile isDecimalDigit), rest.dropWhile isDecimalDigit)
  | s => (none, s)

/-- Reads a decimal number without its sign. A point needs a digit on both sides, or on one side where
`bareEnds` allows it. -/
def scan? (bareEnds negative : Bool) (s : List Char) : Option (Numeral × List Char) :=
  let (whole, s) := scanWhole s
  let (fraction, s) := scanFraction s
  let wellFormed :=
    if bareEnds then whole ≠ [] ∨ fraction.getD [] ≠ [] else whole ≠ [] ∧ fraction ≠ some []
  if wellFormed then
    (scanExponent s).map fun (exponent, rest) => (⟨negative, whole, fraction, exponent⟩, rest)
  else none

end Numeral

end RecordFilter
