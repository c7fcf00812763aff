import RecordFilter.Json.Dialect
import RecordFilter.Text.Hex

/-!
# Standard JSON

Numbers and strings as the standard has them. At most 127 arrays and objects may be open at once.

* An integer spelled `-0` is the float `-0.0`, and a number past the finite floats is refused.
* A float is read fast: as many digits as 64 bits hold make an integer, and the float nearest to it is then
  multiplied or divided by a power of ten. Each of the two steps rounds, so that a numeral of many digits may
  be read as a neighbour of the nearest float: `51.248178375505404` is.
-/

namespace RecordFilter.Json

namespace Strict

/-- Blank, tab and the two line ends. -/
def isBlank (c : Char) : Bool :=
  c = ' ' ∨ c = '\t' ∨ c = '\n' ∨ c = '\r'

/-- The character that a one-letter escape stands for. -/
def escape? (c : Char) : Option Char :=
  match c with
  | '"' => some '"'
  | '\\' => some '\\'
  | '/' => some '/'
  | 'b' => some '\x08'
  | 'f' => some '\x0c'
  | 'n' => some '\n'
  | 'r' => some '\r'
  | 't' => some '\t'
  | _ => none

/-- The units of the inside of a quoted string; control characters have to be escaped. -/
def units? : List Char → Option (List TextUnit)
  | [] => some []
  | '\\' :: 'u' :: a :: b :: c :: d :: rest =>
    (hexNat? [a, b, c, d]).bind fun n => (units? rest).map (.ofCode n :: ·)
  | '\\' :: c :: rest => (escape? c).bind fun e => (units? rest).map (.char e :: ·)
  | c :: rest => if c = '\\' ∨ c.toNat < 0x20 then none else (units? rest).map (.char c :: ·)

/-- The characters that the inside of a quoted string stands for. -/
def text? (body : List Char) : Option (List Char) :=
  (units? body).bind joinSurrogates

/-- Puts digits behind a significand for as long as 64 bits hold it. The digits that are left begin with
the first one that did not fit. -/
def accumulate (significand : Nat) : List Char → Nat × List Char
  | [] => (significand, [])
  | c :: rest =>
    let next := 10 * significand + (c.toNat - '0'.toNat)
    if next < Nat.pow 2 64 then accumulate next rest else (significand, c :: rest)

/-- The significand of a numeral, and the power of ten that goes with it. A digit before the point that is
left out counts as a zero, and one after the point for nothing. -/
def parts (n : Numeral) : Nat × Int :=
  let fraction := n.fraction.getD []
  let (significand, skipped) := accumulate 0 n.whole
  let (significand, ignored) := accumulate significand fraction
  (significand, n.exponent.getD 0 + skipped.length - (fraction.length - ignored.length : Nat))

/-- The float nearest to a power of ten. -/
def power (exponent : Nat) : Nat :=
  Binary64.ofDecimal 1 exponent

/-- Divides a magnitude by `10 ^ 308`, so many times or until it is zero. -/
def shrink (units : Nat) : Nat → Nat
  | 0 => units
  | times + 1 => if units = 0 then 0 else shrink (Binary64.dividedBy units (power 308)) times

/-- The magnitude of `significand * 10 ^ exponent`, which is rounded at each step: to a float first, and
again by each product or quotient. The largest power of ten at hand is the 308th. -/
def scaled (significand : Nat) (exponent : Int) : Nat :=
  let units := Binary64.nearest (significand * Binary64.one) 1
  if units = 0 then 0
  else if 308 < exponent then Binary64.limit
  else if 0 ≤ exponent then Binary64.times units (power exponent.toNat)
  else
    let times := ((-exponent).toNat - 1) / 308
    Binary64.dividedBy (shrink units times) (power ((-exponent).toNat - 308 * times))

/-- The float that the numeral is read as, if it is finite. -/
def float? (n : Numeral) : Option Binary64 :=
  let (significand, exponent) := parts n
  Binary64.ofUnits? n.negative (scaled significand exponent)

/-- The number that a whole run spells. -/
def number? (run : List Char) : Option Number :=
  let (negative, digits) :=
    match run with
    | '-' :: digits => (true, digits)
    | digits => (false, digits)
  match Numeral.scan? false negative digits with
  | some (n, []) =>
    match n.integer?.bind WordInt.ofInt? with
    | some i => if i.val = 0 ∧ negative then (float? n).map .float else some (.integer i)
    | none => (float? n).map .float
  | _ => none

/-- The value of a bare run: one of three words, or a number. -/
def value? (run : List Char) : Option Json :=
  if run = "null".toList then some .null
  else if run = "true".toList then some (.bool true)
  else if run = "false".toList then some (.bool false)
  else (number? run).map .number

end Strict

/-- Standard JSON. -/
def Dialect.strict : Dialect where
  lexing := ⟨Strict.isBlank, (· = '"'), false, fun _ => false⟩
  text? := Strict.text?
  value? := Strict.value?
  name? := fun _ => none
  trailingCommas := false
  depth? := some 127

end RecordFilter.Json
