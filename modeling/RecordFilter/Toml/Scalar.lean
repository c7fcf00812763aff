import RecordFilter.Number.Basic
import RecordFilter.Toml.Table

/-!
# Numbers, dates and truth values of TOML

These values are runs of letters, digits, points, colons, signs and underscores. A run is classified
as a whole; a date may go on, after a blank, with a second run that holds the time.

* Integers have 64 bits. A positive float has to be finite unless `inf` or `nan` is written; a
  negative one past all finite ones counts as `-inf`.
* Dates and times have to be possible ones.
-/

namespace RecordFilter.Toml

/-- Whether the character may stand in a run. -/
def isRunChar (c : Char) : Bool :=
  c.isAlphanum || c = '_' || c = '-' || c = '+' || c = '.' || c = ':'

/-- The text without the sign that may open it, and whether that is a minus sign. -/
def dropSign : List Char → Bool × List Char
  | '-' :: rest => (true, rest)
  | '+' :: rest => (false, rest)
  | s => (false, s)

/-- The digits between single underscores: one at least before, between and after them. -/
def digits? (isDigit : Char → Bool) (s : List Char) : Option (List Char) :=
  let groups := s.splitOn '_'
  if groups.all fun g => g ≠ [] && g.all isDigit then some groups.flatten else none

/-- The digits of a decimal integer, which has no needless zero. -/
def wholeDigits? (s : List Char) : Option (List Char) :=
  (digits? isDecimalDigit s).bind fun ds =>
    if ds.head? = some '0' ∧ ds ≠ ['0'] then none else some ds

/-- The number that digits spell in a base. -/
def natOfBase (base : Nat) (digits : List Char) : Nat :=
  digits.foldl (fun n c => base * n + (hexValue c)) 0
where
  /-- The value of a digit. -/
  hexValue (c : Char) : Nat :=
    if isDecimalDigit c then c.toNat - '0'.toNat
    else if 'a' ≤ c then c.toNat - 'a'.toNat + 10 else c.toNat - 'A'.toNat + 10

/-- Whether the character is a digit of a base up to sixteen. -/
def isDigitOf (base : Nat) (c : Char) : Bool :=
  (isDecimalDigit c || ('a' ≤ c && c ≤ 'f') || ('A' ≤ c && c ≤ 'F')) && natOfBase base [c] < base

/-- Whether the run is an integer of 64 bits. -/
def isInteger (run : List Char) : Bool :=
  match run with
  | '0' :: 'x' :: rest => ofBase 16 rest
  | '0' :: 'o' :: rest => ofBase 8 rest
  | '0' :: 'b' :: rest => ofBase 2 rest
  | _ =>
    let (negative, s) := dropSign run
    (wholeDigits? s).any fun ds =>
      if negative then natOfDigits ds ≤ 9223372036854775808 else (natOfDigits ds).log2 < 63
where
  /-- Whether these are digits of a base, with a value that 63 bits hold. -/
  ofBase (base : Nat) (s : List Char) : Bool :=
    (digits? (isDigitOf base) s).any fun ds => (natOfBase base ds).log2 < 63

/-- Whether the character opens an exponent. -/
def isExponentMark (c : Char) : Bool :=
  c = 'e' ∨ c = 'E'

/-- The exponent of a float that ends here: none is zero. -/
def exponent? : List Char → Option Int
  | [] => some 0
  | _ :: s =>
    let (negative, s) := dropSign s
    (digits? isDecimalDigit s).map fun ds =>
      if negative then -(natOfDigits ds : Int) else natOfDigits ds

/-- The digits after the point of a float; there has to be a point or an exponent. -/
def fraction? (hasExponent : Bool) : List Char → Option (List Char)
  | [] => if hasExponent then some [] else none
  | _ :: s => digits? isDecimalDigit s

/-- Whether the run is a float. -/
def isFloat (run : List Char) : Bool :=
  let (negative, s) := dropSign run
  let mantissa := s.takeWhile fun c => !isExponentMark c
  let rest := s.dropWhile fun c => !isExponentMark c
  let whole := mantissa.takeWhile (· ≠ '.')
  let inRange := do
    let ds ← wholeDigits? whole
    let fs ← fraction? (rest ≠ []) (mantissa.dropWhile (· ≠ '.'))
    let e ← exponent? rest
    let units := Binary64.ofDecimal (natOfDigits (ds ++ fs)) (e - fs.length)
    return negative || decide (units < Binary64.limit)
  s = "inf".toList || s = "nan".toList || inRange = some true

/-- The number that exactly so many digits spell. -/
def fixed? (count : Nat) (s : List Char) : Option Nat :=
  if s.length = count ∧ s.all isDecimalDigit then some (natOfDigits s) else none

/-- How many days a month has. -/
def daysOf (year month : Nat) : Nat :=
  if month = 2 then
    if year % 4 = 0 ∧ (year % 100 ≠ 0 ∨ year % 400 = 0) then 29 else 28
  else if month = 4 ∨ month = 6 ∨ month = 9 ∨ month = 11 then 30
  else 31

/-- Whether the text is a date. -/
def isDate (s : List Char) : Bool :=
  match s.splitOn '-' with
  | [y, m, d] =>
    match fixed? 4 y, fixed? 2 m, fixed? 2 d with
    | some year, some month, some day =>
      1 ≤ month && month ≤ 12 && 1 ≤ day && day ≤ daysOf year month
    | _, _, _ => false
  | _ => false

/-- Whether the text is an hour and a minute. -/
def isHourMinute (s : List Char) : Bool :=
  match s.splitOn ':' with
  | [h, m] => (fixed? 2 h).any (· ≤ 23) && (fixed? 2 m).any (· ≤ 59)
  | _ => false

/-- Whether the text is a time of day, with seconds and perhaps parts of a second. -/
def isTime (s : List Char) : Bool :=
  isHourMinute (s.take 5) &&
    match s.drop 5 with
    | ':' :: a :: b :: rest =>
      (fixed? 2 [a, b]).any (· ≤ 60) &&
        match rest with
        | [] => true
        | '.' :: parts => parts ≠ [] && parts.all isDecimalDigit
        | _ => false
    | _ => false

/-- Whether the text is a time of day, perhaps with an offset. -/
def isOffsetTime (s : List Char) : Bool :=
  isTime s ||
    match s.reverse with
    | 'Z' :: rest | 'z' :: rest => isTime rest.reverse
    | _ =>
      let offset := s.drop (s.length - 6)
      (offset.head? = some '+' || offset.head? = some '-') && isHourMinute (offset.drop 1) &&
        isTime (s.take (s.length - 6))

/-- Whether the run is a date, a time, or both around a `T`. -/
def isDatetime (run : List Char) : Bool :=
  isDate run || isTime run ||
    (isDate (run.take 10) &&
      match run.drop 10 with
      | 'T' :: time | 't' :: time => isOffsetTime time
      | _ => false)

/-- The value of a run. -/
def ofRun? (run : List Char) : Option Value :=
  if run = "true".toList then some (.boolean true)
  else if run = "false".toList then some (.boolean false)
  else if isInteger run then some .integer
  else if isFloat run then some .float
  else if isDatetime run then some .datetime
  else none

/-- Whether a blank and a digit stand here. -/
def startsTime : List Char → Bool
  | ' ' :: c :: _ => isDecimalDigit c
  | _ => false

/-- Reads a value that is a run. -/
def scalar? (s : List Char) : Option (Value × List Char) :=
  let run := s.takeWhile isRunChar
  let rest := s.dropWhile isRunChar
  if isDate run && startsTime rest then
    if isOffsetTime ((rest.drop 1).takeWhile isRunChar) then
      some (.datetime, (rest.drop 1).dropWhile isRunChar)
    else none
  else (ofRun? run).map fun value => (value, rest)

end RecordFilter.Toml
