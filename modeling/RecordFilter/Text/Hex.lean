/-!
# Hexadecimal digits and character codes

* `hexValue?` reads a digit, in either case, and `hexDigit` writes one in lower case.
* `charOfCode?` is the character of a code, if there is one: surrogates have none.
* `joinSurrogates` makes characters of text in which codes were written one 16-bit unit at a time.
  The two units of a character stand side by side.
* `fromUTF8?_toByteArray` reads a text off its bytes.
-/

namespace RecordFilter

/-- The value of a hexadecimal digit. -/
def hexValue? (c : Char) : Option Nat :=
  if '0' ≤ c ∧ c ≤ '9' then some (c.toNat - '0'.toNat)
  else if 'a' ≤ c ∧ c ≤ 'f' then some (c.toNat - 'a'.toNat + 10)
  else if 'A' ≤ c ∧ c ≤ 'F' then some (c.toNat - 'A'.toNat + 10)
  else none

/-- The lower-case hexadecimal digit of a number below 16. -/
def hexDigit (n : Nat) : Char :=
  if n < 10 then Char.ofNat ('0'.toNat + n) else Char.ofNat ('a'.toNat + (n - 10))

/-- The number that hexadecimal digits spell, the first being the highest. -/
def hexNat? (digits : List Char) : Option Nat :=
  digits.foldlM (fun n c => (hexValue? c).map (16 * n + ·)) 0

/-- The hexadecimal digits of a number. -/
def hexText (n : Nat) : List Char :=
  Nat.toDigits 16 n

/-- The character with this code. -/
def charOfCode? (n : Nat) : Option Char :=
  if n.isValidChar then some (Char.ofNat n) else none

/-- A piece of text that is written as one. -/
inductive TextUnit
  | char (c : Char)
  /-- One of the two 16-bit units of a character past the first 65536. -/
  | surrogate (code : Nat)
  /-- Something that stands for no character. -/
  | gap
deriving DecidableEq, Repr

namespace TextUnit

/-- The unit that a code of four hexadecimal digits names. -/
def ofCode (n : Nat) : TextUnit :=
  match charOfCode? n with
  | some c => .char c
  | none => .surrogate n

/-- The character of a high and a low surrogate. -/
def join? (high low : Nat) : Option Char :=
  if 0xD800 ≤ high ∧ high < 0xDC00 ∧ 0xDC00 ≤ low ∧ low < 0xE000 then
    charOfCode? (0x10000 + (high - 0xD800) * 0x400 + (low - 0xDC00))
  else none

end TextUnit

/-- The characters of a text; a surrogate that has no partner makes it no text. -/
def joinSurrogates : List TextUnit → Option (List Char)
  | [] => some []
  | .char c :: rest => (joinSurrogates rest).map (c :: ·)
  | .gap :: rest => joinSurrogates rest
  | .surrogate high :: .surrogate low :: rest =>
    (TextUnit.join? high low).bind fun c => (joinSurrogates rest).map (c :: ·)
  | .surrogate _ :: _ => none

/-- The bytes of a text are read as that text. -/
theorem fromUTF8?_toByteArray (text : String) : String.fromUTF8? text.toByteArray = some text := by
  rw [String.fromUTF8?, dif_pos text.isValidUTF8]
  rfl

end RecordFilter
