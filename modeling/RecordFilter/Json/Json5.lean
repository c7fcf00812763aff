import RecordFilter.Json.Dialect
import RecordFilter.Text.Hex
import RecordFilter.Text.Identifier

/-!
# JSON5

The JSON that people write by hand: comments, names without quotes, either quote, commas at the end,
hexadecimal integers, signs and numbers with a bare point. Every standard JSON text is one.

* A decimal number past the finite floats, an infinity and `NaN` are read as null.
* An integer spelled `-0` is the integer zero.
* A hexadecimal integer is from -2¹²⁷ to 2¹²⁸ - 1.
* Two escapes that are a high and a low surrogate are one character if nothing stands between them.
-/

namespace RecordFilter.Json

namespace Json5

/-- The characters that end a line. -/
def isLineEnd (c : Char) : Bool :=
  c = '\n' ∨ c = '\r' ∨ c = '\u2028' ∨ c = '\u2029'

/-- Line ends, tabs, the byte order mark and the blanks of all scripts. -/
def isBlank (c : Char) : Bool :=
  isLineEnd c || c = ' ' || c = '\t' || c = '\x0b' || c = '\x0c' || c = '\u00a0' || c = '\ufeff' ||
    c = '\u1680' || ('\u2000' ≤ c && c ≤ '\u200a') || c = '\u202f' || c = '\u205f' || c = '\u3000'

/-- The character that an escape without digits stands for: most stand for themselves. -/
def escape? (c : Char) : Option Char :=
  match c with
  | 'b' => some '\x08'
  | 'f' => some '\x0c'
  | 'n' => some '\n'
  | 'r' => some '\r'
  | 't' => some '\t'
  | 'v' => some '\x0b'
  | 'u' | 'x' => none
  | c => if isDecimalDigit c then none else some c

/-- Whether a decimal digit stands first. -/
def startsWithDigit : List Char → Bool
  | [] => false
  | c :: _ => isDecimalDigit c

/-- The units of the inside of a quoted string. A backslash before a line end stands for nothing. -/
def units? : List Char → Option (List TextUnit)
  | [] => some []
  | '\\' :: 'u' :: a :: b :: c :: d :: rest =>
    (hexNat? [a, b, c, d]).bind fun n => (units? rest).map (.ofCode n :: ·)
  | '\\' :: 'x' :: a :: b :: rest =>
    (hexNat? [a, b]).bind fun n => (units? rest).map (.ofCode n :: ·)
  | '\\' :: '0' :: rest =>
    if startsWithDigit rest then none else (units? rest).map (.char '\x00' :: ·)
  | '\\' :: '\r' :: '\n' :: rest => (units? rest).map (.gap :: ·)
  | '\\' :: c :: rest =>
    if isLineEnd c then (units? rest).map (.gap :: ·)
    else (escape? c).bind fun e => (units? rest).map (.char e :: ·)
  | c :: rest =>
    if c = '\\' ∨ c = '\n' ∨ c = '\r' then none else (units? rest).map (.char c :: ·)

/-- The characters that the inside of a quoted string stands for. -/
def text? (body : List Char) : Option (List Char) :=
  (units? body).bind joinSurrogates

/-- The units of a name, some of which may be written by their codes. -/
def nameUnits? : List Char → Option (List TextUnit)
  | [] => some []
  | '\\' :: 'u' :: a :: b :: c :: d :: rest =>
    (hexNat? [a, b, c, d]).bind fun n => (nameUnits? rest).map (.ofCode n :: ·)
  | c :: rest => if c = '\\' then none else (nameUnits? rest).map (.char c :: ·)

/-- The field name that a bare run stands for: an identifier. -/
def name? (run : List Char) : Option (List Char) :=
  match (nameUnits? run).bind joinSurrogates with
  | some (c :: rest) =>
    if isIdentifierStart c && rest.all isIdentifierPart then some (c :: rest) else none
  | _ => none

/-- The value of a hexadecimal integer, which has at most 128 bits, the sign included if there is
one. -/
def hexadecimal? (negative : Bool) (digits : List Char) : Option Json :=
  match digits with
  | [] => none
  | _ =>
    (hexNat? digits).bind fun n =>
      if n ≤ (if negative then Nat.pow 2 127 else Nat.pow 2 128 - 1) then
        match WordInt.ofInt? (if negative then -(n : Int) else n) with
        | some i => some (.number (.integer i))
        | none =>
          some (ofNumber? ((Binary64.ofUnits? negative (Binary64.nearest (n * Binary64.one) 1)).map .float))
      else none

/-- The value of a number without its sign. -/
def unsigned? (negative : Bool) (run : List Char) : Option Json :=
  if run = "Infinity".toList ∨ run = "NaN".toList then some .null
  else
    match run with
    | '0' :: 'x' :: digits => hexadecimal? negative digits
    | '0' :: 'X' :: digits => hexadecimal? negative digits
    | _ =>
      match Numeral.scan? true negative run with
      | some (n, []) => some (ofNumber? n.number?)
      | _ => none

/-- The value of a bare run: one of three words, or a number. -/
def value? (run : List Char) : Option Json :=
  if run = "null".toList then some .null
  else if run = "true".toList then some (.bool true)
  else if run = "false".toList then some (.bool false)
  else
    match run with
    | '-' :: rest => unsigned? true rest
    | '+' :: rest => unsigned? false rest
    | _ => unsigned? false run

end Json5

/-- JSON5. -/
def Dialect.json5 : Dialect where
  lexing := ⟨Json5.isBlank, fun c => c = '"' || c = '\'', true, Json5.isLineEnd⟩
  text? := Json5.text?
  value? := Json5.value?
  name? := Json5.name?
  trailingCommas := true
  depth? := none

end RecordFilter.Json
