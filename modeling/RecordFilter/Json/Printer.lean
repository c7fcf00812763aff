import RecordFilter.Json.Basic
import RecordFilter.Text.Hex

/-!
# JSON texts

* `Json.compact` writes a value on one line without blanks.
* `Json.pretty` writes an item or a field a line, indented by two blanks a level.

Strings keep all characters as they are, save the quote, the backslash and the control characters
below the blank.
-/

namespace RecordFilter.Json

/-- A character inside a quoted string. -/
def escapeChar (c : Char) : List Char :=
  if c = '"' then ['\\', '"']
  else if c = '\\' then ['\\', '\\']
  else if c = '\n' then ['\\', 'n']
  else if c = '\r' then ['\\', 'r']
  else if c = '\t' then ['\\', 't']
  else if c = '\x08' then ['\\', 'b']
  else if c = '\x0c' then ['\\', 'f']
  else if c.toNat < 0x20 then ['\\', 'u', '0', '0', hexDigit (c.toNat / 16), hexDigit (c.toNat % 16)]
  else [c]

/-- A quoted string. -/
def quote (s : String) : List Char :=
  '"' :: (s.toList.flatMap escapeChar ++ ['"'])

/-- The text of the two truth values. -/
def boolText (b : Bool) : List Char :=
  (if b then "true" else "false").toList

mutual

/-- The text of a value without blanks. -/
def compactChars : Json → List Char
  | .null => "null".toList
  | .bool b => boolText b
  | .number n => n.text
  | .string s => quote s
  | .array items => '[' :: (compactItems items ++ [']'])
  | .object fields => '{' :: (compactFields fields ++ ['}'])

/-- Items with a comma between neighbours. -/
def compactItems : List Json → List Char
  | [] => []
  | [v] => compactChars v
  | v :: w :: rest => compactChars v ++ ',' :: compactItems (w :: rest)

/-- Fields with a comma between neighbours. -/
def compactFields : List (String × Json) → List Char
  | [] => []
  | [(k, v)] => quote k ++ ':' :: compactChars v
  | (k, v) :: f :: rest => quote k ++ ':' :: (compactChars v ++ ',' :: compactFields (f :: rest))

end

/-- A new line, indented to a level. -/
def newLine (level : Nat) : List Char :=
  '\n' :: List.replicate (2 * level) ' '

mutual

/-- The indented text of a value that stands at a level. -/
def prettyChars (level : Nat) : Json → List Char
  | .null => "null".toList
  | .bool b => boolText b
  | .number n => n.text
  | .string s => quote s
  | .array [] => ['[', ']']
  | .array (v :: rest) => '[' :: (prettyItems (level + 1) (v :: rest) ++ newLine level ++ [']'])
  | .object [] => ['{', '}']
  | .object (f :: rest) => '{' :: (prettyFields (level + 1) (f :: rest) ++ newLine level ++ ['}'])

/-- Items on lines of their own. -/
def prettyItems (level : Nat) : List Json → List Char
  | [] => []
  | [v] => newLine level ++ prettyChars level v
  | v :: w :: rest => newLine level ++ prettyChars level v ++ ',' :: prettyItems level (w :: rest)

/-- Fields on lines of their own. -/
def prettyFields (level : Nat) : List (String × Json) → List Char
  | [] => []
  | [(k, v)] => newLine level ++ quote k ++ ':' :: ' ' :: prettyChars level v
  | (k, v) :: f :: rest =>
    newLine level ++ quote k ++ ':' :: ' ' :: (prettyChars level v ++ ',' :: prettyFields level (f :: rest))

end

/-- The value on one line. -/
def compact (value : Json) : String :=
  String.ofList (compactChars value)

/-- The value on indented lines. -/
def pretty (value : Json) : String :=
  String.ofList (prettyChars 0 value)

/-- The text of a string, number or truth value, as it is compared and matched. -/
def scalarText? : Json → Option String
  | .string s => some s
  | .number n => some (String.ofList n.text)
  | .bool b => some (String.ofList (boolText b))
  | _ => none

end RecordFilter.Json
