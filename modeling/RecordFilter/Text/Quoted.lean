import RecordFilter.Text.Hex
import RecordFilter.Text.Invisible

/-!
# Quoted texts

A quoted text shows every character: quotes and backslashes after a backslash, the usual controls by
a letter, and other invisible characters by their codes in braces.
-/

namespace RecordFilter.Quoted

/-- A character between the quotes. -/
def escape (c : Char) : List Char :=
  if c = '"' then ['\\', '"']
  else if c = '\\' then ['\\', '\\']
  else if c = '\n' then ['\\', 'n']
  else if c = '\r' then ['\\', 'r']
  else if c = '\t' then ['\\', 't']
  else if c = '\x00' then ['\\', '0']
  else if isInvisible c then ['\\', 'u', '{'] ++ hexText c.toNat ++ ['}']
  else [c]

/-- A text in quotes. -/
def text (s : String) : String :=
  String.ofList ('"' :: (s.toList.flatMap escape ++ ['"']))

/-- Texts in quotes, in brackets. -/
def list (texts : List String) : String :=
  "[" ++ ", ".intercalate (texts.map text) ++ "]"

end RecordFilter.Quoted
