/-!
# Styled texts

A style is switched on before a text and off after it by escape sequences of terminals. Where the text
itself switches styles off, the style is switched on again.
-/

namespace RecordFilter

/-- The styles in use. -/
inductive Style
  | bold
  | green
  | yellow
deriving DecidableEq, Repr

namespace Style

/-- What switches a style on. -/
def opening : Style → List Char
  | bold => "\x1b[1m".toList
  | green => "\x1b[32m".toList
  | yellow => "\x1b[33m".toList

/-- What switches all styles off. -/
def closing : List Char := "\x1b[0m".toList

/-- The text with the style switched on again wherever it is switched off. -/
def reopened (style : Style) : List Char → List Char
  | [] => []
  | '\x1b' :: '[' :: '0' :: 'm' :: rest => closing ++ style.opening ++ reopened style rest
  | c :: rest => c :: reopened style rest

/-- The text in a style, if `colors` are on. -/
def paint (colors : Bool) (style : Style) (text : String) : String :=
  if colors then String.ofList (style.opening ++ style.reopened text.toList ++ closing) else text

@[simp] theorem paint_false (style : Style) (text : String) : paint false style text = text := by
  simp [paint]

end Style

end RecordFilter
