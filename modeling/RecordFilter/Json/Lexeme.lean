import RecordFilter.Json.Basic

/-!
# The lexemes of a JSON text

A text falls into punctuation, quoted strings and bare runs (numbers and words), with blanks and
comments between them. `Lexeme.scan?` finds them by one pass over the characters and leaves what
stands inside quotes and runs as it is spelled; what that means is for a `Dialect` to say.

* `Lexing` holds the characters that separate lexemes.
* `Lexing.step` reads one character, `Lexing.finish?` the end of the text.
-/

namespace RecordFilter.Json

/-- A lexeme as it is spelled. -/
inductive Lexeme
  /-- One of `[ ] { } : ,`. -/
  | mark (c : Char)
  /-- What stands between two quotes. -/
  | quoted (body : List Char)
  /-- Characters up to the next blank, mark, quote or comment. -/
  | bare (run : List Char)
deriving DecidableEq, Repr

/-- Which characters separate lexemes. -/
structure Lexing where
  isBlank : Char → Bool
  isQuote : Char → Bool
  /-- Whether `//` and `/*` open comments. -/
  comments : Bool
  /-- Whether the character ends a comment that `//` opened. -/
  endsLine : Char → Bool

namespace Lexing

/-- Whether the character is one of the six marks. -/
def isMark (c : Char) : Bool :=
  c = '[' ∨ c = ']' ∨ c = '{' ∨ c = '}' ∨ c = ':' ∨ c = ','

/-- Where in a text the next character stands. Texts under way are kept last character first. -/
inductive Place
  | between
  | inRun (run : List Char)
  | inQuotes (quote : Char) (body : List Char)
  /-- After a backslash between quotes. -/
  | escaped (quote : Char) (body : List Char)
  /-- After a slash outside quotes. -/
  | slash
  | lineComment
  | blockComment
  /-- After an asterisk in a block comment. -/
  | asterisk
deriving DecidableEq, Repr

/-- The place of the next character and the lexemes so far, the last one first. -/
structure State where
  place : Place
  done : List Lexeme
deriving Repr

/-- Reads a character that stands between lexemes. -/
def stepBetween (l : Lexing) (done : List Lexeme) (c : Char) : State :=
  if l.isBlank c then ⟨.between, done⟩
  else if isMark c then ⟨.between, .mark c :: done⟩
  else if l.isQuote c then ⟨.inQuotes c [], done⟩
  else if l.comments && c = '/' then ⟨.slash, done⟩
  else ⟨.inRun [c], done⟩

/-- Whether the character goes on with a bare run. -/
def isBare (l : Lexing) (c : Char) : Bool :=
  !(l.isBlank c || isMark c || l.isQuote c || (l.comments && c = '/'))

/-- Reads one character. -/
def step (l : Lexing) (s : State) (c : Char) : Option State :=
  match s.place with
  | .between => some (l.stepBetween s.done c)
  | .inRun run =>
    if l.isBare c then some ⟨.inRun (c :: run), s.done⟩
    else some (l.stepBetween (.bare run.reverse :: s.done) c)
  | .inQuotes q body =>
    if c = q then some ⟨.between, .quoted body.reverse :: s.done⟩
    else if c = '\\' then some ⟨.escaped q (c :: body), s.done⟩
    else some ⟨.inQuotes q (c :: body), s.done⟩
  | .escaped q body => some ⟨.inQuotes q (c :: body), s.done⟩
  | .slash =>
    if c = '/' then some ⟨.lineComment, s.done⟩
    else if c = '*' then some ⟨.blockComment, s.done⟩
    else none
  | .lineComment => some ⟨if l.endsLine c then .between else .lineComment, s.done⟩
  | .blockComment => some ⟨if c = '*' then .asterisk else .blockComment, s.done⟩
  | .asterisk =>
    some ⟨if c = '/' then .between else if c = '*' then .asterisk else .blockComment, s.done⟩

/-- The lexemes of a text that ends here; no quote and no block comment may be open. -/
def finish? (s : State) : Option (List Lexeme) :=
  match s.place with
  | .between | .lineComment => some s.done.reverse
  | .inRun run => some (.bare run.reverse :: s.done).reverse
  | _ => none

end Lexing

/-- The lexemes of a text. -/
def Lexeme.scan? (l : Lexing) (text : List Char) : Option (List Lexeme) :=
  (text.foldlM l.step ⟨.between, []⟩).bind Lexing.finish?

end RecordFilter.Json
