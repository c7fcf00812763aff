import RecordFilter.Text.Hex

/-!
# Keys and strings of TOML

A reader takes what it reads from the start of a text and leaves the rest.

* `basic?` and `literal?` read a string on one line after its opening quote.
* `multiline?` reads a string after three opening quotes.
* `keyPath?` reads a key, whose parts may stand between points.
-/

namespace RecordFilter.Toml

/-- Reads from the start of a text. -/
abbrev Reader (α : Type) := List Char → Option (α × List Char)

/-- Blank or tab. -/
def isBlank (c : Char) : Bool :=
  c = ' ' ∨ c = '\t'

/-- The text after the blanks at its start. -/
def skipBlanks (s : List Char) : List Char :=
  s.dropWhile isBlank

/-- Whether a comment or a string may hold the character: a tab, or any but the controls. -/
def isPlain (c : Char) : Bool :=
  c = '\t' ∨ (0x20 ≤ c.toNat ∧ c.toNat ≠ 0x7f)

/-- The character that a one-letter escape stands for. -/
def escape? (c : Char) : Option Char :=
  match c with
  | 'b' => some '\x08'
  | 't' => some '\t'
  | 'n' => some '\n'
  | 'f' => some '\x0c'
  | 'r' => some '\r'
  | '"' => some '"'
  | '\\' => some '\\'
  | _ => none

/-- The character whose code the digits spell. -/
def coded? (digits : List Char) : Option Char :=
  (hexNat? digits).bind charOfCode?

/-- Puts a character before the text that a reader found. -/
def before (c : Char) (found : Option (List Char × List Char)) : Option (List Char × List Char) :=
  found.map fun (text, rest) => (c :: text, rest)

/-- Reads a string in double quotes after the first of them. -/
def basic? : Reader (List Char)
  | [] => none
  | '"' :: rest => some ([], rest)
  | '\\' :: 'u' :: a :: b :: c :: d :: rest =>
    (coded? [a, b, c, d]).bind fun e => before e (basic? rest)
  | '\\' :: 'U' :: a :: b :: c :: d :: e :: f :: g :: h :: rest =>
    (coded? [a, b, c, d, e, f, g, h]).bind fun e => before e (basic? rest)
  | '\\' :: c :: rest => (escape? c).bind fun e => before e (basic? rest)
  | c :: rest => if isPlain c ∧ c ≠ '\\' then before c (basic? rest) else none

/-- Reads a string in single quotes after the first of them. -/
def literal? : Reader (List Char)
  | [] => none
  | '\'' :: rest => some ([], rest)
  | c :: rest => if isPlain c then before c (literal? rest) else none

/-- Takes three to five quotes off: the first of more than three are text. -/
def closing? (quote : Char) : Reader (List Char)
  | a :: b :: c :: rest =>
    if a = quote ∧ b = quote ∧ c = quote then
      match rest with
      | d :: rest =>
        if d = quote then
          match rest with
          | e :: rest => if e = quote then some ([d, e], rest) else some ([d], e :: rest)
          | [] => some ([d], [])
        else some ([], d :: rest)
      | [] => some ([], [])
    else none
  | _ => none

/-- Takes off what stands before three closing quotes, as it is written. With `escapes`, a quote after
a backslash does not count. -/
def upToClosing? (quote : Char) (escapes : Bool) : Reader (List Char)
  | [] => none
  | '\\' :: e :: rest =>
    if escapes then before '\\' (before e (upToClosing? quote escapes rest))
    else before '\\' (upToClosing? quote escapes (e :: rest))
  | c :: rest =>
    match closing? quote (c :: rest) with
    | some found => some found
    | none => before c (upToClosing? quote escapes rest)

/-- The text with line feeds for all line ends. -/
def plainLineEnds : List Char → List Char
  | [] => []
  | '\r' :: '\n' :: rest => '\n' :: plainLineEnds rest
  | c :: rest => c :: plainLineEnds rest

/-- Where a character stands: in the text, or after a backslash at the end of a line, before that
line's end or after it. -/
inductive Joining
  | no
  | beforeLineEnd
  | afterLineEnd
deriving DecidableEq, Repr

/-- The text of a string of several lines. A backslash at the end of a line drops the line end and the
blanks and line ends that follow it. -/
def joinLines? : Joining → List Char → Option (List Char)
  | joining, [] => if joining = .beforeLineEnd then none else some []
  | joining, '\\' :: 'u' :: a :: b :: c :: d :: rest =>
    if joining = .beforeLineEnd then none
    else (coded? [a, b, c, d]).bind fun e => (joinLines? .no rest).map (e :: ·)
  | joining, '\\' :: 'U' :: a :: b :: c :: d :: e :: f :: g :: h :: rest =>
    if joining = .beforeLineEnd then none
    else (coded? [a, b, c, d, e, f, g, h]).bind fun e => (joinLines? .no rest).map (e :: ·)
  | joining, '\\' :: e :: rest =>
    if joining = .beforeLineEnd then none
    else if isBlank e ∨ e = '\n' then joinLines? .beforeLineEnd (e :: rest)
    else (escape? e).bind fun e => (joinLines? .no rest).map (e :: ·)
  | joining, c :: rest =>
    if joining ≠ .no ∧ isBlank c then joinLines? joining rest
    else if c = '\n' then
      if joining = .no then (joinLines? .no rest).map (c :: ·) else joinLines? .afterLineEnd rest
    else if joining ≠ .beforeLineEnd ∧ isPlain c ∧ c ≠ '\\' then
      (joinLines? .no rest).map (c :: ·)
    else none

/-- Reads a string of several lines after its three opening quotes. -/
def multiline? (quote : Char) (escapes : Bool) : Reader (List Char) := fun s =>
  (upToClosing? quote escapes s).bind fun (body, rest) =>
    let lines := plainLineEnds body
    if escapes then (joinLines? .no lines).map fun text => (text, rest)
    else if lines.all fun c => c = '\n' || isPlain c then some (lines, rest)
    else none

/-- The text without the line end at its start. -/
def skipLineEnd : List Char → List Char
  | '\n' :: rest => rest
  | '\r' :: '\n' :: rest => rest
  | s => s

/-- Reads a string, from its opening quotes on. -/
def string? : Reader (List Char)
  | '"' :: '"' :: '"' :: rest => multiline? '"' true (skipLineEnd rest)
  | '"' :: rest => basic? rest
  | '\'' :: '\'' :: '\'' :: rest => multiline? '\'' false (skipLineEnd rest)
  | '\'' :: rest => literal? rest
  | _ => none

/-- Whether the character may stand in a key without quotes. -/
def isKeyChar (c : Char) : Bool :=
  c.isAlphanum || c = '_' || c = '-'

/-- Reads one part of a key. -/
def keyPart? : Reader String
  | '"' :: rest => (basic? rest).map fun (k, rest) => (String.ofList k, rest)
  | '\'' :: rest => (literal? rest).map fun (k, rest) => (String.ofList k, rest)
  | s =>
    let key := s.takeWhile isKeyChar
    if key = [] then none else some (String.ofList key, s.dropWhile isKeyChar)

/-- Reads the parts of a key between points, with blanks around them. The number of parts is less
than `room`. -/
def keyPath? : (room : Nat) → Reader (List String × String)
  | 0, _ => none
  | room + 1, s =>
    match keyPart? (skipBlanks s) with
    | none => none
    | some (key, rest) =>
      match skipBlanks rest with
      | '.' :: rest =>
        (keyPath? room rest).map fun ((path, last), rest) => ((key :: path, last), rest)
      | rest => some (([], key), rest)

end RecordFilter.Toml
