import RecordFilter.Toml.Scalar
import RecordFilter.Toml.Text

/-!
# Reading TOML documents

* `Value.read?` reads a value; arrays and braces may be nested 79 deep.
* `Document.read?` reads a document, one header or key-value pair a line, into its root table.
-/

namespace RecordFilter.Toml

/-- How many arrays and braces may be open at once, and how many parts a key may have. -/
def roomForNesting : Nat := 79

/-- The text after a line end, or none if it does not start with one. A text that ends counts. -/
def lineEnd? : List Char → Option (List Char)
  | [] => some []
  | '\n' :: rest => some rest
  | '\r' :: '\n' :: rest => some rest
  | _ => none

/-- The text after a comment, if one stands here. -/
def skipComment : List Char → List Char
  | '#' :: rest => rest.dropWhile isPlain
  | s => s

/-- The text after blanks, comments and line ends. Each step of `fuel` leaves one line. -/
def skipLines : (fuel : Nat) → List Char → List Char
  | 0, s => s
  | fuel + 1, s =>
    match skipComment (skipBlanks s) with
    | '\n' :: rest => skipLines fuel rest
    | '\r' :: '\n' :: rest => skipLines fuel rest
    | s => s

/-- The text after all blanks, comments and line ends. -/
def skipSpace (s : List Char) : List Char :=
  skipLines (s.length + 1) s

/-- Reads a key and the equals sign after it. -/
def keyAndSign? : Reader (List String × String) := fun s =>
  match keyPath? roomForNesting s with
  | some (key, '=' :: rest) => some (key, rest)
  | _ => none

/-- A key with its path, and a value. -/
abbrev Pair := List String × String × Value

mutual

/-- Reads a value. Every step of `fuel` takes a character off or enters an array or braces, of which
`room` more may be open. -/
def value? (fuel room : Nat) (s : List Char) : Option (Value × List Char) :=
  match fuel with
  | 0 => none
  | fuel + 1 =>
    match s with
    | '"' :: _ | '\'' :: _ => (string? s).map fun (text, rest) => (.string (String.ofList text), rest)
    | '[' :: rest =>
      if room = 0 then none
      else (items? fuel (room - 1) rest).map fun (items, rest) => (.array items, rest)
    | '{' :: rest =>
      if room = 0 then none
      else
        match skipBlanks rest with
        | '}' :: rest => some (.table .braces [], rest)
        | _ =>
          (pairs? fuel (room - 1) rest).bind fun (pairs, rest) =>
            (Table.ofPairs? pairs).map fun entries => (.table .braces entries, rest)
    | _ => scalar? s

/-- Reads items up to the closing bracket; a comma may stand after the last one. -/
def items? (fuel room : Nat) (s : List Char) : Option (List Value × List Char) :=
  match fuel with
  | 0 => none
  | fuel + 1 =>
    match skipSpace s with
    | ']' :: rest => some ([], rest)
    | s =>
      (value? fuel room s).bind fun (item, rest) =>
        match skipSpace rest with
        | ']' :: rest => some ([item], rest)
        | ',' :: rest => (items? fuel room rest).map fun (items, rest) => (item :: items, rest)
        | _ => none

/-- Reads key-value pairs up to the closing brace, all on one line. -/
def pairs? (fuel room : Nat) (s : List Char) : Option (List Pair × List Char) :=
  match fuel with
  | 0 => none
  | fuel + 1 =>
    (keyAndSign? s).bind fun ((path, key), rest) =>
      (value? fuel room (skipBlanks rest)).bind fun (value, rest) =>
        match skipBlanks rest with
        | '}' :: rest => some ([(path, key, value)], rest)
        | ',' :: rest =>
          (pairs? fuel room rest).map fun (pairs, rest) => ((path, key, value) :: pairs, rest)
        | _ => none

end

/-- Reads a value from the start of a text. -/
def Value.read? : Reader Value := fun s =>
  value? (2 * s.length + 2) roomForNesting s

namespace Document

/-- What has been read: the root table, and the path of the table that pairs go to. -/
structure State where
  root : Entries
  path : List String

/-- Reads what closes a header, and what may follow on its line. -/
def headerEnd? (closing : List Char) (s : List Char) : Option (List Char) :=
  if closing.isPrefixOf s then lineEnd? (skipComment (skipBlanks (s.drop closing.length))) else none

/-- Reads one header or key-value pair with its line end. -/
def line? (state : State) (s : List Char) : Option (State × List Char) :=
  match s with
  | '[' :: '[' :: rest => do
    let ((parent, key), rest) ← keyPath? roomForNesting rest
    let rest ← headerEnd? [']', ']'] rest
    let root ← Table.openNext? parent key state.root
    return (⟨root, parent ++ [key]⟩, rest)
  | '[' :: rest => do
    let ((parent, key), rest) ← keyPath? roomForNesting rest
    let rest ← headerEnd? [']'] rest
    let root ← Table.open? parent key state.root
    return (⟨root, parent ++ [key]⟩, rest)
  | _ => do
    let ((path, key), rest) ← keyAndSign? s
    let (value, rest) ← Value.read? (skipBlanks rest)
    let rest ← lineEnd? (skipComment (skipBlanks rest))
    let root ← Table.at? (Table.assign? .dotted key value path true) state.path state.root
    return ({ state with root := root }, rest)

/-- Reads lines up to the end of the text. Each step of `fuel` leaves one line. -/
def lines? : (fuel : Nat) → State → List Char → Option State
  | 0, _, _ => none
  | fuel + 1, state, s =>
    match skipSpace s with
    | [] => some state
    | s => (line? state s).bind fun (state, rest) => lines? fuel state rest

/-- The root table of a document, which a byte order mark may open. -/
def read? (text : String) : Option Entries :=
  let s :=
    match text.toList with
    | '\ufeff' :: rest => rest
    | s => s
  (lines? (s.length + 1) ⟨[], []⟩ s).map State.root

end Document

end RecordFilter.Toml
