import RecordFilter.Text.CaseFold

/-!
# LIKE patterns

`%` stands for any run of characters, the empty one and line ends included, `_` for exactly one
character, and every other character for itself up to case: pattern and text are compared after their
characters are folded. A pattern has to cover the whole text.

* `Like.Part` is a part of a pattern, and `Like.Part.rests` what it can leave of a text.
* `Like.covers` follows all the ways at once: it keeps what is left of the text on each.
* `likeMatchesWhere` takes as a parameter which patterns are accepted: the others match nothing.
* `Like.usable` are the patterns that the program accepts, by the size of an automaton for them.
-/

namespace RecordFilter

namespace Like

/-- A part of a pattern. -/
inductive Part
  | anyRun
  | anyOne
  | literal (c : Char)
deriving DecidableEq, Repr

/-- The part that a character of a pattern stands for. -/
def Part.ofChar (c : Char) : Part :=
  if c = '%' then .anyRun else if c = '_' then .anyOne else .literal c

/-- The part that stands for folded characters. -/
def Part.fold : Part → Part
  | .literal c => .literal (foldCase c)
  | part => part

/-- All that can be left of a text, the text itself first. -/
def suffixes : List Char → List (List Char)
  | [] => [[]]
  | c :: rest => (c :: rest) :: suffixes rest

/-- What is left of a text without its first character, if that is `ok`. -/
def dropFirst? (ok : Char → Bool) : List Char → Option (List Char)
  | [] => none
  | c :: rest => if ok c then some rest else none

/-- What can be left after a part, given what can be left before it. The rests come longest first and
are suffixes of one text, so that a run can leave just the suffixes of the first. -/
def Part.rests (part : Part) (before : List (List Char)) : List (List Char) :=
  match part with
  | .anyRun =>
    match before with
    | [] => []
    | longest :: _ => suffixes longest
  | .anyOne => before.filterMap (dropFirst? fun _ => true)
  | .literal c => before.filterMap (dropFirst? (· = c))

/-- Whether the parts cover the whole text. -/
def covers (parts : List Part) (text : List Char) : Bool :=
  (parts.foldl (fun rests part => part.rests rests) [text]).contains []

/-- The parts of a pattern. -/
def parts (pattern : String) : List Part :=
  pattern.toList.map Part.ofChar

end Like

/-- Whether a text matches a LIKE pattern. `accepts` says of a pattern whether it can be used at all. -/
def likeMatchesWhere (accepts : String → Bool) (pattern text : String) : Bool :=
  accepts pattern &&
    Like.covers ((Like.parts pattern).map Like.Part.fold) (text.toList.map foldCase)

namespace Like

/-! ## Patterns that the program accepts

A pattern stands for an automaton that reads the bytes of a text from its end. -/

/-- What an automaton consists of, as far as its size goes. -/
structure Size where
  states : Nat
  /-- The ways on from states that have several. -/
  branches : Nat
deriving DecidableEq, Repr

/-- A state takes 32 bytes, and a branch takes four. -/
def Size.bytes (size : Size) : Nat :=
  32 * size.states + 4 * size.branches

/-- The codes that fold to the same code as this one. -/
def equalCodes (code : Nat) : List Nat :=
  let folded := foldCode code
  folded :: foldRules.filterMap fun r =>
    let other := ((folded : Int) - r.offset).toNat
    if r.covers other then some other else none

/-- The bytes of a code before its last one, each as a part of the code that it ends and the number of bytes
after it. -/
def leads (code : Nat) : List (Nat × Nat) :=
  (List.range ((Char.ofNat code).utf8Size - 1)).map fun n => (code / Nat.pow 64 (n + 1), n + 1)

/-- The codes with which a run of codes begins that differ in their last byte alone. -/
def runStarts (codes : List Nat) : List Nat :=
  codes.filter fun code => code % 64 = 0 || !codes.contains (code - 1)

/-- One of several characters. Of ASCII characters a single state leads on, by a branch of twice the size for
each. Otherwise there is one state for each byte, but bytes with the same bytes before them share one, and a
branch for each run. There is a state after all of them. -/
def sizeOfCodes (codes : List Nat) : Size :=
  if codes.all (· < 128) then ⟨2, 2 * codes.length⟩
  else
    let runs := runStarts codes
    ⟨2 + runs.length + (codes.flatMap leads).eraseDups.length, runs.length⟩

/-- The automaton of a part. Any character has one of nine kinds of spellings, with 27 bytes in all; a run of
them is a state more, with one branch that leads there and one past it. A character without case is its bytes.
So a digit takes 32 bytes, most ASCII letters take 80, and any character takes 964. -/
def Part.size : Part → Size
  | .anyOne => ⟨29, 9⟩
  | .anyRun => ⟨30, 11⟩
  | .literal c =>
    let codes := equalCodes c.toNat
    if codes.length = 1 then ⟨c.utf8Size, 0⟩ else sizeOfCodes codes

/-- The states before and after all parts: the two ends of a text, the start and the match. -/
def frame : Size := ⟨4, 0⟩

/-- The bytes that an automaton may take, 10 MiB. -/
def sizeLimit : Nat := 10 * Nat.pow 2 20

/-- Whether the automaton of a pattern is small enough. -/
def usable (pattern : String) : Bool :=
  (parts pattern).foldl (fun bytes part => bytes + part.size.bytes) frame.bytes ≤ sizeLimit

end Like

/-- Whether a text matches a LIKE pattern that the program accepts. -/
def likeMatches (pattern text : String) : Bool :=
  likeMatchesWhere Like.usable pattern text

end RecordFilter
