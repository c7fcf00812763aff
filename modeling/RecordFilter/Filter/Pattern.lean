/-!
# Patterns of filter expressions

A pattern is tried from left to right. A run takes as many characters as it can, an optional part is
taken where it can be, and both give back what keeps the rest of the pattern from matching: of all
ways to match, the first in this order counts.

* `Pattern.matchFrom?` matches at one place and goes on with a continuation.
* `Pattern.search?` takes the first place of a text at which the pattern matches.
* `Pattern.whole?` asks whether that match is the whole text, and tries one place only:
  `whole?_eq_search?`.
-/

namespace RecordFilter

/-- A set of characters: those in the ranges, or with `negated` all others. -/
structure CharClass where
  negated : Bool
  ranges : List (Char × Char)
deriving DecidableEq, Repr

namespace CharClass

/-- Whether the character is in the class. -/
def contains (k : CharClass) (c : Char) : Bool :=
  k.negated != k.ranges.any fun (first, last) => first ≤ c && c ≤ last

/-- All characters. -/
def all : CharClass := ⟨true, []⟩

/-- One character. -/
def only (c : Char) : CharClass := ⟨false, [(c, c)]⟩

/-- All characters but the given ones. -/
def except (cs : List Char) : CharClass := ⟨true, cs.map fun c => (c, c)⟩

end CharClass

/-- A pattern. -/
inductive Pattern
  | nothing
  /-- The start of the text. -/
  | start
  /-- The end of the text. -/
  | stop
  | one (k : CharClass)
  /-- Any number of characters of a class. -/
  | run (k : CharClass)
  /-- A part whose text is kept under a number. -/
  | group (n : Nat) (p : Pattern)
  | optional (p : Pattern)
  | seq (p q : Pattern)
deriving DecidableEq, Repr

namespace Pattern

/-- A part of a text: from where `first` begins to where `last` begins. -/
structure Span where
  first : List Char
  last : List Char
deriving DecidableEq, Repr

/-- The characters of a part. -/
def Span.text (s : Span) : String :=
  String.ofList (s.first.take (s.first.length - s.last.length))

/-- The parts kept so far, the last one first. -/
abbrev Groups := List (Nat × Span)

/-- The text kept under a number. -/
def Groups.text? (groups : Groups) (n : Nat) : Option String :=
  (groups.lookup n).map Span.text

/-- How a pattern matched at a place: what was kept, and what is left. -/
structure Found where
  groups : Groups
  rest : List Char
deriving DecidableEq, Repr

/-- What to do with the rest and the groups when a part has matched. -/
abbrev Next := List Char → Groups → Option Found

/-- Gives back what a run has taken, the last character first, until `next` succeeds. -/
def giveBack? (groups : Groups) (next : Next) : List Char → List Char → Option Found
  | [], rest => next rest groups
  | c :: taken, rest =>
    match next rest groups with
    | some found => some found
    | none => giveBack? groups next taken (c :: rest)

/-- Takes as many characters of a class as leave a rest with which `next` succeeds. `taken` are those
it has, the last one first. -/
def runFrom? (k : CharClass) (groups : Groups) (next : Next) (taken : List Char) :
    List Char → Option Found
  | [] => giveBack? groups next taken []
  | c :: rest =>
    if k.contains c then runFrom? k groups next (c :: taken) rest
    else giveBack? groups next taken (c :: rest)

/-- Matches at one place and goes on with `next`. `whole` is the length of the text. -/
def matchFrom? (whole : Nat) : Pattern → List Char → Groups → Next → Option Found
  | nothing, s, groups, next => next s groups
  | start, s, groups, next => if s.length = whole then next s groups else none
  | stop, s, groups, next => if s = [] then next s groups else none
  | one k, s, groups, next =>
    match s with
    | [] => none
    | c :: rest => if k.contains c then next rest groups else none
  | run k, s, groups, next => runFrom? k groups next [] s
  | group n p, s, groups, next =>
    matchFrom? whole p s groups fun rest inner => next rest ((n, ⟨s, rest⟩) :: inner)
  | optional p, s, groups, next =>
    match matchFrom? whole p s groups next with
    | some found => some found
    | none => next s groups
  | seq p q, s, groups, next =>
    matchFrom? whole p s groups fun rest inner => matchFrom? whole q rest inner next

/-- The match at one place of a text. -/
def matchAt? (p : Pattern) (whole : Nat) (s : List Char) : Option Found :=
  p.matchFrom? whole s [] fun rest groups => some ⟨groups, rest⟩

/-- The match at the first place of a text that allows one, and what is before it. `skipped` is what
is before the places that are tried, last character first. -/
def searchFrom? (p : Pattern) (whole : Nat) (skipped : List Char) :
    List Char → Option (List Char × Found)
  | [] => (p.matchAt? whole []).map fun found => (skipped.reverse, found)
  | c :: s =>
    match p.matchAt? whole (c :: s) with
    | some found => some (skipped.reverse, found)
    | none => searchFrom? p whole (c :: skipped) s

/-- The first match in a text, and what is before it. -/
def search? (p : Pattern) (text : List Char) : Option (List Char × Found) :=
  p.searchFrom? text.length [] text

/-- What the first match in a text kept, if that match is the whole text. Only the start of the text
is tried, since a match at a later place is not the whole text. -/
def whole? (p : Pattern) (text : List Char) : Option Groups :=
  (p.matchAt? text.length text).bind fun found =>
    if found.rest = [] then some found.groups else none

/-- A match after what was skipped has that before it. -/
theorem before_ne_nil_of_searchFrom? {p : Pattern} {whole : Nat} {skipped s before : List Char}
    {found : Found} (h : p.searchFrom? whole skipped s = some (before, found))
    (hs : skipped ≠ []) : before ≠ [] := by
  induction s generalizing skipped with
  | nil =>
    simp only [searchFrom?, Option.map_eq_some_iff, Prod.mk.injEq] at h
    obtain ⟨_, _, rfl, _⟩ := h
    simpa using hs
  | cons c s ih =>
    simp only [searchFrom?] at h
    split at h
    · obtain ⟨rfl, _⟩ := h
      simpa using hs
    · exact ih h (by simp)

/-- The whole text is what the search finds when nothing is before the match and nothing after it. -/
theorem whole?_eq_search? (p : Pattern) (text : List Char) :
    p.whole? text = (p.search? text).bind fun (before, found) =>
      if before = [] ∧ found.rest = [] then some found.groups else none := by
  cases text with
  | nil =>
    simp only [whole?, search?, searchFrom?]
    cases p.matchAt? ([] : List Char).length [] <;> simp
  | cons c s =>
    simp only [whole?, search?, searchFrom?]
    cases p.matchAt? (c :: s).length (c :: s) with
    | some found => simp
    | none =>
      cases h : p.searchFrom? (c :: s).length [c] s with
      | none => simp
      | some found => simp [before_ne_nil_of_searchFrom? h (by simp)]

/-- One or more characters of a class. -/
def run1 (k : CharClass) : Pattern :=
  seq (one k) (run k)

/-- The characters of a text, one after the other. -/
def literal (s : String) : Pattern :=
  s.toList.foldr (fun c p => seq (one (.only c)) p) nothing

/-- Patterns one after the other. -/
def all (ps : List Pattern) : Pattern :=
  ps.foldr seq nothing

end Pattern

end RecordFilter
