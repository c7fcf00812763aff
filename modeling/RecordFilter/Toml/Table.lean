/-!
# TOML values and tables

A table remembers how it came about, because that decides who may still add to it. A document is
built by two operations on its root table: `Table.open?` and `Table.openNext?` for the headers, and
`Table.assign?` for the key-value pairs below them.

* Entries stand in the order in which their keys were first written.
* Numbers and dates are checked when they are read, and what they say is not kept.
-/

namespace RecordFilter.Toml

/-- How a table came about. -/
inductive Origin
  /-- By a header of its own. -/
  | header
  /-- By the header of a table inside it. -/
  | implied
  /-- By a dotted key. -/
  | dotted
  /-- Between braces. -/
  | braces
  /-- By a dotted key between braces. -/
  | dottedInBraces
deriving DecidableEq, Repr

/-- Whether the path of a header may lead through a table made in this way. -/
def Origin.passable : Origin → Bool
  | header | implied | dotted => true
  | braces | dottedInBraces => false

/-- A TOML value. -/
inductive Value
  | string (s : String)
  | integer
  | float
  | boolean (b : Bool)
  | datetime
  | array (items : List Value)
  | table (origin : Origin) (entries : List (String × Value))
  /-- The tables under a doubled header, in their order. -/
  | tables (items : List (List (String × Value)))

/-- Keys and values in the order in which the keys were written. -/
abbrev Entries := List (String × Value)

namespace Table

/-- The value under a key. -/
def get? (key : String) (entries : Entries) : Option Value :=
  entries.lookup key

/-- Puts another value in the place of the one under a key. -/
def replace (key : String) (value : Value) (entries : Entries) : Entries :=
  entries.map fun (k, v) => if k = key then (k, value) else (k, v)

/-- Changes the table at the end of a path of header keys. Tables that are not there come about on the
way, and of the tables under a doubled header the last one is meant. -/
def at? (change : Entries → Option Entries) : List String → Entries → Option Entries
  | [], entries => change entries
  | key :: path, entries =>
    match get? key entries with
    | none => (at? change path []).map fun inner => entries ++ [(key, .table .implied inner)]
    | some (.table origin inner) =>
      if origin.passable then
        (at? change path inner).map fun inner => replace key (.table origin inner) entries
      else none
    | some (.tables items) =>
      (at? change path (items.getLast?.getD [])).map fun inner =>
        replace key (.tables (items.dropLast ++ [inner])) entries
    | some _ => none

/-- Opens a table by its header: a new one, or one that only headers inside it have implied. -/
def open? (parent : List String) (key : String) : Entries → Option Entries :=
  at? (fun entries =>
    match get? key entries with
    | none => some (entries ++ [(key, .table .header [])])
    | some (.table .implied inner) =>
      some (entries.filter (fun e => e.1 ≠ key) ++ [(key, .table .header inner)])
    | some _ => none) parent

/-- Opens the next table under a doubled header. -/
def openNext? (parent : List String) (key : String) : Entries → Option Entries :=
  at? (fun entries =>
    match get? key entries with
    | none => some (entries ++ [(key, .tables [[]])])
    | some (.tables items) => some (replace key (.tables (items ++ [[]])) entries)
    | some _ => none) parent

/-- Sets a key that is not there yet. The keys before it in a dotted key lead through tables that
dotted keys have made, or that come about now with the origin `made`; the table at the end of these
must be one that dotted keys have made, which `fitting` says of the table at hand. -/
def assign? (made : Origin) (key : String) (value : Value) :
    (path : List String) → (fitting : Bool) → Entries → Option Entries
  | [], fitting, entries =>
    if fitting ∧ (get? key entries).isNone then some (entries ++ [(key, value)]) else none
  | step :: path, _, entries =>
    match get? step entries with
    | none =>
      (assign? made key value path true []).map fun inner => entries ++ [(step, .table made inner)]
    | some (.table origin inner) =>
      if origin = made ∨ (origin = .implied ∧ made = .dotted) then
        (assign? made key value path (origin = made) inner).map fun inner =>
          replace step (.table origin inner) entries
      else none
    | some (.tables items) =>
      if made = .dotted then
        (assign? made key value path false (items.getLast?.getD [])).map fun inner =>
          replace step (.tables (items.dropLast ++ [inner])) entries
      else none
    | some _ => none

/-- The table of key-value pairs between braces. -/
def ofPairs? (pairs : List (List String × String × Value)) : Option Entries :=
  pairs.foldlM (fun entries (path, key, value) =>
    assign? .dottedInBraces key value path true entries) []

end Table

end RecordFilter.Toml
