import RecordFilter.FileFault
import RecordFilter.Filter.Resolution
import RecordFilter.QueryString
import RecordFilter.Store.Basic
import RecordFilter.Toml.Document

/-!
# Settings

Settings come from a TOML file. What it does not say has a default, and what it says beyond that is
not looked at.

* `[filters]` has `unrecognized` and `reserved_params`, `[events]` has `enabled` and `exchange`.
* `Settings.parts?` is how a value gives the parts of settings: a table by their names, an array by
  their order.
-/

namespace RecordFilter

/-- How filter expressions are taken from requests. -/
structure FilterRules where
  unrecognized : UnrecognizedPolicy
  reserved : List String
deriving DecidableEq, Repr

/-- Whether and where changes are told. -/
structure EventRules where
  enabled : Bool
  exchange : String
deriving DecidableEq, Repr

/-- All settings. -/
structure Settings where
  filters : FilterRules
  events : EventRules
deriving DecidableEq, Repr

namespace Settings

/-- The settings where nothing is said. -/
def default : Settings where
  filters := ⟨.ignore, QueryString.defaultReserved⟩
  events := ⟨false, Store.defaultExchange⟩

open Toml (Value)

/-- The parts that a value gives of those with the given names. A table gives them by name and an array
by position; a date gives none of them. -/
def parts? (names : List String) : Value → Option Toml.Entries
  | .table _ entries => some entries
  | .array items => some (names.zip items)
  | .tables items => some (names.zip (items.map (.table .header)))
  | .datetime => some []
  | _ => none

/-- One part, read if it is given and `otherwise` if not. -/
def part? {α : Type} (parts : Toml.Entries) (name : String) (read? : Value → Option α)
    (otherwise : α) : Option α :=
  match Toml.Table.get? name parts with
  | some value => read? value
  | none => some otherwise

/-- The policy of a name. -/
def policyOfName? (name : String) : Option UnrecognizedPolicy :=
  if name = "ignore" then some .ignore
  else if name = "reject" then some .reject
  else none

/-- Whether a value is an array or a table without contents. -/
def isHollow : Value → Bool
  | .array items => items.isEmpty
  | .table _ entries => entries.isEmpty
  | .tables items => items.isEmpty
  | _ => false

/-- A policy: its name, or a table whose only key is its name, with nothing under it. -/
def policy? : Value → Option UnrecognizedPolicy
  | .string name => policyOfName? name
  | .table _ [(name, value)] => if isHollow value then policyOfName? name else none
  | _ => none

/-- A text. -/
def text? : Value → Option String
  | .string s => some s
  | _ => none

/-- Texts. -/
def texts? : Value → Option (List String)
  | .array items => items.mapM text?
  | _ => none

/-- A truth value. -/
def boolean? : Value → Option Bool
  | .boolean b => some b
  | _ => none

/-- The rules for filters that a value gives. -/
def filterRules? (value : Value) : Option FilterRules := do
  let parts ← parts? ["unrecognized", "reserved_params"] value
  return { unrecognized := ← part? parts "unrecognized" policy? default.filters.unrecognized
           reserved := ← part? parts "reserved_params" texts? default.filters.reserved }

/-- The rules for events that a value gives. -/
def eventRules? (value : Value) : Option EventRules := do
  let parts ← parts? ["enabled", "exchange"] value
  return { enabled := ← part? parts "enabled" boolean? default.events.enabled
           exchange := ← part? parts "exchange" text? default.events.exchange }

/-- The settings of a document. -/
def ofDocument? (root : Toml.Entries) : Option Settings := do
  return { filters := ← part? root "filters" filterRules? default.filters
           events := ← part? root "events" eventRules? default.events }

end Settings

/-- Why settings could not be read. -/
inductive SettingsError
  | read (path : String) (fault : FileFault)
  | parse (path : String)
deriving DecidableEq, Repr

/-- What is wrong with a file that could be read. Where it goes wrong is not told. -/
def SettingsError.malformed : String := "malformed settings"

/-- The text of the error. -/
def SettingsError.message : SettingsError → String
  | read path fault => "Failed to read config file '" ++ path ++ "': " ++ fault.message
  | parse path => "Failed to parse config file '" ++ path ++ "': " ++ malformed

/-- What is behind the error. -/
def SettingsError.cause : SettingsError → String
  | read _ fault => fault.message
  | parse _ => malformed

/-- The settings in a file, by its path and what it holds. -/
def Settings.load (path : String) (content : Except FileFault ByteArray) :
    Except SettingsError Settings :=
  match fileText content with
  | .error fault => .error (.read path fault)
  | .ok text =>
    match (Toml.Document.read? text).bind ofDocument? with
    | some settings => .ok settings
    | none => .error (.parse path)

end RecordFilter
