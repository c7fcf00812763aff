import RecordFilter.Command.Arguments
import RecordFilter.Command.System
import RecordFilter.Json.Strict
import RecordFilter.Settings
import RecordFilter.Store.Document

/-!
# Running a command line

A run reads the settings and the data file, works on a store, and writes the data file back if the
store has changed. Then it prints its report, and last it copies the report to a file if it is to. What it
does between reading and writing is `perform`, which asks nothing of the system: it says what to write and
what to report.

* `Failure` is why a run fails, `Failure.report` what the program says of it and `Failure.code` what it
  returns.
* `run` carries out a command line in a system.
-/

namespace RecordFilter.Command

/-- Why a run fails. -/
inductive Failure
  | settings (e : SettingsError)
  | unrecognized (e : UnrecognizedToken)
  | loading (path : String) (e : StoreError)
  | saving (path : String) (e : StoreError)
  | store (e : StoreError)
  | attributesMalformed
  | attributesNoObject (text : String)
  | deletesAll (entity : String)
  | printing (fault : FileFault)
  | output (path : String) (fault : FileFault)
deriving DecidableEq, Repr

namespace Failure

/-- The message of a store error, and that of the fault behind it. -/
def storeChain (e : StoreError) : List String :=
  e.message :: (e.fault?.map FileFault.message).toList

/-- What went wrong, and the causes of it, each one behind the one before it. -/
def chain : Failure → String × List String
  | settings e => ("Failed to load config", [e.message, e.cause])
  | unrecognized e => (e.message, [])
  | loading path e => ("Failed to load data file '" ++ path ++ "'", storeChain e)
  | saving path e => ("Failed to save data file '" ++ path ++ "'", storeChain e)
  | store e => (e.message, (e.fault?.map FileFault.message).toList)
  | attributesMalformed => ("Attributes must be valid JSON", ["malformed JSON"])
  | attributesNoObject text => ("Attributes must be a JSON object, got: " ++ text, [])
  | deletesAll entity =>
    ("Refusing to delete every '" ++ entity ++
      "' record without a filter; pass --all to confirm", [])
  | printing fault => ("failed printing to stdout: " ++ fault.message, [])
  | output path fault => ("Failed to write output file '" ++ path ++ "'", [fault.message])

/-- A text whose first line stands after `first` and the others after as many blanks as `indent`. -/
def indented (first : String) (indent : Nat) (text : String) : String :=
  first ++ joinWith ("\n" ++ String.ofList (List.replicate indent ' ')) (pieces '\n' text)

/-- The causes, one below the other; two or more are numbered. -/
def causeLines : List String → List String
  | [cause] => [indented "    " 4 cause]
  | causes => causes.mapIdx fun n cause => indented ("    " ++ toString n ++ ": ") 7 cause

/-- What the program returns for a failure. It gives up in the midst of printing, and reports the others. -/
def code : Failure → Nat
  | printing _ => 101
  | _ => 1

/-- What the program says of a failure. -/
def report (f : Failure) : String :=
  let (message, causes) := f.chain
  (if f.code = 1 then "Error: " else "") ++ message ++
    if causes.isEmpty then "" else "\n\nCaused by:\n" ++ joinWith "\n" (causeLines causes)

end Failure

/-- What a run does in the end. -/
structure Effects where
  /-- The new text of the data file, if it is written back. -/
  saved? : Option String
  /-- The changes that were published. -/
  events : List ChangeEvent
  /-- What is reported. -/
  text : String

/-- The attributes that a text gives. -/
def attributes (text : String) : Except Failure Json :=
  match Json.Dialect.strict.read? text with
  | none => .error .attributesMalformed
  | some value => if value.isObject then .ok value else .error (.attributesNoObject text)

/-- The expressions of a request: those that stand by themselves, then those of the query string. -/
def expressions (settings : Settings) (tokens : List String) (queryString? : Option String) :
    List String :=
  tokens ++ (queryString?.map (QueryString.tokens settings.filters.reserved)).getD []

/-- What becomes of expressions that nobody recognizes. -/
def policy (line : CommandLine) (settings : Settings) : UnrecognizedPolicy :=
  if line.strict then .reject else settings.filters.unrecognized

/-- The plan of expressions. -/
def plan (policy : UnrecognizedPolicy) (tokens : List String) : Except Failure QueryPlan :=
  match Registry.standard.compileUnder policy tokens with
  | .ok filters => .ok (.ofFilters filters)
  | .error e => .error (.unrecognized e)

/-- The store of a data file. Events are kept where they are enabled. -/
def openStore (path : String) (events : EventRules) (data : Except FileFault ByteArray) :
    Except Failure (Store (List ChangeEvent)) :=
  match Collections.load path data with
  | .ok collections =>
    .ok ((Store.quiet collections).withPublisher (if events.enabled then .recorder else .silent) []
      events.exchange)
  | .error e => .error (.loading path e)

/-- The result of an operation, where it does not fail. -/
def succeed {α : Type} (r : Except StoreError α) : Except Failure α :=
  r.mapError .store

/-- What a request does that has changed a store. -/
def changing (store : Store (List ChangeEvent)) (text : String) : Effects :=
  ⟨some store.collections.fileText, store.sink, text⟩

/-- What a request does that only looks. -/
def looking (text : String) : Effects := ⟨none, [], text⟩

/-- What a request does. The settings have been read, and `data` is what its data file holds. -/
def perform (line : CommandLine) (settings : Settings) (colors : Bool)
    (data : Except FileFault ByteArray) : Except Failure Effects := do
  let policy := policy line settings
  match line.request with
  | .query path entity tokens queryString? =>
    let plan ← plan policy (expressions settings tokens queryString?)
    let store ← openStore path settings.events data
    let records ← succeed (store.collections.query entity plan)
    return looking (Report.records line.format colors entity records plan)
  | .view path entity id =>
    let store ← openStore path settings.events data
    let record ← succeed (store.collections.find entity id)
    return looking (Report.record line.format colors (entity ++ " #" ++ toString id) record)
  | .explain tokens queryString? =>
    let resolutions := Registry.standard.explain (expressions settings tokens queryString?)
    let filters := resolutions.filterMap Resolution.filter
    return looking (Report.explanation line.format colors resolutions (.ofFilters filters))
  | .operators => return looking (Report.operators line.format .standard)
  | .create path entity text =>
    let attributes ← attributes text
    let store ← openStore path settings.events data
    let (result, store) := store.create entity attributes
    let record ← succeed result
    return changing store (Report.record line.format colors ("Created " ++ entity) record)
  | .update path entity id text =>
    let attributes ← attributes text
    let store ← openStore path settings.events data
    let (result, store) := store.update entity id attributes
    let record ← succeed result
    return changing store
      (Report.record line.format colors ("Updated " ++ entity ++ " #" ++ toString id) record)
  | .delete path entity id =>
    let store ← openStore path settings.events data
    let (result, store) := store.delete entity id
    let record ← succeed result
    return changing store (Report.records line.format colors entity [record] .empty)
  | .deleteWhere path entity tokens queryString? all =>
    let store ← openStore path settings.events data
    let plan ← plan policy (expressions settings tokens queryString?)
    if plan.isEmpty ∧ ¬all then throw (.deletesAll entity)
    else
      let (result, store) := store.deleteWhere entity plan
      let records ← succeed result
      return changing store (Report.records line.format colors entity records .empty)

/-- Where a program runs. -/
structure Environment where
  /-- The path of the settings where no option gives one. -/
  settings? : Option String
  /-- Whether reports go to a terminal that shows colours. -/
  terminal : Bool
deriving Repr

/-- What is seen of a run. -/
structure Outcome where
  /-- Zero for success, two for arguments that make no sense, and otherwise the code of a failure. -/
  code : Nat
  /-- What was printed; nothing counts of what could not be printed to its end. -/
  stdout : String
  failure? : Option Failure
  /-- The changes that are told of: those that were published, none in a quiet run. -/
  events : List ChangeEvent

namespace Outcome

/-- A run that fails. -/
def failed (f : Failure) (stdout : String) (events : List ChangeEvent) : Outcome :=
  ⟨f.code, stdout, some f, events⟩

/-- A run that succeeds. -/
def succeeded (stdout : String) (events : List ChangeEvent) : Outcome :=
  ⟨0, stdout, none, events⟩

end Outcome

/-- The name and the version of the program. -/
def versionText : String := programName ++ " 0.1.0\n"

/-- Whether reports are coloured. -/
def CommandLine.colors (line : CommandLine) (terminal : Bool) : Bool :=
  match line.color with
  | .auto => terminal
  | .always => true
  | .never => false

/-- The text with a line end after its last line. -/
def closed (text : String) : String :=
  if text.toList.getLast? = some '\n' then text else text ++ "\n"

/-- How the program is called. -/
def usage : String := "usage: " ++ programName ++ " [OPTIONS] COMMAND"

variable {m : Type → Type} [Monad m]

/-- The settings of a command line, or those where nothing is said. -/
def readSettings (system : System m) (path? : Option String) :
    m (Except SettingsError Settings) := do
  match path? with
  | some path => return Settings.load path (← system.read path)
  | none => return .ok .default

/-- Reads the data file, if there is one. -/
def readData (system : System m) (path? : Option String) : m (Except FileFault ByteArray) := do
  match path? with
  | some path => system.read path
  | none => return .error .missing

/-- Writes back the data file, if it is to be written. -/
def save (system : System m) (path? text? : Option String) : m (Except Failure Unit) := do
  match path?, text? with
  | some path, some text =>
    return (← system.write path text.toUTF8).mapError fun fault => .saving path (.write path fault)
  | _, _ => return .ok ()

/-- Prints the report. -/
def printReport (system : System m) (text : String) : m (Except Failure Unit) := do
  return (← system.print (closed text)).mapError .printing

/-- Writes the report to a file too, if one is named. -/
def copy (system : System m) (path? : Option String) (text : String) : m (Except Failure Unit) := do
  match path? with
  | none => return .ok ()
  | some path => return (← system.write path text.toUTF8).mapError (.output path)

/-- Carries out a command line. The data file is written before anything is printed, and the report is
printed before it is copied. -/
def CommandLine.run (system : System m) (terminal : Bool) (line : CommandLine) : m Outcome := do
  match ← readSettings system line.settings? with
  | .error e => return .failed (.settings e) "" []
  | .ok settings =>
    let data? := line.request.data?
    match perform line settings (line.colors terminal) (← readData system data?) with
    | .error f => return .failed f "" []
    | .ok effects =>
      let events := if line.quiet then [] else effects.events
      match ← save system data? effects.saved? with
      | .error f => return .failed f "" events
      | .ok () =>
        match ← printReport system effects.text with
        | .error f => return .failed f "" events
        | .ok () =>
          match ← copy system line.output? effects.text with
          | .error f => return .failed f (closed effects.text) events
          | .ok () => return .succeeded (closed effects.text) events

/-- Prints a text that is asked for in place of a command. Whether it can be printed does not matter. -/
def answer (system : System m) (text : String) : m Outcome := do
  match ← system.print text with
  | .ok () => return .succeeded text []
  | .error _ => return .succeeded "" []

/-- Runs the program with arguments. `help` is what it prints of a topic to those who ask. -/
def run (system : System m) (environment : Environment) (args : List String)
    (help : Topic → String := fun _ => usage ++ "\n") : m Outcome := do
  match CommandLine.read environment.settings? args with
  | .error (.help topic) => answer system (help topic)
  | .error .version => answer system versionText
  | .error .misuse => return ⟨2, "", none, []⟩
  | .ok line => line.run system environment.terminal

end RecordFilter.Command
