import RecordFilter.Filter.Resolution
import RecordFilter.Report.Listing
import RecordFilter.Store.Record

/-!
# Command lines

A command line names a command, with options before and after that name, and then what the command is
about. It is read from left to right, one argument at a time.

* `Reading.step` reads one argument, `Reading.finish` makes a `CommandLine` of what was read.
* An option may be given once before the command and once after it; the one after it counts.
* After `--` nothing is an option any more.
* Whoever asks for help or for the version gets that and no command line: `Stop`.
-/

namespace RecordFilter.Command

/-- When reports are coloured. -/
inductive ColorMode
  | auto
  | always
  | never
deriving DecidableEq, Repr

/-- What a command line asks for. -/
inductive Request
  | query (data entity : String) (tokens : List String) (queryString? : Option String)
  | view (data entity : String) (id : UInt64)
  | explain (tokens : List String) (queryString? : Option String)
  | operators
  | create (data entity attributes : String)
  | update (data entity : String) (id : UInt64) (attributes : String)
  | delete (data entity : String) (id : UInt64)
  | deleteWhere (data entity : String) (tokens : List String) (queryString? : Option String)
      (all : Bool)
deriving DecidableEq, Repr

/-- A command line. -/
structure CommandLine where
  settings? : Option String
  format : ReportFormat
  /-- The file that the report is also written to. -/
  output? : Option String
  strict : Bool
  color : ColorMode
  quiet : Bool
  request : Request
deriving Repr

/-! ## Options -/

/-- Options without a value. -/
inductive Flag
  | strict
  | verbose
  | quiet
  | all
deriving DecidableEq, Repr

/-- Options with a value. -/
inductive Key
  | settings
  | format
  | output
  | color
  | queryString
  | attributes
  | id
deriving DecidableEq, Repr

/-- What an option is. -/
inductive Opt
  | flag (f : Flag)
  | key (k : Key)
  /-- Asks for help, in few words or at length. -/
  | help (brief : Bool)
  | version
deriving DecidableEq, Repr

/-- The commands. -/
inductive Verb
  | query
  | view
  | explain
  | operators
  | create
  | update
  | delete
deriving DecidableEq, Repr

/-- The command of a name. -/
def Verb.ofName? : String → Option Verb
  | "query" => some .query
  | "show" => some .view
  | "explain" => some .explain
  | "operators" => some .operators
  | "create" => some .create
  | "update" => some .update
  | "delete" => some .delete
  | _ => none

/-- What help is asked about. -/
inductive Subject
  | program
  | command (verb : Verb)
  /-- The command that gives help. -/
  | help
deriving DecidableEq, Repr

/-- What is narrowed down by one more name after the command `help`, if that can be. -/
def Subject.narrow? : Subject → String → Option Subject
  | program, name => if name = "help" then some help else (Verb.ofName? name).map command
  | _, _ => none

/-- A request for help. -/
structure Topic where
  subject : Subject
  brief : Bool
deriving DecidableEq, Repr

/-- Why no command line is made of the arguments. -/
inductive Stop
  | help (topic : Topic)
  /-- The version is asked for. -/
  | version
  /-- The arguments make no sense. -/
  | misuse
deriving DecidableEq, Repr

/-- Whether an option is one of a command, besides those of all commands. -/
def Verb.has (verb : Verb) : Opt → Bool
  | .key .queryString => verb = .query ∨ verb = .explain ∨ verb = .delete
  | .key .attributes => verb = .create ∨ verb = .update
  | .key .id | .flag .all => verb = .delete
  | .version => false
  | _ => true

/-- The option of a long name. -/
def longOption? : String → Option Opt
  | "config" => some (.key .settings)
  | "format" => some (.key .format)
  | "output" => some (.key .output)
  | "strict" => some (.flag .strict)
  | "color" => some (.key .color)
  | "verbose" => some (.flag .verbose)
  | "quiet" => some (.flag .quiet)
  | "query-string" => some (.key .queryString)
  | "set" => some (.key .attributes)
  | "id" => some (.key .id)
  | "all" => some (.flag .all)
  | "help" => some (.help false)
  | "version" => some .version
  | _ => none

/-- The option of a letter. -/
def shortOption? : Char → Option Opt
  | 'F' => some (.key .format)
  | 'o' => some (.key .output)
  | 'v' => some (.flag .verbose)
  | 'q' => some (.flag .quiet)
  | 'h' => some (.help true)
  | 'V' => some .version
  | _ => none

/-- Whether an option may stand here: before the command only those of all commands. -/
def Opt.standsAt : Opt → Option Verb → Bool
  | .version, none => true
  | .key .queryString, none | .key .attributes, none | .key .id, none | .flag .all, none => false
  | _, none => true
  | o, some verb => verb.has o

/-- The format of a name. -/
def format? : String → Option ReportFormat
  | "text" => some .text
  | "json" => some .json
  | _ => none

/-- The colour mode of a name. -/
def color? : String → Option ColorMode
  | "auto" => some .auto
  | "always" => some .always
  | "never" => some .never
  | _ => none

/-- Whether a text is a value of an option. Paths are not empty. -/
def Key.accepts : Key → String → Bool
  | settings, v | output, v => v ≠ ""
  | format, v => (format? v).isSome
  | color, v => (color? v).isSome
  | queryString, _ | attributes, _ => true
  | id, v => (idOfText? v).isSome

/-! ## Reading arguments -/

/-- Options and other arguments, on one side of the command's name. -/
structure Given where
  flags : List Flag
  values : List (Key × String)
  others : List String
deriving Repr

namespace Given

/-- Nothing. -/
def none : Given := ⟨[], [], []⟩

/-- Adds a flag; all but `verbose` may be given once. -/
def addFlag (g : Given) (f : Flag) : Except Stop Given :=
  if f ≠ .verbose ∧ f ∈ g.flags then .error .misuse else .ok { g with flags := f :: g.flags }

/-- Adds an option with its value; it may be given once. -/
def addValue (g : Given) (k : Key) (v : String) : Except Stop Given :=
  if (g.values.lookup k).isSome ∨ k.accepts v = false then .error .misuse
  else .ok { g with values := (k, v) :: g.values }

end Given

/-- What has been read of a command line. -/
structure Reading where
  /-- What stands before the command's name. -/
  before : Given
  /-- The command, and what stands after its name. -/
  command? : Option (Verb × Given)
  /-- An option that waits for its value. -/
  waiting? : Option Key
  /-- Whether `--` has been read. -/
  plain : Bool
  /-- What help is asked about, once the command `help` has been read. -/
  asking? : Option Subject
deriving Repr

namespace Reading

/-- Nothing has been read. -/
def start : Reading := ⟨.none, none, none, false, none⟩

/-- Changes the side that is being read. -/
def modify (r : Reading) (change : Given → Except Stop Given) : Except Stop Reading :=
  match r.command? with
  | some (verb, given) => (change given).map fun g => { r with command? := some (verb, g) }
  | none => (change r.before).map fun g => { r with before := g }

/-- What help is asked about where an option asks for it. -/
def subject (r : Reading) : Subject :=
  match r.command? with
  | some (verb, _) => .command verb
  | none => .program

/-- The option that was written, if it may stand here. -/
def allowed (r : Reading) (o : Option Opt) : Except Stop Opt :=
  match o with
  | some o => if o.standsAt (r.command?.map Prod.fst) then .ok o else .error .misuse
  | none => .error .misuse

/-- Reads an argument that is no option: the command's name first, then what the command is about. -/
def other (r : Reading) (arg : String) : Except Stop Reading :=
  match r.command? with
  | some _ => r.modify fun g => .ok { g with others := g.others ++ [arg] }
  | none =>
    if r.plain then .error .misuse
    else if arg = "help" then .ok { r with asking? := some .program }
    else
      match Verb.ofName? arg with
      | some verb => .ok { r with command? := some (verb, .none) }
      | none => .error .misuse

/-- Reads an argument after the command `help`: the name of what help is asked about, and no option. -/
def name (r : Reading) (subject : Subject) (arg : String) : Except Stop Reading :=
  match subject.narrow? arg with
  | some subject => .ok { r with asking? := some subject }
  | none => .error .misuse

/-- Reads a long option with the value that stands after an equals sign, if there is one. -/
def long (r : Reading) (name : String) (value? : Option String) : Except Stop Reading := do
  match ← r.allowed (longOption? name), value? with
  | .flag f, none => r.modify (·.addFlag f)
  | .help brief, none => throw (.help ⟨r.subject, brief⟩)
  | .version, none => throw .version
  | .key k, some v => r.modify (·.addValue k v)
  | .key k, none => return { r with waiting? := some k }
  | _, _ => throw .misuse

/-- Reads short options that stand together. The rest after one that has a value is this value. -/
def short (r : Reading) : List Char → Except Stop Reading
  | [] => .ok r
  | c :: rest => do
    match ← r.allowed (shortOption? c) with
    | .flag f => short (← r.modify (·.addFlag f)) rest
    | .help brief => throw (.help ⟨r.subject, brief⟩)
    | .version => throw .version
    | .key k =>
      match rest with
      | [] => return { r with waiting? := some k }
      | '=' :: value => r.modify (·.addValue k (String.ofList value))
      | value => r.modify (·.addValue k (String.ofList value))

/-- Whether an argument is written like an option. -/
def looksLikeOption (arg : String) : Bool :=
  match arg.toList with
  | '-' :: _ :: _ => true
  | _ => false

/-- Reads one argument. -/
def step (r : Reading) (arg : String) : Except Stop Reading :=
  match r.asking?, r.waiting? with
  | some subject, _ => r.name subject arg
  | none, some k =>
    if looksLikeOption arg then .error .misuse
    else { r with waiting? := none }.modify (·.addValue k arg)
  | none, none =>
    if r.plain then r.other arg
    else
      match arg.toList with
      | ['-', '-'] => .ok { r with plain := true }
      | '-' :: '-' :: rest =>
        let name := String.ofList (rest.takeWhile (· ≠ '='))
        match rest.dropWhile (· ≠ '=') with
        | [] => r.long name none
        | _ :: value => r.long name (some (String.ofList value))
      | '-' :: c :: rest => r.short (c :: rest)
      | _ => r.other arg

/-- What a command asks for. -/
def request (verb : Verb) (given : Given) : Except Stop Request :=
  let queryString? := given.values.lookup .queryString
  match verb, given.others, given.values.lookup .attributes with
  | .query, data :: entity :: tokens, _ => .ok (.query data entity tokens queryString?)
  | .view, [data, entity, id], _ =>
    match idOfText? id with
    | some id => .ok (.view data entity id)
    | none => .error .misuse
  | .explain, tokens, _ => .ok (.explain tokens queryString?)
  | .operators, [], _ => .ok .operators
  | .create, [data, entity], some attributes => .ok (.create data entity attributes)
  | .update, [data, entity, id], some attributes =>
    match idOfText? id with
    | some id => .ok (.update data entity id attributes)
    | none => .error .misuse
  | .delete, data :: entity :: tokens, _ =>
    let all : Bool := .all ∈ given.flags
    match given.values.lookup .id with
    | none => .ok (.deleteWhere data entity tokens queryString? all)
    | some id =>
      match idOfText? id, tokens, queryString?, all with
      | some id, [], none, false => .ok (.delete data entity id)
      | _, _, _, _ => .error .misuse
  | _, _, _ => .error .misuse

end Reading

/-- The data file of a request. -/
def Request.data? : Request → Option String
  | .query data .. | .view data .. | .create data .. | .update data .. | .delete data ..
  | .deleteWhere data .. => some data
  | .explain .. | .operators => none

namespace Reading

/-- Whether a path of settings from outside can stand where the options of one side give none. An
empty path cannot. -/
def admits (settings? : Option String) (given : Given) : Bool :=
  (given.values.lookup .settings).isSome || settings? != some ""

/-- The command line that was read. `settings?` is the path of the settings where no option gives
one. -/
def finish (settings? : Option String) (r : Reading) : Except Stop CommandLine := do
  match r.asking?, r.waiting?, r.command? with
  | some subject, _, _ => throw (.help ⟨subject, false⟩)
  | none, none, some (verb, given) =>
    let request ← request verb given
    let value? (k : Key) := (given.values.lookup k).or (r.before.values.lookup k)
    let has (f : Flag) : Bool := f ∈ given.flags ∨ f ∈ r.before.flags
    if request.data? = some "" ∨ ¬(admits settings? r.before ∧ admits settings? given) then
      throw .misuse
    else
      return { settings? := (value? .settings).or settings?
               format := ((value? .format).bind format?).getD .text
               output? := value? .output
               strict := has .strict
               color := ((value? .color).bind color?).getD .auto
               quiet := has .quiet
               request := request }
  | _, _, _ => throw .misuse

end Reading

/-- Reads the arguments of a command line. -/
def CommandLine.read (settings? : Option String) (args : List String) : Except Stop CommandLine :=
  (args.foldlM Reading.step Reading.start).bind (Reading.finish settings?)

end RecordFilter.Command
