import RecordFilter.Filter.Json
import RecordFilter.Json.Printer
import RecordFilter.Query.Sql
import RecordFilter.Report.Style
import RecordFilter.Report.Table
import RecordFilter.Text.Quoted

/-!
# Reports

What the program tells of records, of filter expressions and of operators, as text for people or as
JSON.

* `recordColumns` are the attributes that a table of records shows.
* `Report.records`, `record`, `explanation` and `operators` are the four reports.
-/

namespace RecordFilter

/-- The two forms of a report. -/
inductive ReportFormat
  | text
  | json
deriving DecidableEq, Repr

/-- The texts without repetitions, in the order in which they first come. -/
def distinct (texts : List String) : List String :=
  texts.foldl (fun seen t => if t ∈ seen then seen else seen ++ [t]) []

/-- The attribute names of a value; only objects have any. -/
def attributeNames (record : Json) : List String :=
  (record.fields?.map Keyed.keys).getD []

/-- The attributes of records in the order in which they first come, but `id` before all others. -/
def recordColumns (records : List Json) : List String :=
  let names := distinct (records.flatMap attributeNames)
  if "id" ∈ names then "id" :: names.erase "id" else names

/-- The text of an attribute in a table: nothing for one that is missing or null. -/
def cellText : Option Json → String
  | none | some .null => ""
  | some (.string s) => s
  | some value => value.compact

namespace Report

/-- A line. -/
def line (text : String) : String := text ++ "\n"

/-- Records that were selected by a plan, as text. -/
def recordsText (colors : Bool) (entity : String) (records : List Json) (plan : QueryPlan) : String :=
  let plural := if records.length = 1 then "" else "s"
  let heading := line (Style.paint colors .bold entity ++ ": " ++ toString records.length ++
    " record" ++ plural ++ " matching " ++ plan.predicate)
  if records.isEmpty then heading
  else
    let columns := recordColumns records
    let row (record : Json) := columns.map fun column => cellText (record.field? column)
    heading ++ line (Table.text ⟨columns, records.map row⟩)

/-- Records that were selected by a plan, as JSON. -/
def recordsJson (entity : String) (records : List Json) (plan : QueryPlan) : String :=
  Json.pretty (.ofFields [("entity", .string entity), ("predicate", .string plan.predicate),
    ("count", .ofNat records.length), ("records", .array records)])

/-- One record under a heading, as text. -/
def recordText (colors : Bool) (heading : String) (record : Json) : String :=
  let rows := (record.fields?.getD []).map fun (key, value) => [key, cellText (some value)]
  line (Style.paint colors .bold heading) ++ line (Table.text ⟨["Attribute", "Value"], rows⟩)

/-- One record, as JSON. -/
def recordJson (record : Json) : String :=
  record.pretty

/-- What became of one expression. -/
def resolutionText (colors : Bool) (r : Resolution) : String :=
  line ("  " ++ r.token ++ "  -> " ++
    match r.filter with
    | some f =>
      Style.paint colors .green f.operator.name ++ " (level " ++ toString f.operator.level ++
        ")  field=" ++ f.field ++ "  value=" ++ f.value.text
    | none => Style.paint colors .yellow "dropped (no operator matched)")

/-- What became of expressions, and their plan, as text. -/
def explanationText (colors : Bool) (resolutions : List Resolution) (plan : QueryPlan) : String :=
  let sql := plan.toSql
  line (Style.paint colors .bold "Tokens") ++
    (if resolutions.isEmpty then line "  (none)"
      else String.join (resolutions.map (resolutionText colors))) ++
    line ("\n" ++ Style.paint colors .bold "Predicate:" ++ " " ++ plan.predicate) ++
    (if sql.clause = "" then ""
      else line (Style.paint colors .bold "SQL:" ++ " " ++ sql.clause) ++
        line (Style.paint colors .bold "Params:" ++ " " ++ Quoted.list sql.params))

/-- What became of expressions, and their plan, as JSON. -/
def explanationJson (resolutions : List Resolution) (plan : QueryPlan) : String :=
  let sql := plan.toSql
  Json.pretty (.ofFields [("tokens", .array (resolutions.map Resolution.toJson)),
    ("predicate", .string plan.predicate),
    ("sql", .ofFields [("clause", .string sql.clause), ("params", .ofTexts sql.params)])])

/-- The operators in the order in which they are tried, as text. -/
def operatorsText (registry : Registry) : String :=
  let row (op : Operator) := [toString op.level, op.name, op.form]
  line (Table.text ⟨["Level", "Operator", "Syntax"], registry.operators.map row⟩)

/-- The operators in the order in which they are tried, as JSON. -/
def operatorsJson (registry : Registry) : String :=
  Json.pretty (.ofFields [("operators", .array (registry.operators.map Operator.toJson))])

/-- Records that were selected by a plan. -/
def records (format : ReportFormat) (colors : Bool) (entity : String) (records : List Json)
    (plan : QueryPlan) : String :=
  match format with
  | .text => recordsText colors entity records plan
  | .json => recordsJson entity records plan

/-- One record; the heading is for people only. -/
def record (format : ReportFormat) (colors : Bool) (heading : String) (record : Json) : String :=
  match format with
  | .text => recordText colors heading record
  | .json => recordJson record

/-- What became of expressions, and their plan. -/
def explanation (format : ReportFormat) (colors : Bool) (resolutions : List Resolution)
    (plan : QueryPlan) : String :=
  match format with
  | .text => explanationText colors resolutions plan
  | .json => explanationJson resolutions plan

/-- The operators in the order in which they are tried. -/
def operators (format : ReportFormat) (registry : Registry) : String :=
  match format with
  | .text => operatorsText registry
  | .json => operatorsJson registry

end Report

end RecordFilter
