import RecordFilter.Json.Json5
import RecordFilter.Json.Printer
import RecordFilter.Store.Basic

/-!
# Data files

A data file holds one JSON5 object that maps entity names to arrays of objects. It is written as
indented JSON with a line end.
-/

namespace RecordFilter.Collections

/-- The collections of one entity after another, in the order of the names. -/
def ofFields : List (String × Json) → Except StoreError Collections
  | [] => .ok []
  | (entity, .array records) :: rest =>
    if records.all Json.isObject then (ofFields rest).map ((entity, records) :: ·)
    else .error (.notACollection entity)
  | (entity, _) :: _ => .error (.notACollection entity)

/-- The collections of a document. -/
def ofDocument : Json → Except StoreError Collections
  | .object fields => ofFields fields
  | _ => .error .notADocument

/-- The document of collections. -/
def toDocument (c : Collections) : Json :=
  .object (c.map fun (entity, records) => (entity, .array records))

/-- The text of a data file. -/
def fileText (c : Collections) : String :=
  c.toDocument.pretty ++ "\n"

/-- The collections of a data file, by its path and what it holds. -/
def load (path : String) (content : Except FileFault ByteArray) : Except StoreError Collections :=
  match RecordFilter.fileText content with
  | .error fault => .error (.read path fault)
  | .ok text =>
    match Json.Dialect.json5.read? text with
    | none => .error (.parse path)
    | some document => ofDocument document

end RecordFilter.Collections
