import RecordFilter.Json.Basic
import RecordFilter.Text.Pieces

/-!
# Fields of a record

A field is named by an attribute or, with points, by a path into nested objects. An attribute whose
own name has the points wins over the path. A null counts as a missing field.
-/

namespace RecordFilter

/-- The value, unless it is null. -/
def Json.notNull? : Json → Option Json
  | .null => none
  | value => some value

/-- The value at the end of a path of attribute names. -/
def Json.follow? (path : List String) (value : Json) : Option Json :=
  path.foldlM Json.field? value

/-- The value of a field of a record. -/
def lookup? (record : Json) (field : String) : Option Json :=
  record.fields?.bind fun fields =>
    match fields.get? field with
    | some value => value.notNull?
    | none => (record.follow? (pieces '.' field)).bind Json.notNull?

end RecordFilter
