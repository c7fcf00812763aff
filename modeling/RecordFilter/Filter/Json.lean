import RecordFilter.Filter.Resolution
import RecordFilter.Json.Basic

/-!
# Filters as JSON values
-/

namespace RecordFilter

/-- Texts as an array. -/
def Json.ofTexts (texts : List String) : Json :=
  .array (texts.map .string)

/-- One value as a text, a range and a list as arrays. -/
def Operand.toJson : Operand → Json
  | scalar value => .string value
  | range low high => .ofTexts [low, high]
  | list values => .ofTexts values

section

variable {ω : Type} [FilterSyntax ω]

/-- A filter as an object. -/
def Filter.toJson (f : Filter ω) : Json :=
  .ofFields [("field", .string f.field), ("operator", .string (FilterSyntax.name f.operator)),
    ("priority", .ofNat (FilterSyntax.level f.operator)), ("value", f.value.toJson)]

/-- What became of an expression as an object. -/
def Resolution.toJson (r : Resolution ω) : Json :=
  .ofFields [("token", .string r.token), ("filter", (r.filter.map Filter.toJson).getD .null)]

end

/-- An operator as an object. -/
def Operator.toJson (op : Operator) : Json :=
  .ofFields [("level", .ofNat op.level), ("name", .string op.name), ("syntax", .string op.form)]

end RecordFilter
