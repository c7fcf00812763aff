import RecordFilter.Filter.Resolution
import RecordFilter.Text.Quoted

/-!
# Filters and registries spelled out

Every part of a value is shown, texts in quotes.
-/

namespace RecordFilter

/-- The operands with their shape. -/
def Operand.inspect : Operand → String
  | scalar value => "Scalar(" ++ Quoted.text value ++ ")"
  | range low high => "Range(" ++ Quoted.text low ++ ", " ++ Quoted.text high ++ ")"
  | list values => "List(" ++ Quoted.list values ++ ")"

section

variable {ω : Type} [FilterSyntax ω]

/-- The filter with the name of its operator. -/
def Filter.inspect (f : Filter ω) : String :=
  "CompiledFilter \x7b field: " ++ Quoted.text f.field ++ ", value: " ++ f.value.inspect ++
    ", operator: " ++ Quoted.text (FilterSyntax.name f.operator) ++ " \x7d"

/-- Levels and names of the operators in the order in which they are tried. -/
def Registry.inspect (r : Registry ω) : String :=
  let entry (op : ω) :=
    "(" ++ toString (FilterSyntax.level op) ++ ", " ++ Quoted.text (FilterSyntax.name op) ++ ")"
  "[" ++ ", ".intercalate (r.operators.map entry) ++ "]"

end

end RecordFilter
