import RecordFilter.Filter.Pattern
import RecordFilter.Query.Plan
import RecordFilter.Text.Pieces

/-!
# Operators and filters

An operator is one syntax of filter expressions: it extracts field and operands of an expression, and it has
the constraint that they stand for. A filter is an expression that an operator recognized.

* `FilterSyntax` is what filters and registries need of operators, however these recognize expressions.
* `Operator` is an operator that goes by a pattern: `Operator.extract?` reads the groups of its match.
* `Filter.constraint?` is the constraint that a filter adds to a plan.
* `Operand.text` writes operands the way expressions have them.
-/

namespace RecordFilter

/-- The operands of a filter. -/
inductive Operand
  | scalar (value : String)
  | range (low high : String)
  | list (values : List String)
deriving DecidableEq, Repr

namespace Operand

/-- The operands as an expression has them. -/
def text : Operand → String
  | scalar value => value
  | range low high => "[" ++ low ++ ";" ++ high ++ "]"
  | list values => "\x7b" ++ joinWith ";" values ++ "\x7d"

end Operand

/-- Operators, each of which is one syntax of filter expressions. -/
class FilterSyntax (ω : Type) where
  name : ω → String
  /-- Operators of lower levels are tried first. -/
  level : ω → Nat
  /-- The field and the operands of an expression, if it is in this syntax. -/
  extract? : ω → String → Option (String × Operand)
  /-- The constraint of a filter with this field and these operands, if it adds any. -/
  constraint? : ω → String → Operand → Option Constraint

/-! ## Operators that go by patterns -/

/-- How the operands stand in the groups of a pattern. -/
inductive OperandShape
  /-- Group 2, empty if it took no part. -/
  | scalar
  /-- Groups 2 and 3. -/
  | pair
  /-- Group 2, cut at every semicolon. -/
  | list
deriving DecidableEq, Repr

/-- The kinds of constraints that operators stand for. -/
inductive ConstraintKind
  | compare (comparison : Comparison)
  | isIn
  | notIn
  | between
  | notBetween
  | like
deriving DecidableEq, Repr

/-- A syntax of filter expressions that a pattern recognizes. Group 1 of the pattern is the field. -/
structure Operator where
  name : String
  /-- Operators of lower levels are tried first. -/
  level : Nat
  /-- The syntax as people read it. -/
  form : String
  pattern : Pattern
  shape : OperandShape
  kind : ConstraintKind
deriving DecidableEq, Repr

namespace Operator

/-- The operands in the groups of a match. -/
def operand? (shape : OperandShape) (groups : Pattern.Groups) : Option Operand :=
  match shape with
  | .scalar => some (.scalar ((groups.text? 2).getD ""))
  | .pair => (groups.text? 2).bind fun low => (groups.text? 3).map fun high => .range low high
  | .list => (groups.text? 2).map fun values => .list (pieces ';' values)

/-- The field and the operands of an expression in this syntax. The first match of the pattern has to
be the whole expression, whether the pattern says so or not. -/
def extract? (op : Operator) (token : String) : Option (String × Operand) :=
  (op.pattern.whole? token.toList).bind fun groups =>
    (groups.text? 1).bind fun field => (operand? op.shape groups).map fun value => (field, value)

/-- The constraint of a filter. There is none where the operands have not the shape that the kind of
constraint needs. -/
def constraint? (op : Operator) (field : String) (value : Operand) : Option Constraint :=
  match op.kind, value with
  | .compare comparison, .scalar value => some (.compare field comparison value)
  | .isIn, .list values => some (.isIn field values)
  | .notIn, .list values => some (.notIn field values)
  | .between, .range low high => some (.between field low high)
  | .notBetween, .range low high => some (.notBetween field low high)
  | .like, .scalar pattern => some (.like field pattern)
  | _, _ => none

instance : FilterSyntax Operator where
  name := Operator.name
  level := Operator.level
  extract? := Operator.extract?
  constraint? := Operator.constraint?

@[simp] theorem filterSyntax_name (op : Operator) : FilterSyntax.name op = op.name := rfl

@[simp] theorem filterSyntax_level (op : Operator) : FilterSyntax.level op = op.level := rfl

@[simp] theorem filterSyntax_extract? (op : Operator) (token : String) :
    FilterSyntax.extract? op token = op.extract? token := rfl

@[simp] theorem filterSyntax_constraint? (op : Operator) (field : String) (value : Operand) :
    FilterSyntax.constraint? op field value = op.constraint? field value := rfl

end Operator

/-! ## Filters -/

/-- An expression that an operator recognized. -/
structure Filter (ω : Type := Operator) where
  field : String
  value : Operand
  operator : ω
deriving Repr

section

variable {ω : Type} [FilterSyntax ω]

/-- Filters are equal when they have the same field and operands and operators of one name and
level. -/
instance : BEq (Filter ω) where
  beq a b := a.field = b.field && a.value = b.value &&
    FilterSyntax.name a.operator = FilterSyntax.name b.operator &&
    FilterSyntax.level a.operator = FilterSyntax.level b.operator

/-- The constraint of a filter, if it adds any. -/
def Filter.constraint? (f : Filter ω) : Option Constraint :=
  FilterSyntax.constraint? f.operator f.field f.value

/-- The plan of the constraints of filters, in their order. -/
def QueryPlan.ofFilters (filters : List (Filter ω)) : QueryPlan :=
  ⟨filters.filterMap Filter.constraint?⟩

end

end RecordFilter
