import RecordFilter.Filter.Standard

/-!
# Registries

A registry holds operators in the order in which they are tried: by level, and within a level in the
order in which they were registered. The first operator that extracts an expression resolves it. The
operators may be of any type that has a `FilterSyntax`; where none is named, they go by patterns.

* `Registry.resolve?` resolves one expression.
* `Registry.compile` drops the expressions that no operator recognizes, `Registry.compileUnder` may
  refuse them, `Registry.explain` tells of each what became of it.
-/

namespace RecordFilter

/-- Operators in the order in which they are tried. -/
structure Registry (ω : Type := Operator) where
  operators : List ω
deriving Repr

/-- What to do with an expression that no operator recognizes. -/
inductive UnrecognizedPolicy
  | ignore
  | reject
deriving DecidableEq, Repr

/-- An expression was refused because no operator recognizes it. -/
structure UnrecognizedToken where
  token : String
deriving DecidableEq, Repr

/-- The name by which the program is called. -/
def programName : String := "rest-filter"

/-- The text of the error. -/
def UnrecognizedToken.message (e : UnrecognizedToken) : String :=
  "Unrecognized filter expression: '" ++ e.token ++ "'. Run `" ++ programName ++
    " operators` to list the supported syntaxes"

/-- What became of an expression. -/
structure Resolution (ω : Type := Operator) where
  token : String
  filter : Option (Filter ω)
deriving Repr

namespace Registry

variable {ω : Type} [FilterSyntax ω]

/-- Puts an operator after those of its level and of lower ones. -/
def insert (op : ω) : List ω → List ω
  | [] => [op]
  | other :: rest =>
    if FilterSyntax.level op < FilterSyntax.level other then op :: other :: rest
    else other :: insert op rest

/-- The registry of operators in the order in which they are registered. -/
def ofList (operators : List ω) : Registry ω :=
  ⟨operators.foldl (fun sorted op => insert op sorted) []⟩

/-- The registry of the standard operators. -/
def standard : Registry := ofList Operator.standard

/-- The first operator of a name. -/
def find? (r : Registry ω) (name : String) : Option ω :=
  r.operators.find? fun op => FilterSyntax.name op = name

/-- The filter that an expression stands for. -/
def resolve? (r : Registry ω) (token : String) : Option (Filter ω) :=
  r.operators.findSome? fun op =>
    (FilterSyntax.extract? op token).map fun (field, value) => ⟨field, value, op⟩

/-- The filters of the expressions that are recognized. -/
def compile (r : Registry ω) (tokens : List String) : List (Filter ω) :=
  tokens.filterMap r.resolve?

/-- The filters of expressions all of which have to be recognized; the first that is not is named. -/
def compileAll (r : Registry ω) : List String → Except UnrecognizedToken (List (Filter ω))
  | [] => .ok []
  | token :: rest =>
    match r.resolve? token with
    | none => .error ⟨token⟩
    | some filter => (compileAll r rest).map (filter :: ·)

/-- The filters of expressions under a policy. -/
def compileUnder (r : Registry ω) (policy : UnrecognizedPolicy) (tokens : List String) :
    Except UnrecognizedToken (List (Filter ω)) :=
  match policy with
  | .ignore => .ok (r.compile tokens)
  | .reject => r.compileAll tokens

/-- What becomes of each expression. -/
def explain (r : Registry ω) (tokens : List String) : List (Resolution ω) :=
  tokens.map fun token => ⟨token, r.resolve? token⟩

/-- The plan of expressions, those dropped that no operator recognizes. -/
def plan (r : Registry ω) (tokens : List String) : QueryPlan :=
  .ofFilters (r.compile tokens)

end Registry

end RecordFilter
