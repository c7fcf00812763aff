import RecordFilter.Json.Lexeme

/-!
# Reading JSON values

A `Dialect` says what quoted strings and bare runs stand for; `Dialect.read?` reads a whole text.
Values are assembled by one pass over the lexemes with a stack of the open arrays and objects, so
that nesting needs no recursion.

* `Dialect.step` reads one lexeme.
* Of the fields of one name in an object the last one stays.
-/

namespace RecordFilter.Json

/-- A way of writing JSON values. -/
structure Dialect where
  lexing : Lexing
  /-- The characters that the inside of a quoted string stands for. -/
  text? : List Char → Option (List Char)
  /-- The value that a bare run stands for. -/
  value? : List Char → Option Json
  /-- The field name that a bare run stands for. -/
  name? : List Char → Option (List Char)
  /-- Whether a comma may stand after the last item or field. -/
  trailingCommas : Bool
  /-- How many arrays and objects may be open at once. -/
  depth? : Option Nat

namespace Dialect

/-- An array or object that is open around the value under way. -/
inductive Frame
  /-- The items before the value, the last one first. -/
  | array (items : List Json)
  /-- The fields before the value, and the name of the field that the value is for. -/
  | object (fields : Keyed Json) (name : String)

/-- What may come next. -/
inductive Focus
  | value
  /-- An item, or the end of the array where `closable`. -/
  | item (items : List Json) (closable : Bool)
  /-- A field name, or the end of the object where `closable`. -/
  | name (fields : Keyed Json) (closable : Bool)
  /-- The colon after a field name. -/
  | colon (fields : Keyed Json) (name : String)
  /-- What follows a value. -/
  | done (value : Json)

/-- What may come next, and the open arrays and objects, the innermost first. -/
structure State where
  focus : Focus
  stack : List Frame

/-- Whether one more array or object may open inside these. -/
def roomFor (d : Dialect) (stack : List Frame) : Bool :=
  match d.depth? with
  | some limit => stack.length < limit
  | none => true

/-- Reads the first lexeme of a value. -/
def openValue (d : Dialect) (stack : List Frame) : Lexeme → Option State
  | .mark '[' => if d.roomFor stack then some ⟨.item [] true, stack⟩ else none
  | .mark '{' => if d.roomFor stack then some ⟨.name [] true, stack⟩ else none
  | .mark _ => none
  | .quoted body => (d.text? body).map fun s => ⟨.done (.string (String.ofList s)), stack⟩
  | .bare run => (d.value? run).map fun v => ⟨.done v, stack⟩

/-- Reads what follows a value. -/
def afterValue (d : Dialect) (v : Json) (stack : List Frame) (c : Char) : Option State :=
  match stack with
  | [] => none
  | .array items :: outer =>
    if c = ',' then some ⟨.item (v :: items) d.trailingCommas, outer⟩
    else if c = ']' then some ⟨.done (.array (v :: items).reverse), outer⟩
    else none
  | .object fields name :: outer =>
    if c = ',' then some ⟨.name (fields.put name v) d.trailingCommas, outer⟩
    else if c = '}' then some ⟨.done (.object (fields.put name v)), outer⟩
    else none

/-- Reads one lexeme. -/
def step (d : Dialect) (s : State) (x : Lexeme) : Option State :=
  match s.focus with
  | .value => d.openValue s.stack x
  | .item items closable =>
    if x = .mark ']' then
      if closable then some ⟨.done (.array items.reverse), s.stack⟩ else none
    else d.openValue (.array items :: s.stack) x
  | .name fields closable =>
    match x with
    | .mark c => if c = '}' ∧ closable then some ⟨.done (.object fields), s.stack⟩ else none
    | .quoted body => (d.text? body).map fun n => ⟨.colon fields (String.ofList n), s.stack⟩
    | .bare run => (d.name? run).map fun n => ⟨.colon fields (String.ofList n), s.stack⟩
  | .colon fields name =>
    if x = .mark ':' then some ⟨.value, .object fields name :: s.stack⟩ else none
  | .done v =>
    match x with
    | .mark c => d.afterValue v s.stack c
    | _ => none

/-- The value of a text that ends here. -/
def finish? : State → Option Json
  | ⟨.done v, []⟩ => some v
  | _ => none

/-- The value that lexemes stand for. -/
def assemble? (d : Dialect) (lexemes : List Lexeme) : Option Json :=
  (lexemes.foldlM d.step ⟨.value, []⟩).bind finish?

/-- The value that a text stands for. -/
def read? (d : Dialect) (text : String) : Option Json :=
  (Lexeme.scan? d.lexing text.toList).bind d.assemble?

end Dialect

end RecordFilter.Json
