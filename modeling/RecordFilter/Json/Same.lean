import RecordFilter.Json.Basic

/-!
# Values that count as the same

Two values are the same when they are equal but for the signs of zeros: `0.0` is `-0.0`, and `0` is
neither, being an integer.
-/

namespace RecordFilter

/-- The number with a zero that has no sign. -/
def Number.plainZero : Number → Number
  | .float x => if x.units = 0 then .float { x with negative := false } else .float x
  | n => n

namespace Json

mutual

/-- The value with zeros that have no sign. -/
def plainZeros : Json → Json
  | .number n => .number n.plainZero
  | .array items => .array (plainItems items)
  | .object fields => .object (plainFields fields)
  | value => value

/-- The items with zeros that have no sign. -/
def plainItems : List Json → List Json
  | [] => []
  | v :: rest => plainZeros v :: plainItems rest

/-- The fields with zeros that have no sign. -/
def plainFields : List (String × Json) → List (String × Json)
  | [] => []
  | (k, v) :: rest => (k, plainZeros v) :: plainFields rest

end

/-- Whether two values are equal but for the signs of zeros. -/
def sameAs (a b : Json) : Bool :=
  a.plainZeros = b.plainZeros

@[simp] theorem sameAs_refl (a : Json) : a.sameAs a = true := by
  simp [sameAs]

end Json

end RecordFilter
