import RecordFilter.Json.Basic

/-!
# Records and their ids

A record is addressed by the number that its attribute `id` holds, as an integer, as a float without
a fraction, or as digits in a text.
-/

namespace RecordFilter

/-- The greatest id. -/
def greatestId : UInt64 := .ofNat (UInt64.size - 1)

/-- The id next to a natural number: the greatest one for all that are past it. -/
def idOfNat (n : Nat) : UInt64 :=
  if n < UInt64.size then .ofNat n else greatestId

/-- The id that a text of digits spells, with a plus sign or without. -/
def idOfText? (s : String) : Option UInt64 :=
  let digits :=
    match s.toList with
    | '+' :: rest => rest
    | rest => rest
  if digits ≠ [] ∧ digits.all isDecimalDigit ∧ natOfDigits digits < UInt64.size then
    some (.ofNat (natOfDigits digits))
  else none

/-- The id that a number stands for: none if it is negative or has a fraction. -/
def idOfNumber? : Number → Option UInt64
  | .integer n => if 0 ≤ n.val then some (idOfNat n.val.toNat) else none
  | .float x =>
    match x.toInt? with
    | some n => if 0 ≤ n then some (idOfNat n.toNat) else none
    | none => none

/-- The id of a record. -/
def recordId? (record : Json) : Option UInt64 :=
  match record.field? "id" with
  | some (.number n) => idOfNumber? n
  | some (.string s) => idOfText? s
  | _ => none

/-- An id as a JSON value. -/
def Json.ofId (id : UInt64) : Json :=
  .number (.ofUInt64 id)

end RecordFilter
