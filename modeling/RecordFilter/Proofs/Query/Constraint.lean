import Mathlib.Order.Defs.LinearOrder
import RecordFilter.Proofs.Query.Operand
import RecordFilter.Query.Constraint

/-!
# How constraints hang together

The constraints on a field are all told by the six comparisons of it, and these by the order of its value
against the operand.

* `HasScalar` and `HasNumeric` say which fields compare at all, and which compare as numbers.
* `Constraint.exists_order` tells all comparisons with an operand by one order.
* `Constraint.isIn_admits_iff` and `Constraint.notIn_admits_iff` tell lists by equalities.
* `Constraint.between_admits_iff` and `Constraint.notBetween_admits_iff` tell ranges by inequalities, for
  bounds of any kind.
* `Constraint.kinds_agree` puts these together, and `Constraint.ranges_by_bounds` says what comes of bounds
  that are no numbers.
-/

namespace RecordFilter

/-- The record has a string, a number or a truth value in the field. -/
def HasScalar (record : Json) (field : String) : Prop :=
  ∃ value, lookup? record field = some value ∧ value.IsScalar

/-- The record has a number or a plain decimal in the field. -/
def HasNumeric (record : Json) (field : String) : Prop :=
  ∃ value, lookup? record field = some value ∧ value.IsNumeric

theorem HasNumeric.hasScalar {record : Json} {field : String} (h : HasNumeric record field) :
    HasScalar record field := by
  obtain ⟨value, hvalue, hnumeric⟩ := h
  exact ⟨value, hvalue, hnumeric.isScalar⟩

/-! ## Orders -/

namespace Comparison

/-- Whatever the order, one of these three comparisons holds and the two others do not. -/
theorem existsUnique_holds (o : Ordering) :
    ∃! comparison, comparison ∈ [lt, eq, gt] ∧ comparison.holds o = true := by
  have hunique : ∀ c ∈ [lt, eq, gt], ∀ c' ∈ [lt, eq, gt],
      c.holds o = true → c'.holds o = true → c' = c := by
    cases o <;> decide
  obtain ⟨c, hc, hholds⟩ : ∃ c ∈ [lt, eq, gt], c.holds o = true := by
    cases o <;> decide
  exact ⟨c, ⟨hc, hholds⟩, fun c' h => hunique c hc c' h.1 hholds h.2⟩

theorem holds_eq_iff {o : Ordering} : eq.holds o = true ↔ o = .eq :=
  decide_eq_true_iff

theorem holds_ne_iff {o : Ordering} : ne.holds o = true ↔ ¬eq.holds o = true := by
  cases o <;> decide

theorem holds_le_iff {o : Ordering} : le.holds o = true ↔ ¬gt.holds o = true := by
  cases o <;> decide

theorem holds_ge_iff {o : Ordering} : ge.holds o = true ↔ ¬lt.holds o = true := by
  cases o <;> decide

theorem holds_lt_compare {a b : Int} : lt.holds (compare a b) = true ↔ a < b :=
  decide_eq_true_iff.trans Int.compare_eq_lt

theorem holds_gt_compare {a b : Int} : gt.holds (compare a b) = true ↔ b < a :=
  decide_eq_true_iff.trans Int.compare_eq_gt

theorem holds_le_compare {a b : Int} : le.holds (compare a b) = true ↔ a ≤ b := by
  rw [holds_le_iff, holds_gt_compare, Int.not_lt]

theorem holds_ge_compare {a b : Int} : ge.holds (compare a b) = true ↔ b ≤ a := by
  rw [holds_ge_iff, holds_lt_compare, Int.not_lt]

end Comparison

namespace Constraint

variable {record value : Json} {field operand low high : String}

/-! ## Single values -/

theorem admits_iff {c : Constraint} :
    c.admits record = true ↔ ∃ value, lookup? record c.field = some value ∧ c.accepts value = true :=
  Option.any_eq_true _ _

theorem accepts_compare_iff {comparison : Comparison} :
    (Constraint.compare field comparison operand).accepts value = true ↔
      ∃ o, compareOperand? value operand = some o ∧ comparison.holds o = true :=
  Option.any_eq_true _ _

theorem accepts_isIn_iff {values : List String} :
    (isIn field values).accepts value = true ↔
      ∃ v ∈ values, compareOperand? value v = some .eq := by
  simp only [accepts, containsOperand, List.any_eq_true, decide_eq_true_eq]

theorem accepts_notIn_iff {values : List String} :
    (notIn field values).accepts value = true ↔
      value.IsScalar ∧ ¬(isIn field values).accepts value = true := by
  simp only [accepts, Bool.and_eq_true, isSome_scalarText?_iff, Bool.not_eq_true',
    Bool.not_eq_true]

theorem accepts_between_iff :
    (between field low high).accepts value = true ↔ within? value low high = some true := by
  rw [accepts, Option.any_eq_true]
  simp

theorem accepts_notBetween_iff :
    (notBetween field low high).accepts value = true ↔ within? value low high = some false := by
  rw [accepts, Option.any_eq_true]
  simp

/-- A constraint accepts nothing but scalars. -/
theorem isScalar_of_accepts {c : Constraint} (h : c.accepts value = true) : value.IsScalar := by
  -- a range looks at numbers only, which are scalars
  have hrange {low high : String} {inside : Bool} (hr : within? value low high = some inside) :
      value.IsScalar := by
    obtain ⟨n, -, hn, -⟩ := within?_eq_some_iff.mp hr
    exact (isSome_numeric?_iff.mp (Option.isSome_of_eq_some hn)).isScalar
  cases c with
  | compare _ comparison operand =>
    obtain ⟨o, ho, -⟩ := accepts_compare_iff.mp h
    exact isSome_compareOperand?_iff.mp (Option.isSome_of_eq_some ho)
  | isIn _ values =>
    obtain ⟨operand, -, ho⟩ := accepts_isIn_iff.mp h
    exact isSome_compareOperand?_iff.mp (Option.isSome_of_eq_some ho)
  | notIn _ values => exact (accepts_notIn_iff.mp h).1
  | between _ low high => exact hrange (accepts_between_iff.mp h)
  | notBetween _ low high => exact hrange (accepts_notBetween_iff.mp h)
  | like _ pattern => exact isSome_scalarText?_iff.mp (Option.isSome_of_any h)

/-- A record without a scalar in the field of a constraint fails it. -/
theorem hasScalar_of_admits {c : Constraint} (h : c.admits record = true) :
    HasScalar record c.field := by
  obtain ⟨value, hvalue, haccepts⟩ := admits_iff.mp h
  exact ⟨value, hvalue, isScalar_of_accepts haccepts⟩

/-! ## Comparisons -/

theorem admits_compare {o : Ordering} (hvalue : lookup? record field = some value)
    (ho : compareOperand? value operand = some o) (comparison : Comparison) :
    (Constraint.compare field comparison operand).admits record = comparison.holds o := by
  rw [admits, Constraint.field, hvalue, Option.any_some, accepts, ho, Option.any_some]

/-- All comparisons of a scalar with one operand are told by one order. -/
theorem exists_order (h : HasScalar record field) (operand : String) :
    ∃ o : Ordering, ∀ comparison,
      (Constraint.compare field comparison operand).admits record = comparison.holds o := by
  obtain ⟨value, hvalue, hscalar⟩ := h
  obtain ⟨o, ho⟩ := Option.isSome_iff_exists.mp (isSome_compareOperand?_iff.mpr hscalar)
  exact ⟨o, admits_compare hvalue ho⟩

/-! ## Lists -/

theorem isIn_admits_iff {values : List String} :
    (isIn field values).admits record = true ↔
      ∃ v ∈ values, (Constraint.compare field .eq v).admits record = true := by
  simp only [admits_iff, accepts_isIn_iff, accepts_compare_iff, Comparison.holds_eq_iff,
    Constraint.field]
  constructor
  · rintro ⟨value, hvalue, v, hv, heq⟩
    exact ⟨v, hv, value, hvalue, .eq, heq, rfl⟩
  · rintro ⟨v, hv, value, hvalue, o, heq, rfl⟩
    exact ⟨value, hvalue, v, hv, heq⟩

theorem notIn_admits_iff {values : List String} :
    (notIn field values).admits record = true ↔
      HasScalar record field ∧
        ∀ v ∈ values, (Constraint.compare field .ne v).admits record = true := by
  have hne (h : HasScalar record field) (v : String) :
      (Constraint.compare field .ne v).admits record = true ↔
        ¬(Constraint.compare field .eq v).admits record = true := by
    obtain ⟨o, ho⟩ := exists_order h v
    rw [ho, ho, Comparison.holds_ne_iff]
  -- a list is left out if it is not hit, and it is hit if one of its values is
  have hnotIn : (notIn field values).admits record = true ↔
      HasScalar record field ∧ ¬(isIn field values).admits record = true := by
    rw [admits_iff, admits_iff]
    simp only [accepts_notIn_iff, Constraint.field]
    constructor
    · rintro ⟨value, hvalue, hscalar, hout⟩
      refine ⟨⟨value, hvalue, hscalar⟩, ?_⟩
      rintro ⟨value', hvalue', hin⟩
      rw [Option.some.inj (hvalue.symm.trans hvalue')] at hout
      exact hout hin
    · rintro ⟨⟨value, hvalue, hscalar⟩, hout⟩
      exact ⟨value, hvalue, hscalar, fun hin => hout ⟨value, hvalue, hin⟩⟩
  rw [hnotIn, isIn_admits_iff]
  constructor
  · rintro ⟨hscalar, hout⟩
    exact ⟨hscalar, fun v hv => (hne hscalar v).mpr fun heq => hout ⟨v, hv, heq⟩⟩
  · rintro ⟨hscalar, hall⟩
    refine ⟨hscalar, ?_⟩
    rintro ⟨v, hv, heq⟩
    exact (hne hscalar v).mp (hall v hv) heq

/-! ## Ranges -/

theorem admits_compare_of_decimal {n m : Int} (hvalue : lookup? record field = some value)
    (hn : numeric? value = some n) (hm : decimal? operand = some m) (comparison : Comparison) :
    (Constraint.compare field comparison operand).admits record =
      comparison.holds (Ord.compare n m) :=
  admits_compare hvalue (compareOperand?_of_decimal hn hm) comparison

/-- A field is inside a range if it is a number, the bounds are numbers, and it keeps both. -/
theorem between_admits_iff :
    (between field low high).admits record = true ↔
      HasNumeric record field ∧ IsPlainDecimal low ∧ IsPlainDecimal high ∧
        (Constraint.compare field .ge low).admits record = true ∧
        (Constraint.compare field .le high).admits record = true := by
  rw [admits_iff]
  simp only [accepts_between_iff, within?_eq_some_iff, Constraint.field]
  constructor
  · rintro ⟨value, hvalue, n, least, hn, hleast, ⟨-, hfalse⟩ | ⟨greatest, hge, hgreatest, hle⟩⟩
    · cases hfalse
    · have hnumeric := isSome_numeric?_iff.mp (Option.isSome_of_eq_some hn)
      refine ⟨⟨value, hvalue, hnumeric⟩, isSome_decimal?_iff.mp (Option.isSome_of_eq_some hleast),
        isSome_decimal?_iff.mp (Option.isSome_of_eq_some hgreatest), ?_, ?_⟩
      · rwa [admits_compare_of_decimal hvalue hn hleast, Comparison.holds_ge_compare]
      · rw [admits_compare_of_decimal hvalue hn hgreatest, Comparison.holds_le_compare]
        exact of_decide_eq_true hle.symm
  · rintro ⟨⟨value, hvalue, hnumeric⟩, hlow, hhigh, hge, hle⟩
    obtain ⟨n, hn⟩ := exists_numeric?_of_isNumeric hnumeric
    obtain ⟨least, hleast⟩ := exists_decimal?_of_isPlainDecimal hlow
    obtain ⟨greatest, hgreatest⟩ := exists_decimal?_of_isPlainDecimal hhigh
    rw [admits_compare_of_decimal hvalue hn hleast, Comparison.holds_ge_compare] at hge
    rw [admits_compare_of_decimal hvalue hn hgreatest, Comparison.holds_le_compare] at hle
    exact ⟨value, hvalue, n, least, hn, hleast,
      Or.inr ⟨greatest, hge, hgreatest, (decide_eq_true hle).symm⟩⟩

/-- A field is outside a range if it is a number, the lower bound is one, and it is less than this bound or
greater than the upper one, which then has to be a number too. -/
theorem notBetween_admits_iff :
    (notBetween field low high).admits record = true ↔
      HasNumeric record field ∧ IsPlainDecimal low ∧
        ((Constraint.compare field .lt low).admits record = true ∨
          IsPlainDecimal high ∧ (Constraint.compare field .gt high).admits record = true) := by
  rw [admits_iff]
  simp only [accepts_notBetween_iff, within?_eq_some_iff, Constraint.field]
  constructor
  · rintro ⟨value, hvalue, n, least, hn, hleast, hrange⟩
    have hnumeric := isSome_numeric?_iff.mp (Option.isSome_of_eq_some hn)
    refine ⟨⟨value, hvalue, hnumeric⟩, isSome_decimal?_iff.mp (Option.isSome_of_eq_some hleast), ?_⟩
    rcases hrange with ⟨hlt, -⟩ | ⟨greatest, -, hgreatest, hgt⟩
    · left
      rwa [admits_compare_of_decimal hvalue hn hleast, Comparison.holds_lt_compare]
    · right
      refine ⟨isSome_decimal?_iff.mp (Option.isSome_of_eq_some hgreatest), ?_⟩
      rw [admits_compare_of_decimal hvalue hn hgreatest, Comparison.holds_gt_compare]
      exact Int.not_le.mp (of_decide_eq_false hgt.symm)
  · rintro ⟨⟨value, hvalue, hnumeric⟩, hlow, hrange⟩
    obtain ⟨n, hn⟩ := exists_numeric?_of_isNumeric hnumeric
    obtain ⟨least, hleast⟩ := exists_decimal?_of_isPlainDecimal hlow
    refine ⟨value, hvalue, n, least, hn, hleast, ?_⟩
    -- the upper bound is not looked at below the lower one
    by_cases hlt : n < least
    · exact Or.inl ⟨hlt, trivial⟩
    · rcases hrange with hless | ⟨hhigh, hgt⟩
      · rw [admits_compare_of_decimal hvalue hn hleast, Comparison.holds_lt_compare] at hless
        exact absurd hless hlt
      · obtain ⟨greatest, hgreatest⟩ := exists_decimal?_of_isPlainDecimal hhigh
        rw [admits_compare_of_decimal hvalue hn hgreatest, Comparison.holds_gt_compare] at hgt
        exact Or.inr ⟨greatest, Int.not_lt.mp hlt, hgreatest, (decide_eq_false (Int.not_le.mpr hgt)).symm⟩

/-! ## All kinds together -/

/-- The constraints on a field hang together. A scalar is less than an operand, equal to it or greater, and
exactly one of these; the other comparisons are their complements. Anything else fails every constraint. A
list is hit if one of its values is equal, and left out if all of them differ. A range of two numbers holds
the numbers that keep both bounds, and leaves out those that do not. -/
theorem kinds_agree (record : Json) (field : String) :
    (HasScalar record field → ∀ operand,
      (∃! comparison, comparison ∈ [.lt, .eq, .gt] ∧
        (Constraint.compare field comparison operand).admits record = true) ∧
      ((Constraint.compare field .ne operand).admits record = true ↔
        ¬(Constraint.compare field .eq operand).admits record = true) ∧
      ((Constraint.compare field .le operand).admits record = true ↔
        ¬(Constraint.compare field .gt operand).admits record = true) ∧
      ((Constraint.compare field .ge operand).admits record = true ↔
        ¬(Constraint.compare field .lt operand).admits record = true)) ∧
    (¬HasScalar record field → ∀ c : Constraint, c.field = field → c.admits record = false) ∧
    (∀ values,
      ((isIn field values).admits record = true ↔
        ∃ v ∈ values, (Constraint.compare field .eq v).admits record = true) ∧
      ((notIn field values).admits record = true ↔ HasScalar record field ∧
        ∀ v ∈ values, (Constraint.compare field .ne v).admits record = true)) ∧
    (∀ low high, IsPlainDecimal low → IsPlainDecimal high →
      ((between field low high).admits record = true ↔ HasNumeric record field ∧
        (Constraint.compare field .ge low).admits record = true ∧
        (Constraint.compare field .le high).admits record = true) ∧
      ((notBetween field low high).admits record = true ↔ HasNumeric record field ∧
        ((Constraint.compare field .lt low).admits record = true ∨
          (Constraint.compare field .gt high).admits record = true))) := by
  refine ⟨?_, ?_, ?_, ?_⟩
  · -- one order of the scalar and the operand decides all six comparisons
    intro hscalar operand
    obtain ⟨o, ho⟩ := exists_order hscalar operand
    simp only [ho]
    exact ⟨Comparison.existsUnique_holds o, Comparison.holds_ne_iff, Comparison.holds_le_iff,
      Comparison.holds_ge_iff⟩
  · rintro hscalar c rfl
    rw [Bool.eq_false_iff]
    exact fun h => hscalar (hasScalar_of_admits h)
  · intro values
    exact ⟨isIn_admits_iff, notIn_admits_iff⟩
  · intro low high hlow hhigh
    rw [between_admits_iff, notBetween_admits_iff]
    simp only [hlow, hhigh, true_and, and_self]

/-- A number and an empty list, against operands that are numbers and others that are none. -/
theorem kinds_agree_mixed :
    let record := Json.ofFields [("age", .ofNat 30), ("tags", .array [])]
    (HasScalar record "age" ∧
      ((Constraint.compare "age" .ne "30.0").admits record = true ↔
        ¬(Constraint.compare "age" .eq "30.0").admits record = true) ∧
      (∃! comparison, comparison ∈ [.lt, .eq, .gt] ∧
        (Constraint.compare "age" comparison "1e2").admits record = true)) ∧
    (¬HasScalar record "tags" ∧ (notBetween "tags" "1" "2").admits record = false) ∧
    IsPlainDecimal "-1.5" ∧ IsPlainDecimal "029" ∧
      ((notBetween "age" "-1.5" "029").admits record = true ↔ HasNumeric record "age" ∧
        ((Constraint.compare "age" .lt "-1.5").admits record = true ∨
          (Constraint.compare "age" .gt "029").admits record = true)) := by
  intro record
  have hscalar : HasScalar record "age" :=
    ⟨.ofNat 30, by decide +kernel, isSome_scalarText?_iff.mp (by decide +kernel)⟩
  have hnone : ¬HasScalar record "tags" := by
    rintro ⟨value, hvalue, hscalar⟩
    have hempty : lookup? record "tags" = some (.array []) := by decide +kernel
    cases hvalue.symm.trans hempty
    exact hscalar
  have hlow : IsPlainDecimal "-1.5" := isSome_decimal?_iff.mp (by decide +kernel)
  have hhigh : IsPlainDecimal "029" := isSome_decimal?_iff.mp (by decide +kernel)
  obtain ⟨hcompare, -, -, hranges⟩ := kinds_agree record "age"
  refine ⟨⟨hscalar, (hcompare hscalar "30.0").2.1, (hcompare hscalar "1e2").1⟩, ⟨hnone, ?_⟩,
    hlow, hhigh, (hranges "-1.5" "029" hlow hhigh).2⟩
  exact (kinds_agree record "tags").2.1 hnone _ rfl

/-- What a range says of a field, whatever the bounds are. Where the field and both bounds are numbers, the
field is inside or outside, and not both. Where the field or the lower bound is no number, it is neither.
Where the upper bound alone is none, the field is outside exactly if it is less than the lower bound. -/
theorem ranges_by_bounds (record : Json) (field low high : String) :
    (HasNumeric record field ∧ IsPlainDecimal low ∧ IsPlainDecimal high →
      ((notBetween field low high).admits record = true ↔
        ¬(between field low high).admits record = true)) ∧
    (¬(HasNumeric record field ∧ IsPlainDecimal low) →
      (between field low high).admits record = false ∧
        (notBetween field low high).admits record = false) ∧
    (HasNumeric record field ∧ IsPlainDecimal low ∧ ¬IsPlainDecimal high →
      (between field low high).admits record = false ∧
        ((notBetween field low high).admits record = true ↔
          (Constraint.compare field .lt low).admits record = true)) := by
  simp only [Bool.eq_false_iff, ne_eq, between_admits_iff, notBetween_admits_iff]
  refine ⟨?_, ?_, ?_⟩
  · -- with orders against both bounds it is a matter of complements
    rintro ⟨hnumeric, hlow, hhigh⟩
    obtain ⟨low', hlow'⟩ := exists_order hnumeric.hasScalar low
    obtain ⟨high', hhigh'⟩ := exists_order hnumeric.hasScalar high
    simp only [hnumeric, hlow, hhigh, true_and, hlow', hhigh', Comparison.holds_ge_iff,
      Comparison.holds_le_iff, not_and_or, not_not]
  · intro h
    exact ⟨fun hinside => h ⟨hinside.1, hinside.2.1⟩, fun houtside => h ⟨houtside.1, houtside.2.1⟩⟩
  · rintro ⟨hnumeric, hlow, hhigh⟩
    simp only [hnumeric, hlow, hhigh, true_and, false_and, or_false, not_false_eq_true]

/-- A field that is less than the lower bound is outside, though the upper bound is no number. -/
theorem notBetween_without_upper_bound :
    let record := Json.ofFields [("score", .ofNat 5)]
    ¬IsPlainDecimal "abc" ∧ (notBetween "score" "10" "abc").admits record = true ∧
      within? (.ofNat 5) "10" "abc" = some false := by
  intro record
  refine ⟨decimal?_eq_none_iff.mp (by decide +kernel), ?_, ?_⟩
  · decide +kernel
  · decide +kernel

/-- A number between two numbers, a text, and a number against a bound that is none. -/
theorem ranges_by_bounds_kinds :
    let record := Json.ofFields [("name", .string "abc"), ("score", .ofNat 15)]
    ((HasNumeric record "score" ∧ IsPlainDecimal "10" ∧ IsPlainDecimal "20.5") ∧
      ((notBetween "score" "10" "20.5").admits record = true ↔
        ¬(between "score" "10" "20.5").admits record = true)) ∧
    (¬(HasNumeric record "name" ∧ IsPlainDecimal "10") ∧
      (between "name" "10" "20.5").admits record = false ∧
        (notBetween "name" "10" "20.5").admits record = false) ∧
    (HasNumeric record "score" ∧ IsPlainDecimal "10" ∧ ¬IsPlainDecimal "2e1") ∧
      (between "score" "10" "2e1").admits record = false ∧
        ((notBetween "score" "10" "2e1").admits record = true ↔
          (Constraint.compare "score" .lt "10").admits record = true) := by
  intro record
  have hscore : HasNumeric record "score" :=
    ⟨.ofNat 15, by decide +kernel, isSome_numeric?_iff.mp (by decide +kernel)⟩
  -- a text that is no decimal has no numeric value
  have hname : ¬HasNumeric record "name" := by
    rintro ⟨value, hvalue, hnumeric⟩
    have htext : lookup? record "name" = some (.string "abc") := by decide +kernel
    cases hvalue.symm.trans htext
    exact decimal?_eq_none_iff.mp (by decide +kernel) hnumeric
  have hlow : IsPlainDecimal "10" := isSome_decimal?_iff.mp (by decide +kernel)
  have hhigh : IsPlainDecimal "20.5" := isSome_decimal?_iff.mp (by decide +kernel)
  have hbad : ¬IsPlainDecimal "2e1" := decimal?_eq_none_iff.mp (by decide +kernel)
  -- the law at three ranges, one for each of its parts
  obtain ⟨hnumbers, -, -⟩ := ranges_by_bounds record "score" "10" "20.5"
  obtain ⟨-, htext, -⟩ := ranges_by_bounds record "name" "10" "20.5"
  obtain ⟨-, -, hupper⟩ := ranges_by_bounds record "score" "10" "2e1"
  have htext' : ¬(HasNumeric record "name" ∧ IsPlainDecimal "10") := fun h => hname h.1
  exact ⟨⟨⟨hscore, hlow, hhigh⟩, hnumbers ⟨hscore, hlow, hhigh⟩⟩, ⟨htext', htext htext'⟩,
    ⟨hscore, hlow, hbad⟩, hupper ⟨hscore, hlow, hbad⟩⟩

end Constraint

end RecordFilter
