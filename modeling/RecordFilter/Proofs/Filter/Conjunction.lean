import RecordFilter.Proofs.Filter.Compiling

/-!
# Requests as conjunctions

A record is selected if it is selected by each recognized expression alone. So it does not matter in which
order expressions come, how often they come, or what comes with them that nobody recognizes.

* `Registry.selection` are the records that a request selects when unrecognized expressions are ignored.
* `Registry.admits_plan_iff`: the plan of a request admits what the plan of each of its recognized
  expressions admits.
* `Registry.selection_conjunction`: what a request selects.
-/

namespace RecordFilter

theorem QueryPlan.admits_iff {plan : QueryPlan} {record : Json} :
    plan.admits record = true ↔ ∀ c ∈ plan.constraints, c.admits record = true :=
  List.all_eq_true

/-- Filters admit what each of them admits. A filter that is skipped admits everything. -/
theorem QueryPlan.admits_ofFilters_iff {ω : Type} [FilterSyntax ω] {filters : List (Filter ω)} {record : Json} :
    (QueryPlan.ofFilters filters).admits record = true ↔
      ∀ f ∈ filters, (QueryPlan.ofFilters [f]).admits record = true := by
  simp only [admits_iff, ofFilters, List.mem_filterMap, List.mem_singleton]
  constructor
  · rintro h f hf c ⟨g, rfl, hc⟩
    exact h c ⟨g, hf, hc⟩
  · rintro h c ⟨f, hf, hc⟩
    exact h f hf c ⟨f, rfl, hc⟩

namespace Registry

variable {ω : Type} [FilterSyntax ω] {r : Registry ω} {record : Json}

/-- The records that a request selects, if expressions that nobody recognizes are ignored. -/
def selection (r : Registry ω) (tokens : List String) (records : List Json) :
    Except UnrecognizedToken (List Json) :=
  (r.compileUnder .ignore tokens).map fun filters => (QueryPlan.ofFilters filters).select records

theorem selection_eq (r : Registry ω) (tokens : List String) (records : List Json) :
    r.selection tokens records = .ok (records.filter (r.plan tokens).admits) := rfl

theorem plan_singleton {token : String} {f : Filter ω} (h : r.resolve? token = some f) :
    r.plan [token] = QueryPlan.ofFilters [f] := by
  rw [plan, compile, List.filterMap_cons_some h, List.filterMap_nil]

/-- A request admits a record if each of its recognized expressions does alone. -/
theorem admits_plan_iff {tokens : List String} :
    (r.plan tokens).admits record = true ↔
      ∀ token ∈ r.recognized tokens, (r.plan [token]).admits record = true := by
  rw [plan, QueryPlan.admits_ofFilters_iff]
  constructor
  · intro h token htoken
    obtain ⟨hmem, hsome⟩ := mem_recognized_iff.mp htoken
    obtain ⟨f, hf⟩ := Option.isSome_iff_exists.mp hsome
    rw [plan_singleton hf]
    exact h f (List.mem_filterMap.mpr ⟨token, hmem, hf⟩)
  · intro h f hf
    obtain ⟨token, hmem, hresolve⟩ := List.mem_filterMap.mp hf
    rw [← plan_singleton hresolve]
    exact h token (mem_recognized_iff.mpr ⟨hmem, by rw [hresolve]; rfl⟩)

/-- With more recognized expressions a request admits no more. -/
theorem admits_plan_of_subset {a c : List String} (h : r.recognized a ⊆ r.recognized c)
    (hc : (r.plan c).admits record = true) : (r.plan a).admits record = true :=
  admits_plan_iff.mpr fun token htoken => admits_plan_iff.mp hc token (h htoken)

theorem recognized_subset {a c : List String} (h : a ⊆ c) : r.recognized a ⊆ r.recognized c := by
  intro token htoken
  obtain ⟨hmem, hsome⟩ := mem_recognized_iff.mp htoken
  exact mem_recognized_iff.mpr ⟨h hmem, hsome⟩

/-- What a request selects depends on the set of its recognized expressions only: it is the records, in
their order, that each of these expressions selects alone. More expressions never select more records. -/
theorem selection_conjunction (r : Registry ω) (records : List Json) :
    (∀ a b : List String, (∀ token, token ∈ r.recognized a ↔ token ∈ r.recognized b) →
      r.selection a records = r.selection b records) ∧
    (∀ a : List String, r.selection a records = .ok (records.filter fun record =>
      (r.recognized a).all fun token => (r.plan [token]).admits record)) ∧
    (∀ a c : List String, a ⊆ c → ∃ selected narrowed, r.selection a records = .ok selected ∧
      r.selection c records = .ok narrowed ∧ narrowed.Sublist selected) := by
  refine ⟨?_, ?_, ?_⟩
  · intro a b h
    rw [selection_eq, selection_eq]
    congr 2
    funext record
    rw [Bool.eq_iff_iff]
    -- the same expressions are recognized, so each plan has the constraints of the other
    exact ⟨admits_plan_of_subset fun token => (h token).mpr,
      admits_plan_of_subset fun token => (h token).mp⟩
  · intro a
    rw [selection_eq]
    congr 2
    funext record
    rw [Bool.eq_iff_iff, List.all_eq_true, admits_plan_iff]
  · intro a c h
    refine ⟨_, _, selection_eq r a records, selection_eq r c records, ?_⟩
    exact List.monotone_filter_right records fun _ => admits_plan_of_subset (recognized_subset h)

/-- An operator with a list where its comparison needs one value: its filters select everything. -/
theorem selection_conjunction_skipping :
    let r := ofList [.lte, { Operator.like with shape := .list, kind := .compare .eq }]
    let records := [.ofFields [("age", .ofNat 30), ("tag", .string "a")],
      .ofFields [("age", .ofNat 31), ("tag", .string "b")]]
    let a := ["age<=30", "page", "tag~b"]
    let b := ["tag~b", "age<=30", "tag~b", "?"]
    let c := "age<=29" :: a
    ((∀ token, token ∈ r.recognized a ↔ token ∈ r.recognized b) ∧
      r.selection a records = .ok (records.take 1) ∧
      r.selection a records = r.selection b records) ∧
    (a ⊆ c ∧ r.selection c records = .ok [] ∧
      ∃ selected narrowed, r.selection a records = .ok selected ∧
        r.selection c records = .ok narrowed ∧ narrowed.Sublist selected) := by
  intro r records a b c
  have ha : r.recognized a = ["age<=30", "tag~b"] := by decide +kernel
  have hb : r.recognized b = ["tag~b", "age<=30", "tag~b"] := by decide +kernel
  have hsame : ∀ token, token ∈ r.recognized a ↔ token ∈ r.recognized b := by
    intro token
    rw [ha, hb]
    simp only [List.mem_cons, List.not_mem_nil, or_false]
    tauto
  have hsubset : a ⊆ c := List.subset_cons_self _ _
  obtain ⟨hset, -, hfewer⟩ := selection_conjunction r records
  refine ⟨⟨hsame, ?_, hset a b hsame⟩, hsubset, ?_, hfewer a c hsubset⟩
  · rw [selection_eq]
    decide +kernel
  · rw [selection_eq]
    decide +kernel

end Registry

end RecordFilter
