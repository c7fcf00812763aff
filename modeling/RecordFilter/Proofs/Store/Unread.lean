import RecordFilter.Proofs.Store.Independence

/-!
# Updates of what a plan does not read

A plan reads few attributes of a record: for each of its fields the attribute of that name, and the one that a path
would start at. An update that gives none of them changes nothing about which records satisfy the plan.

* `firstName` is where the path of a field starts: `exists_pieces`.
* `lookup?_congr`: a field is told by two attributes.
* `QueryPlan.admits_congr`: so a plan is told by two attributes for each of its fields.
* `QueryPlan.Spared` says that attributes are none of these, `QueryPlan.admits_merged` that merging them is not seen.
* `Store.spared_plans_keep_records` says it of updates, one after the other.
-/

namespace RecordFilter

/-! ## The attributes that a field reads -/

/-- What stands before the first point of a field, or all of it if there is no point. -/
def firstName (field : String) : String :=
  .ofList (field.toList.takeWhile (· ≠ '.'))

theorem exists_splitOn {α : Type} [DecidableEq α] (a : α) (l : List α) :
    ∃ parts, l.splitOn a = l.takeWhile (· ≠ a) :: parts := by
  induction l with
  | nil => exact ⟨[], by simp⟩
  | cons b l ih =>
    obtain ⟨parts, hparts⟩ := ih
    rw [List.splitOn_cons_eq_if_modifyHead]
    by_cases hb : b = a
    · exact ⟨l.splitOn a, by simp [hb]⟩
    · exact ⟨parts, by simp [hb, hparts]⟩

/-- The path of a field starts at its first name. -/
theorem exists_pieces (field : String) : ∃ rest, pieces '.' field = firstName field :: rest := by
  obtain ⟨parts, hparts⟩ := exists_splitOn '.' field.toList
  exact ⟨parts.map String.ofList, by rw [pieces, hparts, List.map_cons, firstName]⟩

variable {record other : Json} {field : String}

/-- A path that starts at one of two equal attributes ends alike. -/
theorem follow?_congr {first : String} (h : record.field? first = other.field? first)
    (rest : List String) : record.follow? (first :: rest) = other.follow? (first :: rest) := by
  rw [Json.follow?, List.foldlM_cons, h, Json.follow?, List.foldlM_cons]

/-- Without an object there is no attribute to start at. -/
theorem lookup?_eq (record : Json) (field : String) :
    lookup? record field =
      match record.field? field with
      | some value => value.notNull?
      | none => (record.follow? (pieces '.' field)).bind Json.notNull? := by
  cases record with
  | object fields => rfl
  | null | bool | number | string | array =>
    obtain ⟨rest, hrest⟩ := exists_pieces field
    rw [hrest]
    rfl

/-- A field is told by the attribute of its name and the one at which its path starts. -/
theorem lookup?_congr (hname : record.field? field = other.field? field)
    (hfirst : record.field? (firstName field) = other.field? (firstName field)) :
    lookup? record field = lookup? other field := by
  obtain ⟨rest, hrest⟩ := exists_pieces field
  rw [lookup?_eq, lookup?_eq, hname, hrest, follow?_congr hfirst]

/-! ## The attributes that a plan reads -/

/-- A merge leaves the attributes that are not given. -/
theorem Json.field?_merged {given : Keyed Json} {key : String}
    (h : ∀ entry ∈ given, entry.1 ≠ "id" → entry.1 ≠ key)
    (record : Json) : (record.merged given).field? key = record.field? key := by
  cases record with
  | object fields =>
    refine get?_merge_of_not_mem ?_ fields
    intro entry hentry
    have hgiven : entry ∈ given := (Keyed.remove_sublist "id" given).subset hentry
    exact h entry hgiven (Keyed.ne_of_mem_remove hentry)
  | null | bool | number | string | array => rfl

theorem Constraint.admits_congr {c : Constraint} (hname : record.field? c.field = other.field? c.field)
    (hfirst : record.field? (firstName c.field) = other.field? (firstName c.field)) :
    c.admits record = c.admits other := by
  rw [Constraint.admits, lookup?_congr hname hfirst, Constraint.admits]

namespace QueryPlan

variable {plan : QueryPlan} {given : Keyed Json}

theorem admits_congr
    (h : ∀ c ∈ plan.constraints, record.field? c.field = other.field? c.field ∧
      record.field? (firstName c.field) = other.field? (firstName c.field)) :
    plan.admits record = plan.admits other := by
  have hsame : ∀ c ∈ plan.constraints, c.admits record = c.admits other :=
    fun c hc => Constraint.admits_congr (h c hc).1 (h c hc).2
  rw [Bool.eq_iff_iff, admits, admits, List.all_eq_true, List.all_eq_true]
  exact forall₂_congr fun c hc => by rw [hsame c hc]

/-- No attribute that is given, but for an `id`, has the name of a field of the plan or the first name of one. -/
def Spared (plan : QueryPlan) (given : Keyed Json) : Prop :=
  ∀ c ∈ plan.constraints, ∀ entry ∈ given, entry.1 ≠ "id" →
    entry.1 ≠ c.field ∧ entry.1 ≠ firstName c.field

/-- A plan does not see the merge of attributes that spare it. -/
theorem admits_merged (h : plan.Spared given) (record : Json) :
    plan.admits (record.merged given) = plan.admits record := by
  apply admits_congr
  intro c hc
  constructor
  · exact Json.field?_merged (fun entry hentry hid => (h c hc entry hentry hid).1) record
  · exact Json.field?_merged (fun entry hentry hid => (h c hc entry hentry hid).2) record

/-- An attribute with the whole name of a field hides what its path leads to, even a null. -/
example :
    let record := Json.object [("address", .object [("city", .string "Rome")])]
    let plan : QueryPlan := ⟨[.compare "address.city" .eq "Rome"]⟩
    plan.admits record = true ∧
      plan.admits (record.merged [("address.city", .null)]) = false := by
  decide +kernel

end QueryPlan

/-! ## Updates -/

/-- A call is an update with attributes that spare a plan. -/
inductive Call.Spares (plan : QueryPlan) : Call → Prop
  | update {given : Keyed Json} (entity : String) (id : UInt64) (h : plan.Spared given) :
    Spares plan (.update entity id (.object given))

namespace Store

variable {σ : Type} {plan : QueryPlan}

/-- A plan admits the same places of every entity after such an update. -/
theorem map_admits_call {call : Call} (h : call.Spares plan) (s : Store σ) (other : String) :
    ((s.call call).2.collections.stock other).map plan.admits =
      (s.collections.stock other).map plan.admits := by
  cases h with
  | @update given entity id hspared =>
    rw [collections_call, Collections.after_update]
    cases hrecords : s.collections.get? entity with
    | none => rw [Collections.alter_of_get?_eq_none hrecords]
    | some records =>
      rw [Collections.alter_of_get? hrecords, Collections.stock_replace hrecords]
      split
      · rename_i hother
        rw [map_modifyFirst (QueryPlan.admits_merged hspared), hother,
          Collections.stock_of_get? hrecords]
      · rfl

/-- The updates keep this one after the other. -/
theorem map_admits_callAll {calls : List Call} (h : ∀ call ∈ calls, call.Spares plan)
    (s : Store σ) (other : String) :
    ((s.callAll calls).collections.stock other).map plan.admits =
      (s.collections.stock other).map plan.admits := by
  induction calls generalizing s with
  | nil => rfl
  | cons call calls ih =>
    obtain ⟨hcall, hcalls⟩ := List.forall_mem_cons.mp h
    exact (ih hcalls (s.call call).2).trans (map_admits_call hcall s other)

/-- An update of a record with attributes that spare a plan leaves the record as good or as bad for the plan as it
was. So, however many such updates there are, the plan admits the same places of every entity as before them. -/
theorem spared_plans_keep_records (s : Store σ) (plan : QueryPlan) :
    (∀ entity id given record, plan.Spared given → s.collections.find entity id = .ok record →
      let call := Call.update entity id (.object given)
      ∃ new, (s.call call).1 = .ok (.one new) ∧
        (s.call call).2.collections.find entity id = .ok new ∧
        (plan.admits new = true ↔ plan.admits record = true)) ∧
    ∀ calls : List Call, (∀ call ∈ calls, call.Spares plan) → ∀ other,
      ((s.callAll calls).collections.stock other).map plan.admits =
        (s.collections.stock other).map plan.admits := by
  constructor
  · intro entity id given record hspared hfind call
    refine ⟨record.merged given, ?_, ?_, ?_⟩
    · rw [call_update_eq_find, hfind]
      rfl
    · rw [collections_call, Collections.find_after_update_self, hfind]
      rfl
    · rw [QueryPlan.admits_merged hspared]
  · intro calls hcalls other
    exact map_admits_callAll hcalls s other

/-- A user is asked for by the city of an address, and gets another name. -/
theorem spared_plans_keep_records_city :
    let user := Json.object [("address", .object [("city", .string "Rome")]), ("id", .ofId 1),
      ("name", .string "a")]
    let s := Store.quiet [("users", [user])]
    let plan : QueryPlan := ⟨[.compare "address.city" .eq "Rome"]⟩
    let given : Keyed Json := [("id", .ofId 9), ("name", .string "b")]
    let call := Call.update "users" 1 (.object given)
    (plan.Spared given ∧ s.collections.find "users" 1 = .ok user ∧ plan.admits user = true) ∧
      (∃ new, (s.call call).1 = .ok (.one new) ∧ plan.admits new = true) ∧
      ((∀ other ∈ [call, call], other.Spares plan) ∧
        ((s.callAll [call, call]).collections.stock "users").map plan.admits = [true]) := by
  intro user s plan given call
  have hspared : plan.Spared given := by
    unfold QueryPlan.Spared
    decide
  have hfind : s.collections.find "users" 1 = .ok user := by decide +kernel
  have hadmits : plan.admits user = true := by decide +kernel
  -- each of the calls is the same, and spares the plan since neither attribute is read by it
  have hcalls : ∀ other ∈ [call, call], other.Spares plan := by
    intro other hother
    have heq : other = call := by simpa using hother
    rw [heq]
    exact .update "users" 1 hspared
  obtain ⟨hone, hall⟩ := spared_plans_keep_records s plan
  obtain ⟨new, hanswer, -, hsame⟩ := hone "users" 1 given user hspared hfind
  refine ⟨⟨hspared, hfind, hadmits⟩, ⟨new, hanswer, hsame.mpr hadmits⟩, hcalls, ?_⟩
  rw [hall [call, call] hcalls "users"]
  show [plan.admits user] = [true]
  rw [hadmits]

end Store

end RecordFilter
