import RecordFilter.Proofs.Command.Refinement
import RecordFilter.Proofs.Filter.Conjunction
import RecordFilter.Proofs.Filter.Equality
import RecordFilter.Proofs.Store.Origins

/-!
# Deleting by filter

A command line that deletes by filter removes the records that satisfy all of its recognized expressions. If
it has none it is refused, and so it is under a policy that refuses what is not recognized.

* `Registry.Holds` says that a record satisfies the constraint of an expression.
* `CommandLine.call?_eq_some_iff_of_deleteWhere`: when a deletion by filter is carried out, and what it is.
* `Directory.Removes` says that a run takes a record out of the data file, and
  `Directory.removes_iff_of_call?` of which records this is true.
* `Directory.run_deletes_within`: no run goes beyond its recognized expressions.
* `Directory.run_removes_iff`: the data file loses just these records in the run itself, unless the report is
  copied over it.
-/

namespace RecordFilter

/-! ## Recognized expressions and their plan -/

namespace Registry

/-- The expression is recognized, and the record satisfies the constraint that it stands for. -/
def Holds (r : Registry) (token : String) (record : Json) : Prop :=
  ∃ f c, r.resolve? token = some f ∧ f.constraint? = some c ∧ c.admits record = true

/-- The plan of one recognized expression is its constraint. -/
theorem admits_plan_singleton_iff {r : Registry} (h : ∀ op ∈ r.operators, op.Fits) {token : String}
    (htoken : (r.resolve? token).isSome = true) {record : Json} :
    (r.plan [token]).admits record = true ↔ r.Holds token record := by
  obtain ⟨f, hresolve⟩ := Option.isSome_iff_exists.mp htoken
  obtain ⟨c, hc⟩ := Option.isSome_iff_exists.mp (isSome_constraint?_of_resolve? h hresolve)
  rw [plan_singleton hresolve, QueryPlan.admits_iff, QueryPlan.ofFilters,
    List.filterMap_cons_some hc, List.filterMap_nil, List.forall_mem_singleton]
  constructor
  · intro hadmits
    exact ⟨f, c, hresolve, hc, hadmits⟩
  · rintro ⟨f', c', hresolve', hc', hadmits⟩
    cases hresolve.symm.trans hresolve'
    cases hc.symm.trans hc'
    exact hadmits

theorem admits_plan_standard_iff {tokens : List String} {record : Json} :
    (standard.plan tokens).admits record = true ↔
      ∀ token ∈ standard.recognized tokens, standard.Holds token record := by
  rw [admits_plan_iff]
  refine forall₂_congr fun token htoken => ?_
  exact admits_plan_singleton_iff Operator.fits_of_mem_standard (mem_recognized_iff.mp htoken).2

theorem isEmpty_plan_standard_iff {tokens : List String} :
    (standard.plan tokens).isEmpty = true ↔ standard.recognized tokens = [] := by
  have hlength : (standard.plan tokens).constraints.length = (standard.recognized tokens).length :=
    ((forall₂_resolve? standard tokens).length_eq.trans (forall₂_standard tokens).length_eq).symm
  rw [QueryPlan.isEmpty, List.isEmpty_iff_length_eq_zero, hlength, List.length_eq_zero_iff]

end Registry

namespace Command

/-! ## The call of a deletion -/

/-- One of the expressions is not recognized, where this is not allowed. -/
def Rejected (policy : UnrecognizedPolicy) (tokens : List String) : Prop :=
  policy = .reject ∧ ∃ token ∈ tokens, Registry.standard.resolve? token = none

theorem policy_eq_reject_iff {line : CommandLine} {settings : Settings} :
    policy line settings = .reject ↔
      line.strict = true ∨ settings.filters.unrecognized = .reject := by
  unfold policy
  cases line.strict with
  | true => simp
  | false => simp

theorem not_rejected_iff {policy : UnrecognizedPolicy} {tokens : List String} :
    ¬Rejected policy tokens ↔
      (policy = .reject → ∀ token ∈ tokens, (Registry.standard.resolve? token).isSome) := by
  simp only [Rejected, not_and, not_exists, Option.isSome_iff_ne_none, ne_eq]

theorem plan_eq_ok_iff {policy : UnrecognizedPolicy} {tokens : List String} {p : QueryPlan} :
    plan policy tokens = .ok p ↔
      ¬Rejected policy tokens ∧ Registry.standard.plan tokens = p := by
  rw [not_rejected_iff]
  unfold plan
  cases hcompiled : Registry.standard.compileUnder policy tokens with
  | ok filters =>
    obtain ⟨hall, rfl⟩ := Registry.compileUnder_eq_ok_iff.mp hcompiled
    constructor
    · intro h
      exact ⟨hall, Except.ok.inj h⟩
    · rintro ⟨-, rfl⟩
      rfl
  -- an error is the other half of the equivalence: not all expressions are recognized
  | error e =>
    constructor
    · intro h
      cases h
    · rintro ⟨hall, -⟩
      cases hcompiled.symm.trans (Registry.compileUnder_eq_ok_iff.mpr ⟨hall, rfl⟩)

/-- A deletion by filter is carried out if none of its expressions is rejected and one is recognized. -/
theorem CommandLine.call?_eq_some_iff_of_deleteWhere {line : CommandLine} {settings : Settings}
    {path entity : String} {tokens : List String} {queryString? : Option String} {call : Call}
    (hrequest : line.request = .deleteWhere path entity tokens queryString? false) :
    let asked := expressions settings tokens queryString?
    line.call? settings = some call ↔
      (¬Rejected (policy line settings) asked ∧ Registry.standard.recognized asked ≠ []) ∧
        call = .deleteWhere entity (Registry.standard.plan asked) := by
  intro asked
  -- without leave to delete everything, the plan must not be empty
  have hguard (p : QueryPlan) :
      (if p.isEmpty ∧ ¬(false : Bool) = true then none else some (Call.deleteWhere entity p)) =
          some call ↔ p.isEmpty = false ∧ Call.deleteWhere entity p = call := by
    cases p.isEmpty <;> simp
  rw [CommandLine.call?, hrequest]
  simp only [Option.bind_eq_some_iff]
  constructor
  · rintro ⟨p, hplan, hcall⟩
    obtain ⟨hallowed, rfl⟩ := plan_eq_ok_iff.mp (eq_ok_of_toOption hplan)
    obtain ⟨hsome, rfl⟩ := (hguard _).mp hcall
    refine ⟨⟨hallowed, ?_⟩, rfl⟩
    intro hnone
    rw [Registry.isEmpty_plan_standard_iff.mpr hnone] at hsome
    cases hsome
  · rintro ⟨⟨hallowed, hsome⟩, rfl⟩
    refine ⟨Registry.standard.plan asked, ?_, (hguard _).mpr ⟨?_, rfl⟩⟩
    · rw [plan_eq_ok_iff.mpr ⟨hallowed, rfl⟩]
      rfl
    · rw [Bool.eq_false_iff]
      exact fun hempty => hsome (Registry.isEmpty_plan_standard_iff.mp hempty)

namespace Directory

/-! ## Runs that are refused -/

variable {d : Directory} {line : CommandLine} {settings : Settings} {path entity : String}

/-- A command line that would change a store and makes no call of it fails, and changes no file. -/
theorem runLine_of_call?_eq_none (hsettings : d.settings line.settings? = .ok settings)
    (hchanges : line.request.changes = true) (hcall : line.call? settings = none)
    (terminal : Bool) :
    ∃ f, f.early = true ∧ d.runLine terminal line = (.failed f "" [], d) := by
  have hfails : ∃ f, perform line settings (line.colors terminal) (d.data line.request.data?) =
      .error f := perform_of_call?_eq_none hchanges hcall
  obtain ⟨f, hf⟩ := hfails
  have heffects := (effects_of_settings hsettings terminal).trans hf
  exact ⟨f, failsEarly_perform _ _ _ _ f hf, runLine_of_effects_error terminal line heffects⟩

/-- A command line whose call fails does so too. -/
theorem runLine_of_change_error {c : Collections} {call : Call} {e : StoreError}
    (hsettings : d.settings line.settings? = .ok settings) (hpath : line.request.data? = some path)
    (hload : Collections.load path (d.read path) = .ok c) (hcall : line.call? settings = some call)
    (hchange : call.change c = .error e) (terminal : Bool) :
    d.runLine terminal line = (.failed (.store e) "" [], d) := by
  have hrealizes : Realizes (perform line settings (line.colors terminal) (d.data (some path)))
      (call.change c) := perform_of_call?_eq_some hcall hpath hload
  rw [hchange, ← hpath] at hrealizes
  have heffects := (effects_of_settings hsettings terminal).trans hrealizes
  exact runLine_of_effects_error terminal line heffects

/-! ## Records that are removed -/

/-- A run takes a record out of the records of an entity: its data file holds the record less often after
the run than before. A copy of the report does not count, since it may be written over the data file. -/
def Removes (d : Directory) (terminal : Bool) (line : CommandLine) (entity : String)
    (record : Json) : Prop :=
  ∃ path before after, line.request.data? = some path ∧
    Collections.load path (d.read path) = .ok before ∧
    Collections.load path ((d.runLine terminal { line with output? := none }).2.read path) =
      .ok after ∧
    (after.stock entity).count record < (before.stock entity).count record

theorem not_removes_of_unchanged {terminal : Bool}
    (h : (d.runLine terminal { line with output? := none }).2 = d) (entity : String)
    (record : Json) : ¬d.Removes terminal line entity record := by
  rintro ⟨path, before, after, -, hbefore, hafter, hcount⟩
  rw [h, hbefore] at hafter
  cases hafter
  exact Nat.lt_irrefl _ hcount

/-- What a test leaves holds a record less often if the record was there and fails the test. -/
theorem count_filter_lt_iff {records : List Json} {test : Json → Bool} {record : Json} :
    (records.filter fun record => !test record).count record < records.count record ↔
      record ∈ records ∧ test record = true := by
  cases htest : test record with
  -- a record that passes the test is taken out every time it occurs
  | true =>
    have hnone : (records.filter fun record => !test record).count record = 0 := by
      rw [List.count_eq_zero, List.mem_filter, htest]
      exact fun h => nomatch h.2
    rw [hnone, List.count_pos_iff]
    exact (and_iff_left rfl).symm
  | false =>
    have hsame : (records.filter fun record => !test record).count record = records.count record :=
      List.count_filter (by rw [htest]; rfl)
    rw [hsame]
    constructor
    · intro h
      exact absurd h (Nat.lt_irrefl _)
    · rintro ⟨-, h⟩
      cases h

variable {call : Call} {before : Collections}

/-- What a call takes out of a store, the run that makes it takes out of the data file. -/
theorem removes_iff_of_change {change : Change} (hsettings : d.settings line.settings? = .ok settings)
    (hpath : line.request.data? = some path)
    (hload : Collections.load path (d.read path) = .ok before)
    (hcall : line.call? settings = some call) (hchange : call.change before = .ok change)
    {terminal : Bool} {other : String} {record : Json} :
    d.Removes terminal line other record ↔
      (change.collections.stock other).count record < (before.stock other).count record := by
  -- without a copy, the line reads the same settings and makes the same call
  let plain : CommandLine := { line with output? := none }
  have hplain : d.settings plain.settings? = .ok settings := hsettings
  have hdone : (d.runLine terminal plain).1.code = 0 ∧
      Collections.load path ((d.runLine terminal plain).2.read path) = .ok change.collections :=
    runLine_of_changed hplain rfl hpath hload hcall hchange terminal
  constructor
  · rintro ⟨path', before', after', hpath', hbefore', hafter', hcount⟩
    cases hpath.symm.trans hpath'
    cases hload.symm.trans hbefore'
    cases hdone.2.symm.trans hafter'
    exact hcount
  · intro hcount
    exact ⟨path, before, _, hpath, hload, hdone.2, hcount⟩

theorem not_removes_of_change_error {e : StoreError}
    (hsettings : d.settings line.settings? = .ok settings) (hpath : line.request.data? = some path)
    (hload : Collections.load path (d.read path) = .ok before)
    (hcall : line.call? settings = some call) (hchange : call.change before = .error e)
    (terminal : Bool) (other : String) (record : Json) : ¬d.Removes terminal line other record := by
  let plain : CommandLine := { line with output? := none }
  have hplain : d.settings plain.settings? = .ok settings := hsettings
  have hfails : d.runLine terminal plain = (.failed (.store e) "" [], d) :=
    runLine_of_change_error hplain hpath hload hcall hchange terminal
  have hunchanged : (d.runLine terminal plain).2 = d := by rw [hfails]
  exact not_removes_of_unchanged hunchanged other record

/-- A deletion by filter removes the records of its entity that its plan admits. -/
theorem removes_iff_of_call? {plan : QueryPlan} (hsettings : d.settings line.settings? = .ok settings)
    (hpath : line.request.data? = some path)
    (hload : Collections.load path (d.read path) = .ok before)
    (hcall : line.call? settings = some (.deleteWhere entity plan)) {terminal : Bool}
    {other : String} {record : Json} :
    d.Removes terminal line other record ↔
      other = entity ∧ record ∈ before.stock entity ∧ plan.admits record = true := by
  cases hget : before.get? entity with
  -- an entity that is not there has no records to remove, and the call is refused
  | none =>
    have hchange : (Call.deleteWhere entity plan).change before = .error (.unknownEntity entity) := by
      rw [Call.change, hget]
    constructor
    · intro h
      exact absurd h
        (not_removes_of_change_error hsettings hpath hload hcall hchange terminal other record)
    · rintro ⟨-, hmem, -⟩
      rw [Collections.stock, hget] at hmem
      cases hmem
  | some records =>
    have hchange : (Call.deleteWhere entity plan).change before =
        .ok (.removing before entity (.many (records.filter plan.admits))
          (records.filter plan.admits) (records.filter fun record => !plan.admits record)) := by
      rw [Call.change, hget]
    rw [removes_iff_of_change hsettings hpath hload hcall hchange, Change.removing,
      Collections.stock_replace hget, Collections.stock_of_get? hget]
    by_cases hother : other = entity
    · subst hother
      -- the records that stay are those that fail the test, so the count falls where the record passes it
      rw [if_pos rfl, Collections.stock_of_get? hget, count_filter_lt_iff]
      exact (and_iff_right rfl).symm
    · rw [if_neg hother]
      constructor
      · intro h
        exact absurd h (Nat.lt_irrefl _)
      · rintro ⟨h, -⟩
        exact absurd h hother

variable {tokens : List String} {queryString? : Option String}

/-- A deletion by filter that is not carried out fails, and changes no file. -/
theorem runLine_of_refused (hsettings : d.settings line.settings? = .ok settings)
    (hrequest : line.request = .deleteWhere path entity tokens queryString? false)
    (hrefused : Rejected (policy line settings) (expressions settings tokens queryString?) ∨
      Registry.standard.recognized (expressions settings tokens queryString?) = [])
    (terminal : Bool) :
    ∃ f, f.early = true ∧ d.runLine terminal line = (.failed f "" [], d) := by
  have hchanges : line.request.changes = true := by
    rw [hrequest]
    rfl
  have hnone : line.call? settings = none := by
    rw [Option.eq_none_iff_forall_ne_some]
    -- a call would need what the refusal denies, an allowed request with something recognized
    intro call hcall
    obtain ⟨⟨hallowed, hsome⟩, -⟩ :=
      (CommandLine.call?_eq_some_iff_of_deleteWhere hrequest).mp hcall
    exact hrefused.elim hallowed hsome
  exact runLine_of_call?_eq_none hsettings hchanges hnone terminal

/-- A deletion by filter removes the records of its entity that satisfy its recognized expressions, if it
is carried out. -/
theorem removes_iff_of_deleteWhere (hsettings : d.settings line.settings? = .ok settings)
    (hrequest : line.request = .deleteWhere path entity tokens queryString? false) {terminal : Bool}
    {other : String} {record : Json} :
    let asked := expressions settings tokens queryString?
    let recognized := Registry.standard.recognized asked
    d.Removes terminal line other record ↔
      (¬Rejected (policy line settings) asked ∧ recognized ≠ []) ∧ other = entity ∧
        (∃ before, Collections.load path (d.read path) = .ok before ∧
          record ∈ before.stock entity) ∧
        ∀ token ∈ recognized, Registry.standard.Holds token record := by
  intro asked recognized
  have hpath : line.request.data? = some path := by
    rw [hrequest]
    rfl
  have hremoves {before : Collections} (hload : Collections.load path (d.read path) = .ok before)
      (hmade : ¬Rejected (policy line settings) asked ∧ recognized ≠ []) :
      d.Removes terminal line other record ↔ other = entity ∧ record ∈ before.stock entity ∧
        ∀ token ∈ recognized, Registry.standard.Holds token record := by
    rw [removes_iff_of_call? hsettings hpath hload
      ((CommandLine.call?_eq_some_iff_of_deleteWhere hrequest).mpr ⟨hmade, rfl⟩),
      Registry.admits_plan_standard_iff]
  constructor
  · -- a removal shows that the run was not refused, since a refused one leaves the directory
    intro h
    have ⟨_, before, _, hpath', hload, _⟩ := h
    cases hpath.symm.trans hpath'
    by_cases hrefused : Rejected (policy line settings) asked ∨ recognized = []
    · let plain : CommandLine := { line with output? := none }
      have hplain : d.settings plain.settings? = .ok settings := hsettings
      have hfails : ∃ f, f.early = true ∧ d.runLine terminal plain = (.failed f "" [], d) :=
        runLine_of_refused hplain hrequest hrefused terminal
      obtain ⟨f, -, hf⟩ := hfails
      have hunchanged : (d.runLine terminal plain).2 = d := by rw [hf]
      exact absurd h (not_removes_of_unchanged hunchanged other record)
    · have hmade := not_or.mp hrefused
      obtain ⟨hentity, hmem, hholds⟩ := (hremoves hload hmade).mp h
      exact ⟨hmade, hentity, ⟨before, hload, hmem⟩, hholds⟩
  · rintro ⟨hmade, hentity, ⟨before, hload, hmem⟩, hholds⟩
    exact (hremoves hload hmade).mpr ⟨hentity, hmem, hholds⟩

/-! ## Runs -/

/-- No deletion by filter goes beyond its expressions: it removes the records that satisfy all that are
recognized, and it is refused if none is, or if one is not and this is not allowed. All that a run leaves
besides is the copy of its report. -/
theorem run_deletes_within (d : Directory) (environment : Environment) (args : List String)
    (hread : CommandLine.read environment.settings? args = .ok line)
    (hrequest : line.request = .deleteWhere path entity tokens queryString? false) :
    let r := d.run environment args
    let plain := d.runLine environment.terminal { line with output? := none }
    (r.2 = plain.2 ∨ ∃ copy text,
      line.output? = some copy ∧ plain.2.write copy (String.toUTF8 text) = .ok r.2) ∧
    (∀ e, d.settings line.settings? = .error e → r.1.code = 1 ∧ r.2 = d) ∧
    ∀ settings, d.settings line.settings? = .ok settings →
      let asked := expressions settings tokens queryString?
      let recognized := Registry.standard.recognized asked
      let rejected := (line.strict = true ∨ settings.filters.unrecognized = .reject) ∧
        ∃ token ∈ asked, Registry.standard.resolve? token = none
      (∀ other record, d.Removes environment.terminal line other record ↔
        (¬rejected ∧ recognized ≠ []) ∧ other = entity ∧
          (∃ before, Collections.load path (d.read path) = .ok before ∧
            record ∈ before.stock entity) ∧
          ∀ token ∈ recognized, Registry.standard.Holds token record) ∧
      (rejected ∨ recognized = [] → r.1.code = 1 ∧ r.2 = d) := by
  intro r plain
  have hr : r = d.runLine environment.terminal line := run_of_read_ok hread d
  rw [hr]
  refine ⟨d.runLine_with_copy environment.terminal line, ?_, ?_⟩
  · intro e hsettings
    have heffects := effects_of_settings_error hsettings environment.terminal
    rw [runLine_of_effects_error environment.terminal line heffects]
    exact ⟨rfl, rfl⟩
  · intro settings hsettings asked recognized rejected
    have hrejected : Rejected (policy line settings) asked ↔ rejected :=
      and_congr_left fun _ => policy_eq_reject_iff
    -- the two parts are complementary: what is carried out is told by its call, what is refused by its failure
    refine ⟨fun other record => ?_, fun hrefused => ?_⟩
    · rw [← hrejected]
      exact removes_iff_of_deleteWhere hsettings hrequest
    · rw [← hrejected] at hrefused
      obtain ⟨f, hearly, hf⟩ := runLine_of_refused hsettings hrequest hrefused environment.terminal
      rw [hf]
      exact ⟨Failure.code_of_early hearly, rfl⟩

/-- Of two records, the one that satisfies both recognized expressions is removed. Where the third one is
not allowed nothing is, nor where the only parameter is a reserved one. -/
theorem run_deletes_within_sparing :
    let ada := Json.object [("age", .string "20"), ("id", .ofId 1), ("name", .string "Ada")]
    let bob := Json.object [("age", .string "20"), ("id", .ofId 2), ("name", .string "Bob")]
    let d : Directory := [("data.json", (Collections.fileText [("users", [ada, bob])]).toUTF8)]
    let args := ["delete", "data.json", "users", "age<=30", "age", "--query-string",
      "page=2&name%7EA%25"]
    let strict := "--strict" :: args
    let paged := ["delete", "data.json", "users", "--query-string", "page=2"]
    let request := Request.deleteWhere "data.json" "users" ["age<=30", "age"]
      (some "page=2&name%7EA%25") false
    let line := CommandLine.mk none .text none false .auto false request
    (CommandLine.read none args = .ok line ∧
      d.Removes false line "users" ada ∧ ¬d.Removes false line "users" bob) ∧
    (CommandLine.read none strict = .ok { line with strict := true } ∧
      (d.run ⟨none, false⟩ strict).1.code = 1 ∧ (d.run ⟨none, false⟩ strict).2 = d) ∧
    (CommandLine.read none paged =
        .ok { line with request := .deleteWhere "data.json" "users" [] (some "page=2") false } ∧
      (d.run ⟨none, false⟩ paged).1.code = 1 ∧ (d.run ⟨none, false⟩ paged).2 = d) := by
  intro ada bob d args strict paged request line
  have hread : CommandLine.read none args = .ok line := rfl
  have hstrict : CommandLine.read none strict = .ok { line with strict := true } := rfl
  have hpaged : CommandLine.read none paged =
    .ok { line with request := .deleteWhere "data.json" "users" [] (some "page=2") false } := rfl
  -- well-formedness of the two records, so that the file reads back as they are
  have hrecord (id : UInt64) (name : String) :
      (Json.object [("age", .string "20"), ("id", .ofId id), ("name", .string name)]).IsRecord := by
    have hname : (Json.object [("name", .string name)]).Ordered :=
      .put (.string name) .nil_object "name"
    have hid : (Json.object [("id", .ofId id), ("name", .string name)]).Ordered :=
      .put (.number _) hname "id"
    exact .of_fields (.put (.string "20") hid "age")
  have hwellFormed : Collections.WellFormed [("users", [ada, bob])] := by
    refine ⟨List.pairwise_singleton _ _, List.forall_mem_singleton.mpr ?_⟩
    exact List.forall_mem_cons.mpr ⟨hrecord 1 "Ada", List.forall_mem_singleton.mpr (hrecord 2 "Bob")⟩
  have hload : Collections.load "data.json" (d.read "data.json") = .ok [("users", [ada, bob])] :=
    Collections.load_fileText hwellFormed "data.json"
  obtain ⟨-, -, hdeletes⟩ := run_deletes_within d ⟨none, false⟩ args hread rfl
  obtain ⟨-, -, hrefuses⟩ := run_deletes_within d ⟨none, false⟩ strict hstrict rfl
  obtain ⟨-, -, hspares⟩ := run_deletes_within d ⟨none, false⟩ paged hpaged rfl
  have hremoves := (hdeletes .default rfl).1 "users"
  refine ⟨⟨hread, (hremoves ada).mpr ?_, ?_⟩, ⟨hstrict, (hrefuses .default rfl).2 ?_⟩,
    hpaged, (hspares .default rfl).2 ?_⟩
  · -- what is removed and what is spared is decided on the plan, through its recognized expressions
    refine ⟨⟨?_, by decide +kernel⟩, rfl, ⟨_, hload, List.mem_cons_self⟩, ?_⟩
    · rintro ⟨h | h, -⟩
      · cases h
      · cases h
    · exact Registry.admits_plan_standard_iff.mp (by decide +kernel)
  · intro h
    have hadmits := Registry.admits_plan_standard_iff.mpr ((hremoves bob).mp h).2.2.2
    exact absurd hadmits (by decide +kernel)
  · exact Or.inl ⟨Or.inl rfl, "age", by decide +kernel, by decide +kernel⟩
  · exact Or.inr (by decide +kernel)

/-! ## Runs with a copy elsewhere -/

/-- A report that is copied to another file, if it is copied at all, leaves the data file as it is. -/
theorem read_runLine_of_copy_elsewhere {content : ByteArray} (hread : d.read path = .ok content)
    (hcopy : ∀ copy, line.output? = some copy → d.follow copy ≠ d.follow path) (terminal : Bool) :
    (d.runLine terminal line).2.read path =
      (d.runLine terminal { line with output? := none }).2.read path := by
  obtain ⟨position, name, hfollow⟩ := exists_follow_of_read hread
  rcases d.runLine_with_copy terminal line with hsame | ⟨copy, text, houtput, hwrite⟩
  · rw [hsame]
  · -- both paths lead to the same place after the run as before it
    refine read_of_write (follow_of_ok hfollow _) ?_ hwrite
    intro heq
    rw [follow_of_ok hfollow] at heq
    exact hcopy copy houtput ((follow_of_ok heq d).trans hfollow.symm)

/-- What a run takes out of the records of an entity is what it takes out without a copy, if the copy goes to
another file. -/
theorem removes_iff_of_copy_elsewhere (hpath : line.request.data? = some path)
    (hcopy : ∀ copy, line.output? = some copy → d.follow copy ≠ d.follow path) {terminal : Bool}
    {other : String} {record : Json} :
    d.Removes terminal line other record ↔
      ∃ before after, Collections.load path (d.read path) = .ok before ∧
        Collections.load path ((d.runLine terminal line).2.read path) = .ok after ∧
        (after.stock other).count record < (before.stock other).count record := by
  constructor
  · rintro ⟨path', before, after, hpath', hbefore, hafter, hcount⟩
    cases hpath.symm.trans hpath'
    obtain ⟨content, hread, -⟩ := exists_read_of_load hbefore
    rw [← read_runLine_of_copy_elsewhere hread hcopy] at hafter
    exact ⟨before, after, hbefore, hafter, hcount⟩
  · rintro ⟨before, after, hbefore, hafter, hcount⟩
    obtain ⟨content, hread, -⟩ := exists_read_of_load hbefore
    rw [read_runLine_of_copy_elsewhere hread hcopy] at hafter
    exact ⟨path, before, after, hpath, hbefore, hafter, hcount⟩

/-- A deletion by filter whose report is not copied, or to another file than the data file, takes out of the
data file the records of its entity that satisfy its recognized expressions, and no others. -/
theorem run_removes_iff {environment : Environment} {args : List String}
    (hread : CommandLine.read environment.settings? args = .ok line)
    (hrequest : line.request = .deleteWhere path entity tokens queryString? false)
    (hcopy : ∀ copy, line.output? = some copy → d.follow copy ≠ d.follow path)
    (hsettings : d.settings line.settings? = .ok settings) {other : String} {record : Json} :
    let asked := expressions settings tokens queryString?
    let recognized := Registry.standard.recognized asked
    (∃ before after, Collections.load path (d.read path) = .ok before ∧
      Collections.load path ((d.run environment args).2.read path) = .ok after ∧
      (after.stock other).count record < (before.stock other).count record) ↔
      (¬Rejected (policy line settings) asked ∧ recognized ≠ []) ∧ other = entity ∧
        (∃ before, Collections.load path (d.read path) = .ok before ∧
          record ∈ before.stock entity) ∧
        ∀ token ∈ recognized, Registry.standard.Holds token record := by
  intro asked recognized
  have hpath : line.request.data? = some path := by
    rw [hrequest]
    rfl
  rw [run_of_read_ok hread, ← removes_iff_of_copy_elsewhere hpath hcopy]
  exact removes_iff_of_deleteWhere hsettings hrequest

end Directory

end Command

end RecordFilter
