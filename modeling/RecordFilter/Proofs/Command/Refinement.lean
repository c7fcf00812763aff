import RecordFilter.Proofs.Command.Files
import RecordFilter.Proofs.Command.Running
import RecordFilter.Proofs.Store.Atomicity

/-!
# The program refines the store

Every run of the program reads its data file and writes it back. Run after run, the file holds what one
store in memory holds after the calls of the same command lines.

* `WorksOn` are the arguments that make a command line on a data file, without settings and a copy.
* `call?` is the call of arguments, `Directory.runAll` runs the program again and again.
* `Directory.runs_refine_calls`: the file holds what the store holds, and a run succeeds where its call
  does.
-/

namespace RecordFilter.Command

/-- Arguments make a command line that works on one data file and on no other file. -/
structure WorksOn (path : String) (args : List String) (line : CommandLine) : Prop where
  read : CommandLine.read none args = .ok line
  settings : line.settings? = none
  output : line.output? = none
  data : ∀ other, line.request.data? = some other → other = path

/-- The call that arguments make of a store. -/
def call? (args : List String) : Option Call :=
  (CommandLine.read none args).toOption.bind (·.call? .default)

theorem WorksOn.call?_eq {path : String} {args : List String} {line : CommandLine}
    (h : WorksOn path args line) : call? args = line.call? .default := by
  rw [call?, h.read]
  rfl

theorem CommandLine.call?_of_looking (line : CommandLine) (h : line.request.changes = false)
    (settings : Settings) : line.call? settings = none := by
  unfold call?
  cases hrequest : line.request with
  | create | update | delete | deleteWhere =>
    rw [hrequest] at h
    cases h
  | query | view | explain | operators => rfl

theorem CommandLine.changes_of_call? (line : CommandLine) {settings : Settings} {call : Call}
    (h : line.call? settings = some call) : line.request.changes = true := by
  cases hchanges : line.request.changes with
  | true => rfl
  | false =>
    rw [line.call?_of_looking hchanges] at h
    cases h

/-- A request that may change a store has a data file. -/
theorem Request.data?_of_changes {request : Request} (h : request.changes = true) :
    ∃ path, request.data? = some path := by
  cases request with
  | create path | update path | delete path | deleteWhere path => exact ⟨path, rfl⟩
  | _ => cases h

theorem WorksOn.data?_of_changes {path : String} {args : List String} {line : CommandLine}
    (h : WorksOn path args line) (hchanges : line.request.changes = true) :
    line.request.data? = some path := by
  obtain ⟨other, hother⟩ := Request.data?_of_changes hchanges
  rw [hother, h.data other hother]

namespace Directory

/-- The directory after runs of the program, one after the other. -/
def runAll (terminal : Bool) (d : Directory) (runs : List (List String)) : Directory :=
  runs.foldl (fun d args => (d.run ⟨none, terminal⟩ args).2) d

/-- What can be loaded is the content of a file that is not empty. -/
theorem exists_read_of_load {d : Directory} {path : String} {c : Collections}
    (h : Collections.load path (d.read path) = .ok c) :
    ∃ bytes, d.read path = .ok bytes ∧ bytes ≠ .empty := by
  cases hread : d.read path with
  | error fault =>
    rw [hread] at h
    cases h
  | ok bytes =>
    refine ⟨bytes, rfl, ?_⟩
    rintro rfl
    rw [hread] at h
    cases h

/-- The file is saved, and loaded as what was saved. -/
theorem load_saved {d : Directory} {path : String} {c c' : Collections}
    (h : Collections.load path (d.read path) = .ok c) (hc' : c'.WellFormed) :
    ∃ after, d.saved (some path) (some c'.fileText) = .ok after ∧
      Collections.load path (after.read path) = .ok c' := by
  obtain ⟨bytes, hread, hbytes⟩ := exists_read_of_load h
  obtain ⟨after, hwrite, hafter⟩ := exists_write_of_read hread hbytes c'.fileText.toUTF8
  refine ⟨after, ?_, ?_⟩
  · rw [saved, hwrite]
    rfl
  · rw [hafter]
    exact Collections.load_fileText hc' path

variable {d : Directory} {path : String} {args : List String} {line : CommandLine} {terminal : Bool}

theorem effects_of_worksOn (h : WorksOn path args line) (d : Directory) (terminal : Bool) :
    d.effects terminal line =
      perform line .default (line.colors terminal) (d.data line.request.data?) := by
  rw [effects, h.settings]
  rfl

theorem run_of_refused (h : WorksOn path args line) {f : Failure}
    (hf : perform line .default (line.colors terminal) (d.data line.request.data?) = .error f) :
    d.run ⟨none, terminal⟩ args = (.failed f "" [], d) := by
  rw [run_of_read_ok h.read]
  exact runLine_of_effects_error terminal line ((effects_of_worksOn h d terminal).trans hf)

theorem run_of_performed (h : WorksOn path args line) {e : Effects} {saved : Directory}
    (he : perform line .default (line.colors terminal) (d.data line.request.data?) = .ok e)
    (hsaved : d.saved line.request.data? e.saved? = .ok saved) :
    d.run ⟨none, terminal⟩ args = (.succeeded (closed e.text) (line.told e), saved) := by
  have hcopied : saved.copied line.output? e.text = .ok saved := by
    rw [h.output]
    rfl
  rw [run_of_read_ok h.read]
  exact runLine_of_copied terminal line ((effects_of_worksOn h d terminal).trans he) hsaved hcopied

/-- A command line that only looks leaves every file as it is. -/
theorem run_of_looking (h : WorksOn path args line) (hlooks : line.request.changes = false)
    (d : Directory) (terminal : Bool) : (d.run ⟨none, terminal⟩ args).2 = d := by
  cases he : perform line .default (line.colors terminal) (d.data line.request.data?) with
  | error f => rw [run_of_refused h he]
  | ok e =>
    have heffects := (effects_of_worksOn h d terminal).trans he
    rw [run_of_performed h he (saved_of_changes_eq_false hlooks heffects _)]

/-- A run that makes no change of the store fails, and leaves the file as it is. -/
theorem run_of_unchanged {σ : Type} {s : Store σ} (h : WorksOn path args line)
    (hchanges : line.request.changes = true)
    (hload : Collections.load path (d.read path) = .ok s.collections)
    (hnone : ∀ call, line.call? .default = some call → ∃ e, call.change s.collections = .error e)
    (terminal : Bool) : ∃ f, d.run ⟨none, terminal⟩ args = (.failed f "" [], d) := by
  -- either the request makes no call, or it makes one that fails
  cases hcall : line.call? .default with
  | none =>
    obtain ⟨f, hf⟩ := perform_of_call?_eq_none hchanges hcall
    exact ⟨f, run_of_refused h hf⟩
  | some call =>
    have hpath := h.data?_of_changes hchanges
    obtain ⟨e, he⟩ := hnone call hcall
    have hrealizes : Realizes (perform line .default (line.colors terminal) (d.data (some path)))
        (call.change s.collections) := perform_of_call?_eq_some hcall hpath hload
    rw [he, ← hpath] at hrealizes
    exact ⟨.store e, run_of_refused h hrealizes⟩

/-- A command line that makes a change of the store succeeds, and leaves it in the file. -/
theorem runLine_of_changed {settings : Settings} {c : Collections}
    (hsettings : d.settings line.settings? = .ok settings) (houtput : line.output? = none)
    (hpath : line.request.data? = some path) (hload : Collections.load path (d.read path) = .ok c)
    {call : Call} (hcall : line.call? settings = some call) {change : Change}
    (hchange : call.change c = .ok change) (terminal : Bool) :
    (d.runLine terminal line).1.code = 0 ∧
      Collections.load path ((d.runLine terminal line).2.read path) = .ok change.collections := by
  have hrealizes : Realizes (perform line settings (line.colors terminal) (d.data (some path)))
      (call.change c) := perform_of_call?_eq_some hcall hpath hload
  rw [hchange, ← hpath] at hrealizes
  obtain ⟨e, he, hsaved?⟩ := hrealizes
  -- a call of a well-formed store leaves one, which is saved and loaded again
  have hwellFormed : change.collections.WellFormed :=
    (Call.makes_of_change hchange).wellFormed (Collections.wellFormed_of_load hload)
      (ordered_of_call? hcall)
  obtain ⟨after, hsaved, hafter⟩ := load_saved hload hwellFormed
  rw [← hsaved?, ← hpath] at hsaved
  have hcopied : after.copied line.output? e.text = .ok after := by
    rw [houtput]
    rfl
  have heffects := (effects_of_settings hsettings terminal).trans he
  rw [runLine_of_copied terminal line heffects hsaved hcopied]
  exact ⟨rfl, hafter⟩

/-- A run that makes a change of the store succeeds, and leaves it in the file. -/
theorem run_of_changed {σ : Type} {s : Store σ} (h : WorksOn path args line)
    (hload : Collections.load path (d.read path) = .ok s.collections) {call : Call}
    (hcall : line.call? .default = some call) {change : Change}
    (hchange : call.change s.collections = .ok change) (terminal : Bool) :
    (d.run ⟨none, terminal⟩ args).1.code = 0 ∧
      Collections.load path ((d.run ⟨none, terminal⟩ args).2.read path) = .ok change.collections := by
  have hpath := h.data?_of_changes (line.changes_of_call? hcall)
  have hsettings : d.settings line.settings? = .ok .default := by
    rw [h.settings]
    rfl
  rw [run_of_read_ok h.read]
  exact runLine_of_changed hsettings h.output hpath hload hcall hchange terminal

/-- One run does to the file what its call does to the store. -/
theorem run_refines_call {σ : Type} {s : Store σ}
    (hload : Collections.load path (d.read path) = .ok s.collections) (h : WorksOn path args line)
    (hchanges : line.request.changes = true) (terminal : Bool) :
    let r := d.run ⟨none, terminal⟩ args
    (r.1.code = 0 ↔ ∃ call answer, call? args = some call ∧ (s.call call).1 = .ok answer) ∧
      Collections.load path (r.2.read path) = .ok (s.callAll (call? args).toList).collections := by
  intro r
  rw [h.call?_eq]
  -- either there is a change, which is saved, or neither the file nor the store changes
  by_cases hchange : ∃ call change,
      line.call? .default = some call ∧ call.change s.collections = .ok change
  · obtain ⟨call, change, hcall, hchange⟩ := hchange
    obtain ⟨hcode, hafter⟩ := run_of_changed h hload hcall hchange terminal
    have hanswer : s.call call = _ := (s.call_eq_carryOut call).trans (congrArg s.carryOut hchange)
    rw [hcall]
    show _ ∧ _ = Except.ok (s.call call).2.collections
    rw [hanswer]
    exact ⟨⟨fun _ => ⟨call, change.answer, rfl, congrArg Prod.fst hanswer⟩, fun _ => hcode⟩, hafter⟩
  · have hnone : ∀ call, line.call? .default = some call →
        ∃ e, call.change s.collections = .error e := by
      intro call hcall
      cases hresult : call.change s.collections with
      | error e => exact ⟨e, rfl⟩
      | ok change => exact absurd ⟨call, change, hcall, hresult⟩ hchange
    have hfails (call : Call) (hcall : line.call? .default = some call) :
        ∃ e, s.call call = (.error e, s) := by
      obtain ⟨e, he⟩ := hnone call hcall
      exact ⟨e, (s.call_eq_carryOut call).trans (congrArg s.carryOut he)⟩
    obtain ⟨f, hr⟩ := run_of_unchanged h hchanges hload hnone terminal
    rw [show r = _ from hr]
    refine ⟨⟨?_, ?_⟩, ?_⟩
    · intro hzero
      exact absurd hzero f.code_ne_zero
    · rintro ⟨call, answer, hcall, hok⟩
      obtain ⟨e, he⟩ := hfails call hcall
      rw [he] at hok
      cases hok
    · cases hcall : line.call? .default with
      | none => exact hload
      | some call =>
        obtain ⟨e, he⟩ := hfails call hcall
        show _ = Except.ok (s.call call).2.collections
        rw [he]
        exact hload

theorem callAll_filterMap_cons {σ : Type} (s : Store σ) (args : List String)
    (runs : List (List String)) :
    s.callAll ((args :: runs).filterMap call?) =
      (s.callAll (call? args).toList).callAll (runs.filterMap call?) := by
  rw [List.filterMap_cons]
  cases call? args with
  | none => rfl
  | some call => rfl

/-- Runs do to the file what their calls do to the store. -/
theorem load_runAll {σ : Type} {s : Store σ}
    (hload : Collections.load path (d.read path) = .ok s.collections) {runs : List (List String)}
    (hruns : ∀ args ∈ runs, ∃ line, WorksOn path args line) (terminal : Bool) :
    Collections.load path ((d.runAll terminal runs).read path) =
      .ok (s.callAll (runs.filterMap call?)).collections := by
  -- directory and store go on together from what the first run and its call have left
  induction runs generalizing d s with
  | nil => exact hload
  | cons args runs ih =>
    obtain ⟨⟨line, hline⟩, hruns⟩ := List.forall_mem_cons.mp hruns
    rw [callAll_filterMap_cons]
    refine ih (d := (d.run ⟨none, terminal⟩ args).2) ?_ hruns
    cases hchanges : line.request.changes with
    | true => exact (run_refines_call hload hline hchanges terminal).2
    | false =>
      rw [run_of_looking hline hchanges, hline.call?_eq, line.call?_of_looking hchanges]
      exact hload

/-- After any runs the data file holds what a store that was loaded once holds after their calls. The
next run succeeds where its call is made and does not fail, and if it only looks it leaves every file
as it is. -/
theorem runs_refine_calls {σ : Type} (s : Store σ)
    (hload : Collections.load path (d.read path) = .ok s.collections) (runs : List (List String))
    (hruns : ∀ args ∈ runs, ∃ line, WorksOn path args line) (terminal : Bool) :
    let after := d.runAll terminal runs
    let t := s.callAll (runs.filterMap call?)
    Collections.load path (after.read path) = .ok t.collections ∧
      ∀ args line, WorksOn path args line →
        let r := after.run ⟨none, terminal⟩ args
        (line.request.changes = true →
          (r.1.code = 0 ↔ ∃ call answer, call? args = some call ∧ (t.call call).1 = .ok answer)) ∧
        (line.request.changes = false → r.2 = after) := by
  intro after t
  -- the simulation holds after all runs, so each further run is one more step of it
  have hafter := load_runAll hload hruns terminal
  refine ⟨hafter, ?_⟩
  intro args line hline r
  constructor
  · intro hchanges
    exact (run_refines_call hafter hline hchanges terminal).1
  · intro hlooks
    exact run_of_looking hline hlooks after terminal

/-- A creation, a look, a deletion of everything that is refused, and an update of the new record. -/
theorem runs_refine_calls_refusing :
    let d : Directory := [("data.json", "\x7b\x7d".toUTF8)]
    let runs := [["create", "data.json", "users", "--set", "\x7b\"name\": \"Ada\"\x7d"],
      ["query", "data.json", "users"], ["delete", "data.json", "users"],
      ["update", "data.json", "users", "1", "--set", "\x7b\"born\": \"1815\"\x7d"]]
    Collections.load "data.json" (d.read "data.json") = .ok [] ∧
      (∀ args ∈ runs, ∃ line, WorksOn "data.json" args line) ∧
      Collections.load "data.json" ((d.runAll false runs).read "data.json") =
        .ok [("users",
          [.object [("born", .string "1815"), ("id", .ofId 1), ("name", .string "Ada")]])] := by
  intro d runs
  have hload : Collections.load "data.json" (d.read "data.json") = .ok [] := rfl
  have hruns : ∀ args ∈ runs, ∃ line, WorksOn "data.json" args line := by
    -- each of the four is read, works on the data file alone and has no copy
    refine List.forall_mem_cons.mpr ⟨⟨_, rfl, rfl, rfl, ?_⟩, List.forall_mem_cons.mpr
      ⟨⟨_, rfl, rfl, rfl, ?_⟩, List.forall_mem_cons.mpr
      ⟨⟨_, rfl, rfl, rfl, ?_⟩, List.forall_mem_singleton.mpr ⟨_, rfl, rfl, rfl, ?_⟩⟩⟩⟩
    all_goals
      intro other hother
      cases hother
      rfl
  have hcalls : ((Store.quiet []).callAll (runs.filterMap call?)).collections =
      [("users", [.object [("born", .string "1815"), ("id", .ofId 1), ("name", .string "Ada")]])] := by
    decide +kernel
  refine ⟨hload, hruns, ?_⟩
  rw [← hcalls]
  exact (runs_refine_calls (Store.quiet []) hload runs hruns false).1

end Directory

end RecordFilter.Command
