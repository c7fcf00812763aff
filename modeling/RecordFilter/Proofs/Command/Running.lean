import RecordFilter.Command.Run
import RecordFilter.Proofs.Command.Performing

/-!
# What a run leaves behind

A run in a directory writes the data file, if there is something to write, prints its report, and then
writes the copy of it. It ends at the first of these steps that fails. Here nothing fails but what paths and
files make fail, so that printing never does.

* `Directory.run` is a run of the program, `Directory.runLine` that of a command line.
* `CommandLine.read_help`: help is given wherever it is asked for.
* `Directory.runLine_eq` sums up the steps of a command line.
* `Directory.runLine_with_copy`: a copy of the report is all that an output file adds.
* `Directory.saved_of_changes_eq_false`: a request that only looks writes no data file.
-/

namespace RecordFilter.Command

/-- Work goes on in the state that the work before it has left. -/
theorem run_bind_of_eq {σ α β : Type} {work : StateM σ α} {s after : σ} {a : α}
    (h : StateT.run work s = (a, after)) (next : α → StateM σ β) :
    StateT.run (work >>= next) s = StateT.run (next a) after := by
  rw [StateT.run_bind, h]
  rfl

/-- The events that a run of the command line tells of. -/
def CommandLine.told (line : CommandLine) (e : Effects) : List ChangeEvent :=
  if line.quiet then [] else e.events

/-! ## Requests for help -/

/-- What has been read is not about to read the value of an option, nor to read only names. -/
structure Reading.TakesOptions (r : Reading) : Prop where
  asking : r.asking? = none
  waiting : r.waiting? = none
  plain : r.plain = false

theorem Reading.step_help {r : Reading} (h : r.TakesOptions) :
    r.step "--help" = .error (.help ⟨r.subject, false⟩) := by
  obtain ⟨before, command?, waiting?, plain, asking?⟩ := r
  obtain ⟨rfl, rfl, rfl⟩ := h
  cases command? with
  | none => rfl
  | some command => rfl

/-- Help is given wherever it is asked for, whatever comes after it. -/
theorem CommandLine.read_help {settings? : Option String} {before : List String} {r : Reading}
    (hread : before.foldlM Reading.step .start = .ok r) (h : r.TakesOptions) (after : List String) :
    CommandLine.read settings? (before ++ "--help" :: after) = .error (.help ⟨r.subject, false⟩) := by
  rw [CommandLine.read, List.foldlM_append, hread]
  show Except.bind (List.foldlM Reading.step r ("--help" :: after)) _ = _
  rw [List.foldlM_cons, Reading.step_help h]
  rfl

namespace Directory

/-- What is seen of a run of the program in a directory, and the directory after it. -/
def run (d : Directory) (environment : Environment) (args : List String) : Outcome × Directory :=
  StateT.run (Command.run disk environment args) d

/-- What is seen of a run of a command line, and the directory after it. -/
def runLine (d : Directory) (terminal : Bool) (line : CommandLine) : Outcome × Directory :=
  StateT.run (line.run disk terminal) d

/-! ## The steps -/

/-- The settings of a command line. -/
def settings (d : Directory) : Option String → Except SettingsError Settings
  | some path => Settings.load path (d.read path)
  | none => .ok .default

/-- The bytes of the data file of a request. -/
def data (d : Directory) : Option String → Except FileFault ByteArray
  | some path => d.read path
  | none => .error .missing

/-- What a command line is to do. -/
def effects (d : Directory) (terminal : Bool) (line : CommandLine) : Except Failure Effects :=
  match d.settings line.settings? with
  | .error e => .error (.settings e)
  | .ok settings => perform line settings (line.colors terminal) (d.data line.request.data?)

/-- The directory after the data file is written back. -/
def saved (d : Directory) (path? text? : Option String) : Except Failure Directory :=
  match path?, text? with
  | some path, some text =>
    (d.write path text.toUTF8).mapError fun fault => .saving path (.write path fault)
  | _, _ => .ok d

/-- The directory after the report is written to a file too. -/
def copied (d : Directory) (path? : Option String) (text : String) : Except Failure Directory :=
  match path? with
  | some path => (d.write path text.toUTF8).mapError (.output path)
  | none => .ok d

theorem run_of_read_ok {environment : Environment} {args : List String} {line : CommandLine}
    (h : CommandLine.read environment.settings? args = .ok line) (d : Directory) :
    d.run environment args = d.runLine environment.terminal line := by
  unfold run Command.run
  rw [h]
  rfl

/-- Arguments that make no command line are answered without a look at any file. Whoever asks for help or
for the version succeeds. -/
theorem run_of_read_error {environment : Environment} {args : List String} {stop : Stop}
    (h : CommandLine.read environment.settings? args = .error stop) (d : Directory) :
    (d.run environment args).2 = d ∧ (d.run environment args).1.failure? = none ∧
      (d.run environment args).1.code = if stop = .misuse then 2 else 0 := by
  unfold run Command.run
  rw [h]
  cases stop with
  | help topic => exact ⟨rfl, rfl, rfl⟩
  | version => exact ⟨rfl, rfl, rfl⟩
  | misuse => exact ⟨rfl, rfl, rfl⟩

theorem run_readSettings (d : Directory) (path? : Option String) :
    StateT.run (readSettings disk path?) d = (d.settings path?, d) := by
  cases path? with
  | none => rfl
  | some path => rfl

theorem run_readData (d : Directory) (path? : Option String) :
    StateT.run (readData disk path?) d = (d.data path?, d) := by
  cases path? with
  | none => rfl
  | some path => rfl

/-- A file that cannot be written leaves the directory as it is. -/
theorem run_write (d : Directory) (path : String) (bytes : ByteArray) (fail : FileFault → Failure) :
    StateT.run (do return (← disk.write path bytes).mapError fail) d =
      match (d.write path bytes).mapError fail with
      | .error f => (.error f, d)
      | .ok after => (.ok (), after) := by
  -- the write first looks at the directory
  have hget : StateT.run (get : StateM Directory Directory) d = (d, d) := rfl
  cases hresult : d.write path bytes with
  | error fault =>
    have hwrite : StateT.run (disk.write path bytes) d = (.error fault, d) := by
      refine (run_bind_of_eq hget _).trans ?_
      rw [hresult]
      rfl
    rw [run_bind_of_eq hwrite]
    rfl
  | ok after =>
    have hwrite : StateT.run (disk.write path bytes) d = (.ok (), after) := by
      refine (run_bind_of_eq hget _).trans ?_
      rw [hresult]
      rfl
    rw [run_bind_of_eq hwrite]
    rfl

theorem run_save (d : Directory) (path? text? : Option String) :
    StateT.run (save disk path? text?) d =
      match d.saved path? text? with
      | .error f => (.error f, d)
      | .ok after => (.ok (), after) := by
  cases path? with
  | none => rfl
  | some path =>
    cases text? with
    | none => rfl
    | some text => exact run_write d path text.toUTF8 _

theorem run_printReport (d : Directory) (text : String) :
    StateT.run (printReport disk text) d = (.ok (), d) :=
  rfl

theorem run_copy (d : Directory) (path? : Option String) (text : String) :
    StateT.run (copy disk path? text) d =
      match d.copied path? text with
      | .error f => (.error f, d)
      | .ok after => (.ok (), after) := by
  cases path? with
  | none => rfl
  | some path => exact run_write d path text.toUTF8 _

/-- A command line takes its steps in order, up to the first one that fails. Printing is one that does not. -/
theorem runLine_eq (d : Directory) (terminal : Bool) (line : CommandLine) :
    d.runLine terminal line =
      match d.effects terminal line with
      | .error f => (.failed f "" [], d)
      | .ok e =>
        match d.saved line.request.data? e.saved? with
        | .error f => (.failed f "" (line.told e), d)
        | .ok saved =>
          match saved.copied line.output? e.text with
          | .error f => (.failed f (closed e.text) (line.told e), saved)
          | .ok copied => (.succeeded (closed e.text) (line.told e), copied) := by
  unfold runLine CommandLine.run effects
  -- a step that only reads leaves the directory as it is, so the next one works on the same files
  rw [run_bind_of_eq (run_readSettings d line.settings?)]
  cases d.settings line.settings? with
  | error e => rfl
  | ok settings =>
    simp only
    rw [run_bind_of_eq (run_readData d line.request.data?)]
    cases perform line settings (line.colors terminal) (d.data line.request.data?) with
    | error f => rfl
    | ok e =>
      have hsave := run_save d line.request.data? e.saved?
      simp only
      cases hsaved : d.saved line.request.data? e.saved? with
      | error f =>
        rw [hsaved] at hsave
        rw [run_bind_of_eq hsave]
        rfl
      | ok saved =>
        -- from here on the work goes on in what was saved
        have hcopy := run_copy saved line.output? e.text
        rw [hsaved] at hsave
        rw [run_bind_of_eq hsave]
        simp only
        rw [run_bind_of_eq (run_printReport saved e.text)]
        simp only
        cases hcopied : saved.copied line.output? e.text with
        | error f =>
          rw [hcopied] at hcopy
          rw [run_bind_of_eq hcopy]
          rfl
        | ok copied =>
          rw [hcopied] at hcopy
          rw [run_bind_of_eq hcopy]
          rfl

variable {d saved copied : Directory} {e : Effects} {f : Failure}

theorem effects_of_settings {line : CommandLine} {settings : Settings}
    (h : d.settings line.settings? = .ok settings) (terminal : Bool) :
    d.effects terminal line =
      perform line settings (line.colors terminal) (d.data line.request.data?) := by
  rw [effects, h]

theorem effects_of_settings_error {line : CommandLine} {e : SettingsError}
    (h : d.settings line.settings? = .error e) (terminal : Bool) :
    d.effects terminal line = .error (.settings e) := by
  rw [effects, h]

theorem runLine_of_effects_error (terminal : Bool) (line : CommandLine)
    (h : d.effects terminal line = .error f) : d.runLine terminal line = (.failed f "" [], d) := by
  rw [runLine_eq, h]

theorem runLine_of_saved_error (terminal : Bool) (line : CommandLine)
    (he : d.effects terminal line = .ok e) (h : d.saved line.request.data? e.saved? = .error f) :
    d.runLine terminal line = (.failed f "" (line.told e), d) := by
  rw [runLine_eq, he]
  simp only [h]

theorem runLine_of_copied_error (terminal : Bool) (line : CommandLine)
    (he : d.effects terminal line = .ok e) (hs : d.saved line.request.data? e.saved? = .ok saved)
    (h : saved.copied line.output? e.text = .error f) :
    d.runLine terminal line = (.failed f (closed e.text) (line.told e), saved) := by
  rw [runLine_eq, he]
  simp only [hs, h]

theorem runLine_of_copied (terminal : Bool) (line : CommandLine)
    (he : d.effects terminal line = .ok e) (hs : d.saved line.request.data? e.saved? = .ok saved)
    (h : saved.copied line.output? e.text = .ok copied) :
    d.runLine terminal line = (.succeeded (closed e.text) (line.told e), copied) := by
  rw [runLine_eq, he]
  simp only [hs, h]

theorem eq_or_write_of_copied {path? : Option String} {text : String}
    (h : saved.copied path? text = .ok copied) :
    copied = saved ∨ ∃ path, path? = some path ∧ saved.write path text.toUTF8 = .ok copied := by
  cases path? with
  | none => exact Or.inl (Except.ok.inj h).symm
  | some path =>
    unfold Directory.copied at h
    cases hwrite : saved.write path text.toUTF8 with
    | error fault =>
      simp only [hwrite] at h
      cases h
    | ok after =>
      simp only [hwrite] at h
      cases h
      exact Or.inr ⟨path, rfl, hwrite⟩

/-- A command line leaves what it leaves without a copy, and its copy. -/
theorem runLine_with_copy (d : Directory) (terminal : Bool) (line : CommandLine) :
    let r := d.runLine terminal line
    let plain := d.runLine terminal { line with output? := none }
    r.2 = plain.2 ∨
      ∃ path text, line.output? = some path ∧ plain.2.write path (String.toUTF8 text) = .ok r.2 := by
  intro r plain
  -- one case for each step that may end the run; up to the copy, both runs are the same
  cases he : d.effects terminal line with
  | error f =>
    have hr : r = _ := runLine_of_effects_error terminal line he
    have hplain : plain = _ := runLine_of_effects_error terminal { line with output? := none } he
    exact Or.inl (by rw [hr, hplain])
  | ok e =>
    cases hs : d.saved line.request.data? e.saved? with
    | error f =>
      have hr : r = _ := runLine_of_saved_error terminal line he hs
      have hplain : plain = _ := runLine_of_saved_error terminal { line with output? := none } he hs
      exact Or.inl (by rw [hr, hplain])
    | ok saved =>
      have hplain : plain = _ := runLine_of_copied terminal { line with output? := none } he hs rfl
      cases hc : saved.copied line.output? e.text with
      | error f =>
        have hr : r = _ := runLine_of_copied_error terminal line he hs hc
        exact Or.inl (by rw [hr, hplain])
      | ok copied =>
        have hr : r = _ := runLine_of_copied terminal line he hs hc
        rw [hr, hplain]
        rcases eq_or_write_of_copied hc with hsame | ⟨path, hpath, hwrite⟩
        · exact Or.inl hsame
        · exact Or.inr ⟨path, e.text, hpath, hwrite⟩

/-- A request that only looks leaves the data file as it is. -/
theorem saved_of_changes_eq_false {terminal : Bool} {line : CommandLine}
    (hlooks : line.request.changes = false) (h : d.effects terminal line = .ok e)
    (path? : Option String) : d.saved path? e.saved? = .ok d := by
  unfold effects at h
  split at h
  · cases h
  · rw [saved?_of_changes_eq_false hlooks h]
    cases path? with
    | none => rfl
    | some path => rfl

end Directory

end RecordFilter.Command
