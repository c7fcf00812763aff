import RecordFilter.Command.System

/-!
# Reading and writing in a directory

* `Directory.follow_of_ok`: what a path means does not depend on what the files hold.
* `Directory.exists_write_of_read`: a file that holds something can be written, and holds then what was
  written.
* `Directory.follow_of_write_of_ne` and `Directory.read_of_write`: a write changes no other file.
-/

namespace RecordFilter.Command.Directory

variable {d : Directory}

/-! ## Paths -/

theorem followNames_of_ok {asDirectory : Bool} {position : Position} {names : List String}
    {place : Place} (h : d.followNames asDirectory position names = .ok place) (e : Directory) :
    e.followNames asDirectory position names = .ok place := by
  induction names generalizing position with
  | nil => exact h
  | cons name rest ih =>
    unfold followNames at h ⊢
    by_cases hdot : name = "."
    · rw [if_pos hdot] at h ⊢
      exact ih h
    · rw [if_neg hdot] at h ⊢
      by_cases hup : name = ".."
      · rw [if_pos hup] at h ⊢
        exact ih h
      · rw [if_neg hup] at h ⊢
        cases hinner : position.enter? name with
        | some inner =>
          rw [hinner] at h
          exact ih h
        | none =>
          rw [hinner] at h
          -- the files count only where a name stands for a directory that is none
          by_cases hrest : rest = []
          · simp only [if_pos hrest] at h ⊢
            exact h
          · simp only [if_neg hrest] at h
            cases h

theorem follow_of_ok {path : String} {place : Place} (h : d.follow path = .ok place)
    (e : Directory) : e.follow path = .ok place := by
  unfold follow at h ⊢
  simp only at h ⊢
  -- only the names are followed, and what they mean does not depend on what the files hold
  split
  · rename_i hempty
    rw [if_pos hempty] at h
    cases h
  · rename_i hempty
    rw [if_neg hempty] at h
    split
    · rename_i hlong
      rw [if_pos hlong] at h
      cases h
    · rename_i hlong
      rw [if_neg hlong] at h
      exact followNames_of_ok h e

/-! ## Files -/

theorem content_here {name : String} (hshort : ¬longestName < name.utf8ByteSize)
    {bytes : ByteArray} (h : d.get? name = some bytes) : d.content .here name = .ok bytes := by
  have hnull : ¬(Position.here = .outer ["dev"] ∧ name = "null") := by
    rintro ⟨hposition, -⟩
    cases hposition
  unfold content
  rw [if_neg hshort, if_neg hnull, if_pos rfl, h]

/-- What holds bytes is a file of the directory: the null device holds none. -/
theorem content_eq_ok {position : Position} {name : String} {bytes : ByteArray}
    (h : d.content position name = .ok bytes) (hbytes : bytes ≠ .empty) :
    position = .here ∧ ¬longestName < name.utf8ByteSize := by
  unfold content at h
  split at h
  · cases h
  · rename_i hshort
    split at h
    · -- the null device is there, but holds nothing
      cases h
      exact absurd rfl hbytes
    · split at h
      · rename_i hfound
        split at hfound
        · rename_i hposition
          exact ⟨hposition, hshort⟩
        · cases hfound
      · cases h

/-- A path at which there are bytes leads to a file of the directory. -/
theorem follow_of_read {path : String} {bytes : ByteArray} (h : d.read path = .ok bytes)
    (hbytes : bytes ≠ .empty) :
    ∃ name, d.follow path = .ok (.entry .here name false) ∧ ¬longestName < name.utf8ByteSize := by
  unfold read at h
  split at h
  · cases h
  · cases h
  · rename_i position name hfollow
    obtain ⟨rfl, hshort⟩ := content_eq_ok h hbytes
    exact ⟨name, hfollow, hshort⟩
  · cases h

/-- A file that holds something can be written, and holds then what was written. -/
theorem exists_write_of_read {path : String} {old : ByteArray} (h : d.read path = .ok old)
    (hold : old ≠ .empty) (bytes : ByteArray) :
    ∃ after, d.write path bytes = .ok after ∧ after.read path = .ok bytes := by
  obtain ⟨name, hfollow, hshort⟩ := follow_of_read h hold
  -- the path leads to the same name before and after
  refine ⟨Keyed.put name bytes d, ?_, ?_⟩
  · unfold write
    rw [hfollow]
    simp only [if_neg hshort]
    rfl
  · unfold read
    rw [follow_of_ok hfollow]
    exact content_here hshort (Keyed.get?_put_self name bytes d)

/-- A file that a write changes is the one that its path leads to. -/
theorem follow_of_write_of_ne {path name : String} {bytes : ByteArray} {after : Directory}
    (h : d.write path bytes = .ok after) (hne : after.get? name ≠ d.get? name) :
    d.follow path = .ok (.entry .here name false) := by
  unfold write at h
  split at h
  · cases h
  · cases h
  · rename_i position name' hfollow
    split at h
    · cases h
    · obtain rfl := Except.ok.inj h
      -- a write elsewhere changes no file of the directory, and one here changes the file it is for
      by_cases hposition : position = .here
      · rw [if_pos hposition] at hne
        by_cases hname : name = name'
        · rw [hfollow, hposition, hname]
        · exact absurd (Keyed.get?_put_of_ne hname bytes d) hne
      · rw [if_neg hposition] at hne
        exact absurd rfl hne
  · cases h

theorem exists_follow_of_read {path : String} {bytes : ByteArray} (h : d.read path = .ok bytes) :
    ∃ position name, d.follow path = .ok (.entry position name false) := by
  unfold read at h
  split at h
  · cases h
  · cases h
  · rename_i position name hfollow
    exact ⟨position, name, hfollow⟩
  · cases h

/-- What a path to another file holds is not changed by a write. -/
theorem read_of_write {path other : String} {position : Position} {name : String}
    (hfollow : d.follow path = .ok (.entry position name false)) (hother : d.follow other ≠ d.follow path)
    {bytes : ByteArray} {after : Directory} (h : d.write other bytes = .ok after) :
    after.read path = d.read path := by
  have hsame : position = .here → after.get? name = d.get? name := by
    rintro rfl
    refine Classical.byContradiction fun hne => ?_
    exact hother ((follow_of_write_of_ne h hne).trans hfollow.symm)
  have hcontent : after.content position name = d.content position name := by
    unfold content
    by_cases hposition : position = .here
    · rw [if_pos hposition, if_pos hposition, hsame hposition]
    · rw [if_neg hposition, if_neg hposition]
  rw [read, read, follow_of_ok hfollow, hfollow]
  exact hcontent

end RecordFilter.Command.Directory
