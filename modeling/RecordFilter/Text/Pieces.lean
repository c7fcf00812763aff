/-!
# Texts as pieces around a separator

* `pieces` cuts a text at every separator, `joinWith` puts pieces together again.
* `joinWith_pieces` says that no character is lost, and `pieces_joinWith` that pieces which hold no
  separator come apart as they were.
-/

namespace RecordFilter

/-- The pieces of a text between the separators; a text without one is its only piece. -/
def pieces (separator : Char) (s : String) : List String :=
  (s.toList.splitOn separator).map String.ofList

/-- The pieces with a separator between neighbours. -/
def joinWith (separator : String) (texts : List String) : String :=
  separator.intercalate texts

/-- What is put together is the first piece, and a separator before each of the others. -/
theorem toList_joinWith_cons (separator text : String) (texts : List String) :
    (joinWith separator (text :: texts)).toList =
      text.toList ++ texts.flatMap fun t => separator.toList ++ t.toList := by
  induction texts generalizing text with
  | nil => simp [joinWith]
  | cons t texts ih =>
    rw [joinWith, String.intercalate_cons_cons, String.toList_append, String.toList_append,
      ← joinWith, ih, List.flatMap_cons, List.append_assoc, List.append_assoc]

theorem toList_joinWith_append_cons (separator text : String) (before after : List String) :
    (joinWith separator (before ++ text :: after)).toList =
      (before.flatMap fun t => t.toList ++ separator.toList) ++
        (text.toList ++ after.flatMap fun t => separator.toList ++ t.toList) := by
  induction before with
  | nil => rw [List.nil_append, toList_joinWith_cons, List.flatMap_nil, List.nil_append]
  | cons t before ih =>
    have hne : before ++ text :: after ≠ [] :=
      List.append_ne_nil_of_right_ne_nil _ (List.cons_ne_nil _ _)
    rw [List.cons_append, joinWith, String.intercalate_cons_of_ne_nil hne, String.toList_append,
      String.toList_append, ← joinWith, ih, List.flatMap_cons]
    simp only [List.append_assoc]

theorem joinWith_pieces (separator : Char) (s : String) :
    joinWith (String.singleton separator) (pieces separator s) = s := by
  apply String.toList_inj.mp
  rw [joinWith, String.toList_intercalate, pieces, List.map_map]
  have h : String.toList ∘ String.ofList = id := funext fun _ => String.toList_ofList
  rw [h, List.map_id, String.toList_singleton, List.intercalate_splitOn]

theorem pieces_ne_nil (separator : Char) (s : String) : pieces separator s ≠ [] := by
  simp [pieces]

theorem not_mem_of_mem_splitOn {α : Type} [BEq α] [LawfulBEq α] {a : α} {l part : List α}
    (h : part ∈ l.splitOn a) : a ∉ part := by
  induction l generalizing part with
  | nil =>
    have hpart : part = [] := by simpa using h
    simp [hpart]
  | cons b l ih =>
    rw [List.splitOn_cons_eq_if_modifyHead] at h
    split at h
    · rcases List.mem_cons.mp h with rfl | h
      · simp
      · exact ih h
    · -- the first part grows by an item that is not the separator
      rename_i hb
      have hne : b ≠ a := by simpa using hb
      generalize hparts : l.splitOn a = parts at h ih
      cases parts with
      | nil => cases h
      | cons first others =>
        rw [List.modifyHead_cons] at h
        rcases List.mem_cons.mp h with rfl | h
        · have hfirst := ih List.mem_cons_self
          simp [hne.symm, hfirst]
        · exact ih (List.mem_cons_of_mem _ h)

theorem not_mem_of_mem_pieces {separator : Char} {s piece : String} (h : piece ∈ pieces separator s) :
    separator ∉ piece.toList := by
  obtain ⟨part, hpart, rfl⟩ := List.mem_map.mp h
  rw [String.toList_ofList]
  exact not_mem_of_mem_splitOn hpart

/-- Pieces that hold no separator come apart as they were put together. -/
theorem pieces_joinWith {separator : Char} {texts : List String} (hne : texts ≠ [])
    (h : ∀ text ∈ texts, separator ∉ text.toList) :
    pieces separator (joinWith (String.singleton separator) texts) = texts := by
  have hparts : ∀ part ∈ texts.map String.toList, separator ∉ part := by
    intro part hpart
    obtain ⟨text, htext, rfl⟩ := List.mem_map.mp hpart
    exact h text htext
  have hback : String.ofList ∘ String.toList = id := funext fun _ => String.ofList_toList
  rw [pieces, joinWith, String.toList_intercalate, String.toList_singleton,
    List.splitOn_intercalate separator hparts (by simpa using hne), List.map_map, hback, List.map_id]

end RecordFilter
