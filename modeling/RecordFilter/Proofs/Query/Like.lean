import Mathlib.Data.List.Forall2
import RecordFilter.Query.Like

/-!
# What LIKE patterns match

A text matches a pattern if it can be cut into pieces, one for each character of the pattern, such that
each character takes its piece. Matching keeps what can be left of the text after each part instead; the
two come to the same.

* `Like.Takes` says which pieces a character of a pattern takes, `Like.Follows` that a text can be cut.
* `Like.Nested` is what the rests have in common: each is a suffix of those before it.
* `Like.mem_rests_iff` is one part, `Like.mem_foldl_rests_iff` all parts of a pattern.
* `likeMatchesWhere_iff_follows`: a text matches an accepted pattern if it follows it, whatever patterns are
  accepted.
-/

namespace RecordFilter

namespace Like

/-! ## Cutting a text -/

/-- A character of a pattern takes a piece of a text: `%` takes any piece, `_` takes one character, and any
other character takes one that is equal to it up to case. -/
inductive Takes : Char → List Char → Prop
  | anyRun (run : List Char) : Takes '%' run
  | anyOne (c : Char) : Takes '_' [c]
  | literal {p c : Char} (hrun : p ≠ '%') (hone : p ≠ '_') (hfold : foldCase c = foldCase p) :
    Takes p [c]

/-- A text can be cut into pieces that the characters of a pattern take, from left to right. -/
def Follows (pattern text : String) : Prop :=
  ∃ cut : List (List Char), cut.flatten = text.toList ∧ List.Forall₂ Takes pattern.toList cut

/-- The same for a part of a pattern and a piece of a text, both folded. -/
inductive Part.Takes : Part → List Char → Prop
  | anyRun (run : List Char) : Takes .anyRun run
  | anyOne (c : Char) : Takes .anyOne [c]
  | literal (c : Char) : Takes (.literal c) [c]

/-- A folded part takes the folded pieces that its character takes. -/
theorem takes_fold_iff {p : Char} {piece : List Char} :
    (Part.ofChar p).fold.Takes (piece.map foldCase) ↔ Takes p piece := by
  -- by what the character stands for: a run, one character, or itself up to case
  unfold Part.ofChar
  by_cases hrun : p = '%'
  · subst hrun
    exact ⟨fun _ => .anyRun piece, fun _ => .anyRun _⟩
  · rw [if_neg hrun]
    by_cases hone : p = '_'
    · subst hone
      rw [if_pos rfl]
      constructor
      · intro h
        generalize hfolded : piece.map foldCase = folded at h
        cases h with
        | anyOne c =>
          obtain ⟨c, rfl, -⟩ := List.map_eq_singleton_iff.mp hfolded
          exact .anyOne c
      · intro h
        cases h with
        | anyOne c => exact .anyOne _
        | literal _ hone => exact absurd rfl hone
    · rw [if_neg hone]
      constructor
      · intro h
        generalize hfolded : piece.map foldCase = folded at h
        cases h with
        | literal =>
          obtain ⟨c, rfl, hc⟩ := List.map_eq_singleton_iff.mp hfolded
          exact .literal hrun hone hc
      · intro h
        cases h with
        | anyRun => exact absurd rfl hrun
        | anyOne => exact absurd rfl hone
        | @literal _ c _ _ hfold =>
          rw [List.map_singleton, hfold]
          exact .literal _

/-- A cut of a mapped list is a mapped cut. -/
theorem exists_of_flatten_eq_map {α β : Type} {f : α → β} {cut : List (List β)} {l : List α}
    (h : cut.flatten = l.map f) :
    ∃ pieces : List (List α), pieces.flatten = l ∧ cut = pieces.map (List.map f) := by
  induction cut generalizing l with
  | nil =>
    have hl : l = [] := List.map_eq_nil_iff.mp h.symm
    exact ⟨[], hl.symm, rfl⟩
  | cons piece cut ih =>
    rw [List.flatten_cons, eq_comm, List.map_eq_append_iff] at h
    obtain ⟨front, back, rfl, rfl, hback⟩ := h
    obtain ⟨pieces, rfl, rfl⟩ := ih hback.symm
    exact ⟨front :: pieces, rfl, rfl⟩

/-! ## What can be left of a text -/

/-- Each of the rests is a suffix of those before it. -/
def Nested (rests : List (List Char)) : Prop :=
  rests.Pairwise fun longer shorter => shorter <:+ longer

theorem mem_suffixes {rest text : List Char} : rest ∈ suffixes text ↔ rest <:+ text := by
  induction text with
  | nil => rw [suffixes, List.mem_singleton, List.suffix_nil]
  | cons c text ih => rw [suffixes, List.mem_cons, ih, List.suffix_cons_iff]

theorem nested_suffixes (text : List Char) : Nested (suffixes text) := by
  induction text with
  | nil => exact List.pairwise_singleton _ _
  | cons c text ih =>
    refine List.pairwise_cons.mpr ⟨?_, ih⟩
    intro rest hrest
    exact (mem_suffixes.mp hrest).trans (List.suffix_cons c text)

theorem dropFirst?_eq_some_iff {ok : Char → Bool} {before rest : List Char} :
    dropFirst? ok before = some rest ↔ ∃ c, ok c = true ∧ before = c :: rest := by
  cases before with
  | nil => simp [dropFirst?]
  | cons c before =>
    rw [dropFirst?]
    split
    · rename_i hc
      constructor
      · intro h
        exact ⟨c, hc, by rw [Option.some.inj h]⟩
      · rintro ⟨d, -, h⟩
        rw [(List.cons.inj h).2]
    · rename_i hc
      constructor
      · intro h
        cases h
      · rintro ⟨d, hd, h⟩
        rw [(List.cons.inj h).1] at hc
        exact absurd hd hc

/-- Rests without their first characters are nested as before. -/
theorem Nested.filterMap_dropFirst? {rests : List (List Char)} (h : Nested rests)
    (ok : Char → Bool) : Nested (rests.filterMap (dropFirst? ok)) := by
  refine List.Pairwise.filterMap _ ?_ h
  intro longer shorter hsuffix longer' hlonger shorter' hshorter
  obtain ⟨c, -, rfl⟩ := dropFirst?_eq_some_iff.mp hlonger
  obtain ⟨d, -, rfl⟩ := dropFirst?_eq_some_iff.mp hshorter
  rcases List.suffix_cons_iff.mp hsuffix with heq | hsuffix
  · obtain ⟨-, rfl⟩ := List.cons.inj heq
    exact List.suffix_refl _
  · exact (List.suffix_cons d shorter').trans hsuffix

theorem Nested.rests {before : List (List Char)} (h : Nested before) (part : Part) :
    Nested (part.rests before) := by
  cases part with
  | anyRun =>
    cases before with
    | nil => exact .nil
    | cons longest before => exact nested_suffixes longest
  | anyOne => exact h.filterMap_dropFirst? _
  | literal c => exact h.filterMap_dropFirst? _

/-- A part leaves a rest if it takes the piece before it of something that was left before. -/
theorem mem_rests_iff {before : List (List Char)} (h : Nested before) {part : Part}
    {rest : List Char} :
    rest ∈ part.rests before ↔ ∃ piece, part.Takes piece ∧ piece ++ rest ∈ before := by
  cases part with
  | anyRun =>
    cases before with
    | nil => simp [Part.rests]
    | cons longest before =>
      rw [Part.rests, mem_suffixes]
      constructor
      · rintro ⟨piece, hpiece⟩
        exact ⟨piece, .anyRun piece, by rw [hpiece]; exact List.mem_cons_self⟩
      · -- what a run leaves of any of them is a suffix of the longest one too
        rintro ⟨piece, -, hmem⟩
        have hrest : rest <:+ piece ++ rest := List.suffix_append piece rest
        rcases List.mem_cons.mp hmem with hlongest | hmem
        · rwa [← hlongest]
        · exact hrest.trans ((List.pairwise_cons.mp h).1 _ hmem)
  | anyOne =>
    rw [Part.rests, List.mem_filterMap]
    constructor
    · rintro ⟨longer, hmem, hdrop⟩
      obtain ⟨c, -, rfl⟩ := dropFirst?_eq_some_iff.mp hdrop
      exact ⟨[c], .anyOne c, hmem⟩
    · rintro ⟨piece, htakes, hmem⟩
      cases htakes with
      | anyOne c => exact ⟨c :: rest, hmem, dropFirst?_eq_some_iff.mpr ⟨c, rfl, rfl⟩⟩
  | literal p =>
    rw [Part.rests, List.mem_filterMap]
    constructor
    · rintro ⟨longer, hmem, hdrop⟩
      obtain ⟨c, hc, rfl⟩ := dropFirst?_eq_some_iff.mp hdrop
      obtain rfl := of_decide_eq_true hc
      exact ⟨[c], .literal c, hmem⟩
    · rintro ⟨piece, htakes, hmem⟩
      cases htakes with
      | literal => exact ⟨p :: rest, hmem, dropFirst?_eq_some_iff.mpr ⟨p, decide_eq_true rfl, rfl⟩⟩

/-- Parts leave a rest if they take the pieces before it, in their order. -/
theorem mem_foldl_rests_iff {before : List (List Char)} (h : Nested before) {parts : List Part}
    {rest : List Char} :
    rest ∈ parts.foldl (fun rests part => part.rests rests) before ↔
      ∃ cut, List.Forall₂ Part.Takes parts cut ∧ cut.flatten ++ rest ∈ before := by
  -- on the parts, and what they leave stays nested, which is what a run needs
  induction parts generalizing before with
  | nil =>
    constructor
    · intro hmem
      exact ⟨[], .nil, hmem⟩
    · rintro ⟨cut, hcut, hmem⟩
      cases hcut
      exact hmem
  | cons part parts ih =>
    rw [List.foldl_cons, ih (h.rests part)]
    constructor
    · rintro ⟨cut, hcut, hmem⟩
      obtain ⟨piece, hpiece, hmem⟩ := (mem_rests_iff h).mp hmem
      exact ⟨piece :: cut, .cons hpiece hcut, by rwa [List.flatten_cons, List.append_assoc]⟩
    · rintro ⟨cut, hcut, hmem⟩
      cases hcut with
      | @cons _ piece _ cut hpiece hcut =>
        rw [List.flatten_cons, List.append_assoc] at hmem
        exact ⟨cut, hcut, (mem_rests_iff h).mpr ⟨piece, hpiece, hmem⟩⟩

theorem covers_iff {parts : List Part} {text : List Char} :
    covers parts text = true ↔ ∃ cut, List.Forall₂ Part.Takes parts cut ∧ cut.flatten = text := by
  rw [covers, List.contains_iff_mem, mem_foldl_rests_iff (List.pairwise_singleton _ _)]
  simp only [List.append_nil, List.mem_singleton]

/-- The folded parts of a pattern cover a folded text if the text follows the pattern. -/
theorem covers_fold_iff (pattern text : String) :
    covers ((parts pattern).map Part.fold) (text.toList.map foldCase) = true ↔
      Follows pattern text := by
  rw [covers_iff]
  constructor
  · rintro ⟨cut, hcut, htext⟩
    obtain ⟨pieces, hpieces, rfl⟩ := exists_of_flatten_eq_map htext
    rw [parts, List.map_map, List.forall₂_map_left_iff, List.forall₂_map_right_iff] at hcut
    exact ⟨pieces, hpieces, hcut.imp fun _ _ => takes_fold_iff.mp⟩
  · rintro ⟨pieces, hpieces, hcut⟩
    refine ⟨pieces.map (List.map foldCase), ?_, ?_⟩
    · rw [parts, List.map_map, List.forall₂_map_left_iff, List.forall₂_map_right_iff]
      exact hcut.imp fun _ _ => takes_fold_iff.mpr
    · rw [← hpieces, List.map_flatten]

end Like

/-- Whatever patterns are accepted, a text matches one of them exactly if it can be cut to follow it, and no text
matches any other. -/
theorem likeMatchesWhere_iff_follows (accepts : String → Bool) (pattern text : String) :
    likeMatchesWhere accepts pattern text = true ↔
      accepts pattern = true ∧ Like.Follows pattern text := by
  rw [likeMatchesWhere, Bool.and_eq_true, Like.covers_fold_iff]

/-- The Kelvin sign is a K up to case, and a line end is a character like any other. -/
example : likeMatches "a.%_k" "A.\n\u212a" = true := by decide +kernel

end RecordFilter
