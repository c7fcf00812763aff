import RecordFilter.Filter.Pattern

/-!
# What a pattern matches

The matcher goes from left to right with a continuation and tries the ways to match in an order of
preference. Here the ways are told without the order.

* `Pattern.Matches` says that a pattern matches a part of a text, and what it keeps.
* `exists_matches_of_matchFrom?` and `exists_matchFrom?_of_matches`: the matcher succeeds with a way
  to match, and it succeeds if there is one that its continuation accepts.
* `exists_matches_of_whole?` and `exists_whole?_of_matches` say the same of a whole text.
-/

namespace RecordFilter.Pattern

/-! ## Runs -/

/-- What a run can leave of a text. The least is first, and the text itself last. -/
def rests (k : CharClass) : List Char → List (List Char)
  | [] => [[]]
  | c :: s => if k.contains c then rests k s ++ [c :: s] else [c :: s]

/-- What is left when a run gives back the characters that it has taken. -/
def returned : List Char → List Char → List (List Char)
  | [], _ => []
  | c :: taken, s => (c :: s) :: returned taken (c :: s)

theorem giveBack?_eq_findSome? (groups : Groups) (next : Next) (taken s : List Char) :
    giveBack? groups next taken s = (s :: returned taken s).findSome? (next · groups) := by
  induction taken generalizing s with
  | nil =>
    simp only [giveBack?, returned, List.findSome?_cons, List.findSome?_nil]
    cases next s groups <;> rfl
  | cons c taken ih =>
    rw [giveBack?, List.findSome?_cons]
    cases next s groups with
    | some found => rfl
    | none => exact ih (c :: s)

theorem runFrom?_eq_findSome? (k : CharClass) (groups : Groups) (next : Next)
    (taken s : List Char) :
    runFrom? k groups next taken s =
      (rests k s ++ returned taken s).findSome? (next · groups) := by
  induction s generalizing taken with
  | nil => exact giveBack?_eq_findSome? groups next taken []
  | cons c s ih =>
    rw [runFrom?, rests]
    split
    · -- the character joins the run, and is the first to be given back
      rw [ih (c :: taken), returned, List.append_assoc, List.singleton_append]
    · rw [giveBack?_eq_findSome?, List.singleton_append]

/-- A run is followed by the first of its rests that allows it. -/
theorem matchFrom?_run (whole : Nat) (k : CharClass) (s : List Char) (groups : Groups)
    (next : Next) :
    matchFrom? whole (run k) s groups next = (rests k s).findSome? (next · groups) := by
  rw [matchFrom?, runFrom?_eq_findSome?, returned, List.append_nil]

theorem mem_rests_iff {k : CharClass} {s rest : List Char} :
    rest ∈ rests k s ↔ ∃ taken, s = taken ++ rest ∧ ∀ c ∈ taken, k.contains c = true := by
  -- the rests go from the longest run to the empty one, and the empty one is always there
  induction s with
  | nil =>
    constructor
    · intro h
      have hrest : rest = [] := by simpa [rests] using h
      exact ⟨[], by simp [hrest], by simp⟩
    · rintro ⟨taken, h, _⟩
      have hrest : rest = [] := (List.append_eq_nil_iff.mp h.symm).2
      simp [rests, hrest]
  | cons c s ih =>
    constructor
    · intro h
      rw [rests] at h
      split at h
      · rename_i hc
        rcases List.mem_append.mp h with h | h
        · obtain ⟨taken, hs, htaken⟩ := ih.mp h
          refine ⟨c :: taken, by simp [hs], ?_⟩
          intro d hd
          rcases List.mem_cons.mp hd with rfl | hd
          · exact hc
          · exact htaken d hd
        · exact ⟨[], by simp [List.mem_singleton.mp h], by simp⟩
      · exact ⟨[], by simp [List.mem_singleton.mp h], by simp⟩
    · rintro ⟨taken, hs, htaken⟩
      cases taken with
      | nil =>
        have hrest : rest = c :: s := by simpa using hs.symm
        rw [rests, hrest]
        split <;> simp
      | cons d taken =>
        obtain ⟨rfl, htail⟩ := List.cons.inj hs
        have hmem : rest ∈ rests k s :=
          ih.mpr ⟨taken, htail, fun e he => htaken e (by simp [he])⟩
        rw [rests, if_pos (htaken c (by simp))]
        exact List.mem_append_left _ hmem

/-! ## Ways to match -/

/-- A pattern matches the part of a text that is before `rest`, in a text of length `whole`, and keeps
`after` where `before` was kept. -/
def Matches (whole : Nat) : Pattern → List Char → Groups → List Char → Groups → Prop
  | nothing, s, before, rest, after => s = rest ∧ after = before
  | start, s, before, rest, after => s.length = whole ∧ s = rest ∧ after = before
  | stop, s, before, rest, after => s = [] ∧ rest = [] ∧ after = before
  | one k, s, before, rest, after => ∃ c, s = c :: rest ∧ k.contains c = true ∧ after = before
  | run k, s, before, rest, after =>
    ∃ taken, s = taken ++ rest ∧ (∀ c ∈ taken, k.contains c = true) ∧ after = before
  | group n p, s, before, rest, after =>
    ∃ inner, Matches whole p s before rest inner ∧ after = (n, ⟨s, rest⟩) :: inner
  | optional p, s, before, rest, after =>
    Matches whole p s before rest after ∨ (s = rest ∧ after = before)
  | seq p q, s, before, rest, after =>
    ∃ middle inner, Matches whole p s before middle inner ∧ Matches whole q middle inner rest after

/-- The matcher goes on from a way to match. -/
theorem exists_matches_of_matchFrom? {whole : Nat} {p : Pattern} {s : List Char} {groups : Groups}
    {next : Next} {found : Found} (h : matchFrom? whole p s groups next = some found) :
    ∃ rest after, Matches whole p s groups rest after ∧ next rest after = some found := by
  -- on the pattern, for every continuation, since a sequence runs its second half as one
  induction p generalizing s groups next with
  | nothing => exact ⟨s, groups, ⟨rfl, rfl⟩, h⟩
  | start =>
    rw [matchFrom?] at h
    split at h
    · rename_i hs
      exact ⟨s, groups, ⟨hs, rfl, rfl⟩, h⟩
    · cases h
  | stop =>
    rw [matchFrom?] at h
    split at h
    · rename_i hs
      subst hs
      exact ⟨[], groups, ⟨rfl, rfl, rfl⟩, h⟩
    · cases h
  | one k =>
    cases s with
    | nil => cases h
    | cons c s =>
      rw [matchFrom?] at h
      split at h
      · rename_i hc
        exact ⟨s, groups, ⟨c, rfl, hc, rfl⟩, h⟩
      · cases h
  | run k =>
    rw [matchFrom?_run] at h
    obtain ⟨rest, hmem, hnext⟩ := List.exists_of_findSome?_eq_some h
    obtain ⟨taken, hs, htaken⟩ := mem_rests_iff.mp hmem
    exact ⟨rest, groups, ⟨taken, hs, htaken, rfl⟩, hnext⟩
  | group n p ih =>
    obtain ⟨rest, inner, hp, hnext⟩ := ih h
    exact ⟨rest, (n, ⟨s, rest⟩) :: inner, ⟨inner, hp, rfl⟩, hnext⟩
  | optional p ih =>
    rw [matchFrom?] at h
    split at h
    · rename_i hp
      obtain ⟨rest, after, hmatch, hnext⟩ := ih (hp.trans h)
      exact ⟨rest, after, Or.inl hmatch, hnext⟩
    · exact ⟨s, groups, Or.inr ⟨rfl, rfl⟩, h⟩
  | seq p q ihp ihq =>
    obtain ⟨middle, inner, hp, hq⟩ := ihp h
    obtain ⟨rest, after, hq, hnext⟩ := ihq hq
    exact ⟨rest, after, ⟨middle, inner, hp, hq⟩, hnext⟩

/-- Where there is a way to match from which one can go on, the matcher does not fail. -/
theorem exists_matchFrom?_of_matches {whole : Nat} {p : Pattern} {s rest : List Char}
    {groups after : Groups} {next : Next} (h : Matches whole p s groups rest after)
    (hnext : (next rest after).isSome) : (matchFrom? whole p s groups next).isSome := by
  -- on the pattern again, and a continuation that does not fail is all that is carried through
  induction p generalizing s rest groups after next with
  | nothing =>
    obtain ⟨rfl, rfl⟩ := h
    exact hnext
  | start =>
    obtain ⟨hs, rfl, rfl⟩ := h
    rw [matchFrom?, if_pos hs]
    exact hnext
  | stop =>
    obtain ⟨rfl, rfl, rfl⟩ := h
    exact hnext
  | one k =>
    obtain ⟨c, rfl, hc, rfl⟩ := h
    simpa [matchFrom?, hc] using hnext
  | run k =>
    obtain ⟨taken, hs, htaken, rfl⟩ := h
    have hmem : rest ∈ rests k s := mem_rests_iff.mpr ⟨taken, hs, htaken⟩
    rw [matchFrom?_run, List.findSome?_isSome_iff]
    exact ⟨rest, hmem, hnext⟩
  | group n p ih =>
    obtain ⟨inner, hp, rfl⟩ := h
    exact ih hp hnext
  | optional p ih =>
    -- the matcher may take the optional part even where this way leaves it out, but it finds something
    rw [matchFrom?]
    split
    · rfl
    · rename_i hnone
      rcases h with hp | ⟨rfl, rfl⟩
      · have hsome : (matchFrom? whole p s groups next).isSome := ih hp hnext
        rw [hnone] at hsome
        cases hsome
      · exact hnext
  | seq p q ihp ihq =>
    obtain ⟨middle, inner, hp, hq⟩ := h
    exact ihp hp (ihq hq hnext)

/-! ## Whole texts -/

/-- What is kept of a whole text is kept by a way to match it. -/
theorem exists_matches_of_whole? {p : Pattern} {text : List Char} {groups : Groups}
    (h : p.whole? text = some groups) : Matches text.length p text [] [] groups := by
  rw [whole?] at h
  obtain ⟨found, hfound, hrest⟩ := Option.bind_eq_some_iff.mp h
  obtain ⟨rest, after, hmatch, hnext⟩ := exists_matches_of_matchFrom? hfound
  cases hnext
  split at hrest
  · rename_i hnil
    cases hrest
    rw [show rest = [] from hnil] at hmatch
    exact hmatch
  · cases hrest

/-- A pattern that leaves nothing however it matches keeps something of each text it can match. -/
theorem exists_whole?_of_matches {p : Pattern} {text rest : List Char} {groups : Groups}
    (hall : ∀ rest after, Matches text.length p text [] rest after → rest = [])
    (h : Matches text.length p text [] rest groups) : ∃ kept, p.whole? text = some kept := by
  have hsome : (p.matchAt? text.length text).isSome := exists_matchFrom?_of_matches h rfl
  obtain ⟨found, hfound⟩ := Option.isSome_iff_exists.mp hsome
  obtain ⟨rest, after, hmatch, hnext⟩ := exists_matches_of_matchFrom? hfound
  cases hnext
  refine ⟨after, ?_⟩
  rw [whole?, hfound, Option.bind_some, if_pos (hall rest after hmatch)]

/-! ## Texts and sequences -/

theorem matches_literal_iff {whole : Nat} {d : String} {s rest : List Char}
    {before after : Groups} :
    Matches whole (literal d) s before rest after ↔ s = d.toList ++ rest ∧ after = before := by
  rw [literal]
  -- a class of one character contains only this one, and the rest is the induction on the text
  induction d.toList generalizing s with
  | nil => exact Iff.rfl
  | cons c d ih =>
    constructor
    · rintro ⟨middle, inner, ⟨e, rfl, he, rfl⟩, hd⟩
      obtain ⟨rfl, rfl⟩ := ih.mp hd
      have hle : c ≤ e ∧ e ≤ c := by simpa [CharClass.contains, CharClass.only] using he
      have hec : e = c := Char.le_antisymm hle.2 hle.1
      exact ⟨by rw [hec]; rfl, rfl⟩
    · rintro ⟨rfl, rfl⟩
      have hc : (CharClass.only c).contains c = true := by
        simp [CharClass.contains, CharClass.only]
      exact ⟨d ++ rest, after, ⟨c, rfl, hc, rfl⟩, ih.mpr ⟨rfl, rfl⟩⟩

/-- Patterns in two rows match one row after the other. -/
theorem matches_all_append_iff {whole : Nat} {ps qs : List Pattern} {s rest : List Char}
    {before after : Groups} :
    Matches whole (all (ps ++ qs)) s before rest after ↔
      ∃ middle inner, Matches whole (all ps) s before middle inner ∧
        Matches whole (all qs) middle inner rest after := by
  -- on the first row, since a row is a nested sequence that ends in the empty pattern
  induction ps generalizing s before with
  | nil =>
    constructor
    · intro h
      exact ⟨s, before, ⟨rfl, rfl⟩, h⟩
    · rintro ⟨middle, inner, ⟨rfl, rfl⟩, h⟩
      exact h
  | cons p ps ih =>
    simp only [all, List.cons_append, List.foldr_cons, Matches] at ih ⊢
    constructor
    · rintro ⟨middle, inner, hp, hrow⟩
      obtain ⟨middle', inner', hps, hqs⟩ := ih.mp hrow
      exact ⟨middle', inner', ⟨middle, inner, hp, hps⟩, hqs⟩
    · rintro ⟨middle', inner', ⟨middle, inner, hp, hps⟩, hqs⟩
      exact ⟨middle, inner, hp, ih.mpr ⟨middle', inner', hps, hqs⟩⟩

/-- One or more characters of a class are a run that is not empty. -/
theorem matches_run1_iff {whole : Nat} {k : CharClass} {s rest : List Char}
    {before after : Groups} :
    Matches whole (run1 k) s before rest after ↔
      ∃ taken, taken ≠ [] ∧ s = taken ++ rest ∧ (∀ c ∈ taken, k.contains c = true) ∧
        after = before := by
  constructor
  · rintro ⟨middle, inner, ⟨c, rfl, hc, rfl⟩, taken, rfl, htaken, rfl⟩
    refine ⟨c :: taken, by simp, rfl, ?_, rfl⟩
    intro d hd
    rcases List.mem_cons.mp hd with rfl | hd
    · exact hc
    · exact htaken d hd
  · rintro ⟨taken, hne, rfl, htaken, rfl⟩
    cases taken with
    | nil => exact absurd rfl hne
    | cons c taken =>
      exact ⟨taken ++ rest, after, ⟨c, rfl, htaken c (by simp), rfl⟩, taken, rfl,
        fun d hd => htaken d (by simp [hd]), rfl⟩

theorem matches_literal_append (whole : Nat) (d : String) (rest : List Char) (groups : Groups) :
    Matches whole (literal d) (d.toList ++ rest) groups rest groups :=
  matches_literal_iff.mpr ⟨rfl, rfl⟩

theorem matches_run1_append (whole : Nat) {k : CharClass} {taken : List Char} (hne : taken ≠ [])
    (htaken : ∀ c ∈ taken, k.contains c = true) (rest : List Char) (groups : Groups) :
    Matches whole (run1 k) (taken ++ rest) groups rest groups :=
  matches_run1_iff.mpr ⟨taken, hne, rfl, htaken, rfl⟩

/-! ## What is kept -/

/-- A part of a text has the characters before its end. -/
@[simp] theorem text_span_append (taken rest : List Char) :
    Span.text ⟨taken ++ rest, rest⟩ = String.ofList taken := by
  simp [Span.text]

/-- What is kept up to the end of a text is all of it. -/
@[simp] theorem text_span_nil (taken : List Char) :
    Span.text ⟨taken, []⟩ = String.ofList taken := by
  simp [Span.text]

@[simp] theorem text?_cons_self (n : Nat) (span : Span) (groups : Groups) :
    Groups.text? ((n, span) :: groups) n = some span.text := by
  rw [Groups.text?, List.lookup_cons_self]
  rfl

theorem text?_cons_of_ne {n m : Nat} (h : m ≠ n) (span : Span) (groups : Groups) :
    Groups.text? ((n, span) :: groups) m = groups.text? m := by
  rw [Groups.text?, List.lookup_cons, beq_false_of_ne h]
  rfl

end RecordFilter.Pattern
