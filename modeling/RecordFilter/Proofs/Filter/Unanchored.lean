import Mathlib.Data.List.TakeWhile
import RecordFilter.Proofs.Filter.Extraction

/-!
# Patterns that do not say where they match

A pattern without a start and an end may match anywhere in a text. An operator takes such a match for an expression
only where it is the whole of it. So it is enough to know what the pattern matches at the start, and there a field
and a delimiter are followed by all that is left of the line.

* `Pattern.matchAt?_append_run`: a run at the end of a pattern takes all that it can.
* `Operator.unanchored` gives an operator a pattern that could match anywhere.
* `Operator.extract?_eq_none_of_search?`: no operator takes a part of an expression for the whole.
* `Spelling.matchAt?_unanchored_eq_some_iff` is its match at the start, `Spelling.extract?_unanchored_eq_some_iff`
  what it extracts.
* `Operator.unanchored_lte_means_whole` compares the operator with `lte`.
-/

namespace RecordFilter

/-! ## Runs at the end -/

namespace Pattern

/-- Where every rest of a run allows to go on, the least one counts. -/
theorem findSome?_rests {β : Type} (k : CharClass) (s : List Char) (finish : List Char → β) :
    (rests k s).findSome? (fun rest => some (finish rest)) = some (finish (s.dropWhile k.contains)) := by
  induction s with
  | nil => rfl
  | cons c s ih =>
    rw [rests]
    split
    · rename_i hc
      rw [List.findSome?_append, ih, Option.some_or, List.dropWhile_cons_of_pos hc]
    · rename_i hc
      rw [List.findSome?_singleton, List.dropWhile_cons_of_neg hc]

/-- Patterns in two rows are matched one row after the other. -/
theorem matchFrom?_all_append (whole : Nat) (ps qs : List Pattern) (s : List Char) (groups : Groups)
    (next : Next) :
    matchFrom? whole (all (ps ++ qs)) s groups next =
      matchFrom? whole (all ps) s groups fun rest inner => matchFrom? whole (all qs) rest inner next := by
  induction ps generalizing s groups with
  | nil => rfl
  | cons p ps ih =>
    show matchFrom? whole p s groups (fun rest inner => matchFrom? whole (all (ps ++ qs)) rest inner next) = _
    simp only [ih]
    rfl

/-- A pattern that matches in one way only goes on from there. -/
theorem matchFrom?_of_unique {whole : Nat} {p : Pattern} {s w : List Char} {groups kept : Groups}
    {next : Next} {found : Found} (h : Matches whole p s groups w kept)
    (hunique : ∀ w' kept', Matches whole p s groups w' kept' → w' = w ∧ kept' = kept)
    (hnext : next w kept = some found) : matchFrom? whole p s groups next = some found := by
  have hsome : (matchFrom? whole p s groups next).isSome :=
    exists_matchFrom?_of_matches h (by rw [hnext]; rfl)
  obtain ⟨found', hfound⟩ := Option.isSome_iff_exists.mp hsome
  obtain ⟨w', kept', hmatches, hnext'⟩ := exists_matches_of_matchFrom? hfound
  obtain ⟨rfl, rfl⟩ := hunique w' kept' hmatches
  rw [hfound, ← hnext', hnext]

/-- Where the last part of a pattern is a run, it goes as far as it can after a match of the parts before. -/
theorem matchAt?_append_run (whole : Nat) (ps : List Pattern) (n : Nat) (k : CharClass) (s : List Char) :
    (all (ps ++ [group n (run k)])).matchAt? whole s =
      matchFrom? whole (all ps) s [] fun w kept =>
        some ⟨(n, ⟨w, w.dropWhile k.contains⟩) :: kept, w.dropWhile k.contains⟩ := by
  have hrun (w : List Char) (kept : Groups) :
      matchFrom? whole (all [group n (run k)]) w kept (fun rest inner => some ⟨inner, rest⟩) =
        some ⟨(n, ⟨w, w.dropWhile k.contains⟩) :: kept, w.dropWhile k.contains⟩ :=
    (matchFrom?_run whole k w kept _).trans
      (findSome?_rests k w fun rest => Found.mk ((n, ⟨w, rest⟩) :: kept) rest)
  rw [matchAt?, matchFrom?_all_append]
  simp only [hrun]

end Pattern

/-! ## Operators without anchors -/

namespace Operator

/-- All characters but the line feed. -/
def lineClass : CharClass := .except ['\n']

/-- The operator with another pattern: a field, a delimiter and what is left of the line, wherever in a text. -/
def unanchored (op : Operator) (delimiter : String) : Operator :=
  { op with
    pattern := .all [.group 1 (.run1 fieldClass), .literal delimiter, .group 2 (.run lineClass)] }

/-- A run up to the end of a line takes all of a text that has no other line. -/
theorem dropWhile_lineClass_eq_nil_iff {w : List Char} :
    w.dropWhile lineClass.contains = [] ↔ '\n' ∉ w := by
  rw [List.dropWhile_eq_nil_iff]
  simp only [lineClass, OperandForm.contains_except_iff, List.mem_singleton]
  exact ⟨fun h hmem => h _ hmem rfl, fun h c hc heq => h (heq ▸ hc)⟩

/-- An expression of which the pattern finds a part first is not taken, whatever the operator. -/
theorem extract?_eq_none_of_search? {op : Operator} {token : String} {before : List Char}
    {found : Pattern.Found} (h : op.pattern.search? token.toList = some (before, found))
    (hpart : before ≠ [] ∨ found.rest ≠ []) : op.extract? token = none := by
  have hnot : ¬(before = [] ∧ found.rest = []) := by
    rintro ⟨hbefore, hrest⟩
    exact hpart.elim (· hbefore) (· hrest)
  rw [extract?, Pattern.whole?_eq_search?, h, Option.bind_some]
  simp only [if_neg hnot]
  rfl

end Operator

namespace Spelling

open Operator (lineClass)

/-- The operator of a spelling, without anchors. -/
def unanchored (sp : Spelling) : Operator :=
  sp.operator.unanchored (String.ofList sp.delimiter)

variable {sp : Spelling} {token : String}

/-- The match at the start of an expression is its field, the delimiter and what follows up to a line feed. -/
theorem matchAt?_unanchored_eq_some_iff (hsp : sp.Faithful) {found : Pattern.Found} :
    sp.unanchored.pattern.matchAt? token.toList.length token.toList = some found ↔
      ∃ w, Expression.field token ≠ "" ∧ Expression.tail token = sp.delimiter ++ w ∧
        found = ⟨[(2, ⟨w, w.dropWhile lineClass.contains⟩), (1, ⟨token.toList, sp.delimiter ++ w⟩)],
          w.dropWhile lineClass.contains⟩ := by
  have hmatch := Pattern.matchAt?_append_run token.toList.length
    [.group 1 (.run1 Operator.fieldClass), .literal (String.ofList sp.delimiter)] 2 lineClass token.toList
  simp only [List.cons_append, List.nil_append] at hmatch
  rw [unanchored, Operator.unanchored, hmatch]
  constructor
  · -- what is found is a match, and the head of a match is the field with the delimiter
    intro h
    obtain ⟨w, kept, hhead, hfound⟩ := Pattern.exists_matches_of_matchFrom? h
    obtain ⟨hfield, htail, rfl⟩ := (Expression.matches_head_iff _ hsp.delimiter).mp hhead
    cases hfound
    exact ⟨w, hfield, htail, rfl⟩
  · rintro ⟨w, hfield, htail, rfl⟩
    have hhead := (Expression.matches_head_iff token.toList.length hsp.delimiter).mpr
      ⟨hfield, htail, rfl⟩
    -- there is only one way to match the head, so the matcher finds it without going back
    refine Pattern.matchFrom?_of_unique hhead ?_ rfl
    intro w' kept' hhead'
    obtain ⟨-, htail', rfl⟩ := (Expression.matches_head_iff _ hsp.delimiter).mp hhead'
    obtain rfl : w = w' := List.append_cancel_left (htail.symm.trans htail')
    exact ⟨rfl, rfl⟩

/-- The first match is the whole expression where no line feed follows the delimiter. -/
theorem whole?_unanchored_eq_some_iff (hsp : sp.Faithful) {groups : Pattern.Groups} :
    sp.unanchored.pattern.whole? token.toList = some groups ↔
      ∃ w, Expression.field token ≠ "" ∧ Expression.tail token = sp.delimiter ++ w ∧ '\n' ∉ w ∧
        groups = [(2, ⟨w, []⟩), (1, ⟨token.toList, sp.delimiter ++ w⟩)] := by
  rw [Pattern.whole?, Option.bind_eq_some_iff]
  constructor
  · rintro ⟨found, hfound, hgroups⟩
    obtain ⟨w, hfield, htail, rfl⟩ := (matchAt?_unanchored_eq_some_iff hsp).mp hfound
    -- the rest is empty exactly if the run of the line has taken all that follows the delimiter
    split at hgroups
    · rename_i hrest
      cases hgroups
      simp only at hrest
      exact ⟨w, hfield, htail, Operator.dropWhile_lineClass_eq_nil_iff.mp hrest, by rw [hrest]⟩
    · cases hgroups
  · rintro ⟨w, hfield, htail, hw, rfl⟩
    refine ⟨_, (matchAt?_unanchored_eq_some_iff hsp).mpr ⟨w, hfield, htail, rfl⟩, ?_⟩
    rw [Operator.dropWhile_lineClass_eq_nil_iff.mpr hw]
    rfl

/-- No way to match the whole expression is missed. -/
theorem whole?_unanchored_of_matches (hsp : sp.Faithful) {groups : Pattern.Groups}
    (h : Pattern.Matches token.toList.length sp.unanchored.pattern token.toList [] [] groups) :
    sp.unanchored.pattern.whole? token.toList = some groups := by
  have hrows : Pattern.Matches token.toList.length
      (.all ([.group 1 (.run1 Operator.fieldClass), .literal (String.ofList sp.delimiter)] ++
        [.group 2 (.run lineClass)])) token.toList [] [] groups := h
  obtain ⟨w, _, hhead, _, _, ⟨_, ⟨taken, htaken, hline, rfl⟩, rfl⟩, rfl, rfl⟩ :=
    Pattern.matches_all_append_iff.mp hrows
  obtain ⟨hfield, htail, rfl⟩ := (Expression.matches_head_iff _ hsp.delimiter).mp hhead
  obtain rfl : w = taken := by simpa using htaken
  have hw : '\n' ∉ w :=
    Operator.dropWhile_lineClass_eq_nil_iff.mp (List.dropWhile_eq_nil_iff.mpr hline)
  exact (whole?_unanchored_eq_some_iff hsp).mpr ⟨w, hfield, htail, hw, rfl⟩

/-- A spelling with any operands reads all that follows its delimiter. -/
theorem reads_iff_of_any (hform : sp.form = .any) {tail : List Char} {v : Operand} :
    sp.Reads tail v ↔ ∃ w, tail = sp.delimiter ++ w ∧ v = .scalar (String.ofList w) := by
  rw [Reads, hform]
  constructor
  · rintro ⟨w, htail, haccepts⟩
    cases haccepts
    exact ⟨w, htail, rfl⟩
  · rintro ⟨w, htail, rfl⟩
    exact ⟨w, htail, .any w⟩

/-- What the operator reads in the groups of a match of the whole expression. -/
theorem reading_unanchored (hsp : sp.Faithful) (hform : sp.form = .any) {w : List Char}
    (htail : Expression.tail token = sp.delimiter ++ w) :
    let groups : Pattern.Groups := [(2, ⟨w, []⟩), (1, ⟨token.toList, sp.delimiter ++ w⟩)]
    ((groups.text? 1).bind fun field =>
        (Operator.operand? sp.operator.shape groups).map fun value => (field, value)) =
      some (Expression.field token, .scalar (String.ofList w)) := by
  intro groups
  have hshape : sp.operator.shape = .scalar := by rw [hsp.shape, hform]; rfl
  have hfield : groups.text? 1 = some (Expression.field token) :=
    (Pattern.text?_cons_of_ne (by decide) _ _).trans (Expression.text?_head htail)
  have hoperand : Operator.operand? .scalar groups = some (.scalar (String.ofList w)) := by
    simp [groups, Operator.operand?]
  rw [hfield, hshape, hoperand]
  rfl

/-- A field, the delimiter and a text of one line are an expression of the operator. -/
theorem extract?_unanchored (hsp : sp.Faithful) (hform : sp.form = .any) {w : List Char}
    (hfield : Expression.field token ≠ "") (htail : Expression.tail token = sp.delimiter ++ w)
    (hw : '\n' ∉ w) :
    sp.unanchored.extract? token = some (Expression.field token, .scalar (String.ofList w)) := by
  have hwhole := (whole?_unanchored_eq_some_iff hsp).mpr ⟨w, hfield, htail, hw, rfl⟩
  rw [Operator.extract?, hwhole, Option.bind_some]
  exact reading_unanchored hsp hform htail

/-- The operator extracts what its standard form does, and that only where no line feed follows the delimiter. -/
theorem extract?_unanchored_eq_some_iff (hsp : sp.Faithful) (hform : sp.form = .any) {name : String}
    {v : Operand} :
    sp.unanchored.extract? token = some (name, v) ↔
      sp.operator.extract? token = some (name, v) ∧
        ∃ w, Expression.tail token = sp.delimiter ++ w ∧ '\n' ∉ w := by
  rw [extract?_eq_some_iff hsp, reads_iff_of_any hform]
  constructor
  · intro h
    obtain ⟨groups, hwhole, hgroups⟩ := Option.bind_eq_some_iff.mp h
    obtain ⟨w, hfield, htail, hw, rfl⟩ := (whole?_unanchored_eq_some_iff hsp).mp hwhole
    cases (reading_unanchored hsp hform htail).symm.trans hgroups
    exact ⟨⟨rfl, hfield, w, htail, rfl⟩, w, htail, hw⟩
  · rintro ⟨⟨rfl, hfield, w, htail, rfl⟩, w', htail', hw⟩
    obtain rfl : w = w' := List.append_cancel_left (htail.symm.trans htail')
    exact extract?_unanchored hsp hform hfield htail hw

/-- A line feed of an expression follows the delimiter, since neither field nor delimiter has one. -/
theorem lineFeed_mem_iff (hdelimiter : '\n' ∉ sp.delimiter) {w : List Char}
    (htail : Expression.tail token = sp.delimiter ++ w) : '\n' ∈ token.toList ↔ '\n' ∈ w := by
  have hfield : '\n' ∉ (Expression.field token).toList :=
    fun hmem => absurd (Expression.isFieldChar_of_mem_field hmem) (by decide)
  rw [Expression.toList_eq_field_append_tail, htail, List.mem_append, List.mem_append]
  constructor
  · rintro (hmem | hmem | hmem)
    · exact absurd hmem hfield
    · exact absurd hmem hdelimiter
    · exact hmem
  · intro hmem
    exact Or.inr (Or.inr hmem)

theorem extract?_unanchored_of_not_mem (hsp : sp.Faithful) (hform : sp.form = .any)
    (hdelimiter : '\n' ∉ sp.delimiter) (h : '\n' ∉ token.toList) :
    sp.unanchored.extract? token = sp.operator.extract? token := by
  apply Option.ext
  rintro ⟨name, v⟩
  rw [extract?_unanchored_eq_some_iff hsp hform]
  refine ⟨fun hextract => hextract.1, fun hextract => ⟨hextract, ?_⟩⟩
  obtain ⟨-, -, w, htail, -⟩ := (extract?_eq_some_iff hsp).mp hextract
  exact ⟨w, htail, fun hw => h ((lineFeed_mem_iff hdelimiter htail).mpr hw)⟩

theorem extract?_unanchored_of_mem (hsp : sp.Faithful) (hform : sp.form = .any)
    (hdelimiter : '\n' ∉ sp.delimiter) (h : '\n' ∈ token.toList) :
    sp.unanchored.extract? token = none := by
  refine Option.eq_none_iff_forall_ne_some.mpr ?_
  rintro ⟨name, v⟩ hextract
  obtain ⟨-, w, htail, hw⟩ := (extract?_unanchored_eq_some_iff hsp hform).mp hextract
  exact hw ((lineFeed_mem_iff hdelimiter htail).mp h)

theorem extract?_unanchored_of_matches (hsp : sp.Faithful) (hform : sp.form = .any)
    {groups : Pattern.Groups}
    (h : Pattern.Matches token.toList.length sp.unanchored.pattern token.toList [] [] groups) :
    (sp.unanchored.extract? token).isSome = true := by
  have hwhole := whole?_unanchored_of_matches hsp h
  obtain ⟨w, hfield, htail, hw, -⟩ := (whole?_unanchored_eq_some_iff hsp).mp hwhole
  rw [extract?_unanchored hsp hform hfield htail hw]
  rfl

end Spelling

namespace Operator

/-- `field<=value`, anywhere in a text. -/
def unanchoredLte : Operator := lte.unanchored "<="

/-- An operator `field<=value` whose pattern has no anchors extracts from every expression of one line what `lte`
does, and nothing from any other. An expression of which the pattern finds a part first is not taken, and one that
the pattern can match as a whole is. -/
theorem unanchored_lte_means_whole (token : String) :
    ('\n' ∉ token.toList → unanchoredLte.extract? token = lte.extract? token) ∧
    ('\n' ∈ token.toList → unanchoredLte.extract? token = none) ∧
    (∀ before found, unanchoredLte.pattern.search? token.toList = some (before, found) →
      before ≠ [] ∨ found.rest ≠ [] → unanchoredLte.extract? token = none) ∧
    ∀ groups, Pattern.Matches token.toList.length unanchoredLte.pattern token.toList [] [] groups →
      (unanchoredLte.extract? token).isSome = true := by
  have hsp : Spelling.Faithful ⟨lte, ['<', '='], .any⟩ :=
    Spelling.faithful_of_mem_standard (by simp [Spelling.standard])
  have hdelimiter : '\n' ∉ ['<', '='] := by decide
  have hop : unanchoredLte = Spelling.unanchored ⟨lte, ['<', '='], .any⟩ := rfl
  rw [hop]
  exact ⟨Spelling.extract?_unanchored_of_not_mem hsp rfl hdelimiter,
    Spelling.extract?_unanchored_of_mem hsp rfl hdelimiter,
    fun _ _ => extract?_eq_none_of_search?,
    fun _ => Spelling.extract?_unanchored_of_matches hsp rfl⟩

/-- An operand may have the delimiter in it. In a text of two lines and in one with a mark in front of the field the
pattern finds a part, which is not taken. -/
theorem unanchored_lte_means_whole_parts :
    let groups : Pattern.Groups :=
      [(2, ⟨"1<=2".toList, []⟩), (1, ⟨"age<=1<=2".toList, "<=1<=2".toList⟩)]
    (Pattern.Matches "age<=1<=2".toList.length unanchoredLte.pattern "age<=1<=2".toList [] [] groups ∧
      (unanchoredLte.extract? "age<=1<=2").isSome = true) ∧
    ('\n' ∉ "age<=1<=2".toList ∧ unanchoredLte.extract? "age<=1<=2" = lte.extract? "age<=1<=2" ∧
      lte.extract? "age<=1<=2" = some ("age", .scalar "1<=2")) ∧
    ('\n' ∈ "age<=1\n2".toList ∧ unanchoredLte.extract? "age<=1\n2" = none ∧
      lte.extract? "age<=1\n2" = some ("age", .scalar "1\n2")) ∧
    ∃ found, unanchoredLte.pattern.search? "!age<=30".toList = some (['!'], found) ∧
      (['!'] ≠ [] ∨ found.rest ≠ []) ∧ unanchoredLte.extract? "!age<=30" = none := by
  intro groups
  obtain ⟨hsame, -, -, hmatched⟩ := unanchored_lte_means_whole "age<=1<=2"
  obtain ⟨-, hrefused, -⟩ := unanchored_lte_means_whole "age<=1\n2"
  obtain ⟨-, -, hpart, -⟩ := unanchored_lte_means_whole "!age<=30"
  have hwhole : unanchoredLte.pattern.whole? "age<=1<=2".toList = some groups := by decide +kernel
  have hmatches := Pattern.exists_matches_of_whole? hwhole
  have hone : '\n' ∉ "age<=1<=2".toList := by decide
  have htwo : '\n' ∈ "age<=1\n2".toList := by decide
  have hfound : unanchoredLte.pattern.search? "!age<=30".toList =
      some (['!'], ⟨[(2, ⟨"30".toList, []⟩), (1, ⟨"age<=30".toList, "<=30".toList⟩)], []⟩) := by
    decide +kernel
  exact ⟨⟨hmatches, hmatched groups hmatches⟩, ⟨hone, hsame hone, by decide +kernel⟩,
    ⟨htwo, hrefused htwo, by decide +kernel⟩, _, hfound, Or.inl (by decide),
    hpart _ _ hfound (Or.inl (by decide))⟩

end Operator

end RecordFilter
