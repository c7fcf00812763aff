import RecordFilter.Json.Json5
import RecordFilter.Json.Printer
import RecordFilter.Proofs.Number.Reading

/-!
# Printed scalars in JSON5

What is printed for a scalar is JSON5 for the same scalar, whatever its characters are.

* `Json5.value?_text`, `value?_null` and `value?_boolText` read what stands without quotes.
* `Json5.text?_flatMap_escapeChar` reads what stands between quotes.
-/

namespace RecordFilter

/-! ## Codes of characters -/

theorem TextUnit.ofCode_toNat (c : Char) : TextUnit.ofCode c.toNat = .char c := by
  have hvalid : c.toNat.isValidChar := c.valid
  rw [ofCode, charOfCode?, if_pos hvalid, Char.ofNat_toNat]

/-- A code below 32 is written by two zeros and two digits. -/
theorem hexNat?_control : ∀ n < 32,
    hexNat? ['0', '0', hexDigit (n / 16), hexDigit (n % 16)] = some n := by
  decide

theorem joinSurrogates_map_char (s : List Char) : joinSurrogates (s.map .char) = some s := by
  induction s with
  | nil => rfl
  | cons c s ih => rw [List.map_cons, joinSurrogates, ih, Option.map_some]

namespace Json.Json5

/-! ## Bare runs -/

/-- A text of these characters is no word that has another one. -/
theorem ne_of_subset_chars {run word : List Char} (h : run ⊆ Number.chars) {d : Char}
    (hd : d ∈ word) (hother : d ∉ Number.chars) : run ≠ word := by
  rintro rfl
  exact hother (h hd)

theorem unsigned?_of_scan? {negative : Bool} {run : List Char} {m : Numeral} {n : Number}
    (hrun : run ⊆ Number.chars) (hscan : Numeral.scan? true negative run = some (m, []))
    (hn : m.number? = some n) : unsigned? negative run = some (.number n) := by
  have hinfinity : run ≠ "Infinity".toList :=
    ne_of_subset_chars hrun (d := 'I') (by decide) (by decide)
  have hnan : run ≠ "NaN".toList := ne_of_subset_chars hrun (d := 'N') (by decide) (by decide)
  unfold unsigned?
  rw [if_neg (not_or.mpr ⟨hinfinity, hnan⟩)]
  -- nor does a digit of another base follow
  split
  · exact absurd rfl (ne_of_subset_chars hrun (d := 'x') (by simp) (by decide))
  · exact absurd rfl (ne_of_subset_chars hrun (d := 'X') (by simp) (by decide))
  · rw [hscan]
    simp only [hn, ofNumber?]

theorem value?_text (n : Number) : value? n.text = some (.number n) := by
  obtain ⟨negative, numeral, htext, ⟨c, rest, hnumeral, hc⟩, m, hscan, hn⟩ := n.exists_isRead
  have hchars := n.text_subset_chars
  have hnull : n.text ≠ "null".toList :=
    ne_of_subset_chars hchars (d := 'n') (by decide) (by decide)
  have htrue : n.text ≠ "true".toList :=
    ne_of_subset_chars hchars (d := 't') (by decide) (by decide)
  have hfalse : n.text ≠ "false".toList :=
    ne_of_subset_chars hchars (d := 'f') (by decide) (by decide)
  unfold value?
  rw [if_neg hnull, if_neg htrue, if_neg hfalse]
  cases negative with
  | true =>
    rw [if_pos rfl] at htext
    rw [htext] at hchars ⊢
    exact unsigned?_of_scan? (List.cons_subset.mp hchars).2 hscan hn
  | false =>
    rw [if_neg Bool.false_ne_true] at htext
    rw [htext] at hchars ⊢
    have hread := unsigned?_of_scan? hchars hscan hn
    have hminus : c ≠ '-' := by
      rintro rfl
      exact absurd hc (by decide)
    have hplus : c ≠ '+' := by
      rintro rfl
      exact absurd hc (by decide)
    subst hnumeral
    -- a digit is no sign
    split
    · rename_i h
      exact absurd (List.cons.inj h).1 hminus
    · rename_i h
      exact absurd (List.cons.inj h).1 hplus
    · exact hread

theorem value?_null : value? "null".toList = some .null := rfl

theorem value?_boolText (b : Bool) : value? (boolText b) = some (.bool b) := by
  cases b with
  | false => rfl
  | true => rfl

/-! ## Quoted strings -/

theorem units?_escapeChar (c : Char) (rest : List Char) :
    units? (escapeChar c ++ rest) = (units? rest).map (.char c :: ·) := by
  rw [escapeChar]
  split_ifs with h1 h2 h3 h4 h5 h6 h7 h8
  · simp [units?, h1, isLineEnd, escape?, isDecimalDigit]
  · simp [units?, h2, isLineEnd, escape?, isDecimalDigit]
  · simp [units?, h3, isLineEnd, escape?]
  · simp [units?, h4, isLineEnd, escape?]
  · simp [units?, h5, isLineEnd, escape?]
  · simp [units?, h6, isLineEnd, escape?]
  · simp [units?, h7, isLineEnd, escape?]
  · simp only [List.cons_append, List.nil_append, units?]
    rw [hexNat?_control c.toNat h8, Option.bind_some, TextUnit.ofCode_toNat]
  · simp [units?, h2, h3, h4]

theorem text?_flatMap_escapeChar (s : List Char) : text? (s.flatMap escapeChar) = some s := by
  have hunits : units? (s.flatMap escapeChar) = some (s.map .char) := by
    induction s with
    | nil => rfl
    | cons c s ih => rw [List.flatMap_cons, units?_escapeChar, ih, Option.map_some, List.map_cons]
  rw [text?, hunits, Option.bind_some, joinSurrogates_map_char]

end Json.Json5

end RecordFilter
