import RecordFilter.Proofs.Number.Shortest

/-!
# Numbers read back

The text of a number is a numeral that stands for the same number.

* `Numeral.Spells` says that a numeral has a sign, and a point or an exponent, and which magnitude it spells.
* `Layout.scan?_magnitude`: however a magnitude is laid out, the numeral that is read spells it.
* `Number.exists_isRead`: the text of a number is a numeral which stands for that number, after a sign where
  there is one. `Number.text_subset_chars` are the characters that it is made of.
-/

namespace RecordFilter

/-- Without the zeros at its end a decimal reads as the same magnitude. -/
theorem Decimal.units_trimmed (d : Decimal) :
    Binary64.ofDecimal (natOfDigits d.trimmed.1) d.trimmed.2 = d.units := by
  obtain ⟨k, hdigits, hexponent, -, -⟩ := d.trimmed_spec
  have hscale := Binary64.ofDecimal_mul_pow (natOfDigits d.trimmed.1) k d.trimmed.2
  have hless : d.trimmed.2 - k = d.exponent := by omega
  rw [← hscale, hless, ← hdigits]
  rfl

/-! ## Scanning numerals -/

namespace Numeral

/-- The magnitude that a numeral spells. -/
def units (n : Numeral) : Nat :=
  let fraction := n.fraction.getD []
  Binary64.ofDecimal (natOfDigits (n.whole ++ fraction)) (n.exponent.getD 0 - fraction.length)

/-- A numeral is that of a float with this sign and magnitude. -/
structure Spells (n : Numeral) (negative : Bool) (units : Nat) : Prop where
  negative_eq : n.negative = negative
  integer?_eq : n.integer? = none
  units_eq : n.units = units

theorem Spells.number?_eq {n : Numeral} {x : Binary64} (h : n.Spells x.negative x.units) :
    n.number? = some (.float x) := by
  obtain ⟨hnegative, hinteger, hunits⟩ := h
  have hfloat : n.float? = Binary64.ofUnits? n.negative n.units := rfl
  rw [number?, hinteger, hfloat, hnegative, hunits, Binary64.ofUnits?, dif_pos x.representable]
  rfl

/-- No digit stands first. -/
def EndsDigits (rest : List Char) : Prop :=
  ∀ c ∈ rest.head?, isDecimalDigit c = false

theorem endsDigits_nil : EndsDigits [] := by
  intro c hc
  cases hc

theorem takeWhile_digits {ds rest : List Char} (hds : ∀ c ∈ ds, isDecimalDigit c = true)
    (hrest : EndsDigits rest) :
    (ds ++ rest).takeWhile isDecimalDigit = ds ∧ (ds ++ rest).dropWhile isDecimalDigit = rest := by
  rw [List.takeWhile_append_of_pos hds, List.dropWhile_append_of_pos hds]
  cases rest with
  | nil => simp
  | cons c rest =>
    have hc : isDecimalDigit c = false := hrest c rfl
    simp [hc]

theorem scanWhole_append {c : Char} {ds rest : List Char} (hc : c ≠ '0')
    (hds : ∀ d ∈ c :: ds, isDecimalDigit d = true) (hrest : EndsDigits rest) :
    scanWhole (c :: ds ++ rest) = (c :: ds, rest) := by
  obtain ⟨htake, hdrop⟩ := takeWhile_digits hds hrest
  have hwhole : scanWhole (c :: ds ++ rest) = ((c :: ds ++ rest).takeWhile isDecimalDigit,
      (c :: ds ++ rest).dropWhile isDecimalDigit) := by
    rw [scanWhole]
    intro tail h
    exact hc (List.cons.inj h).1
  rw [hwhole, htake, hdrop]

theorem scanFraction_append {ds rest : List Char} (hds : ∀ c ∈ ds, isDecimalDigit c = true)
    (hrest : EndsDigits rest) : scanFraction ('.' :: (ds ++ rest)) = (some ds, rest) := by
  obtain ⟨htake, hdrop⟩ := takeWhile_digits hds hrest
  rw [scanFraction, htake, hdrop]

theorem scanFraction_point {ds : List Char} (hds : ∀ c ∈ ds, isDecimalDigit c = true) :
    scanFraction ('.' :: ds) = (some ds, []) := by
  simpa using scanFraction_append hds endsDigits_nil

theorem scanFraction_point_zero : scanFraction ['.', '0'] = (some ['0'], []) := rfl

/-- A numeral is scanned part by part. -/
theorem scan?_eq_some (bareEnds negative : Bool) {s s₁ s₂ rest whole : List Char}
    {fraction : Option (List Char)} {exponent : Option Int} (hwhole : scanWhole s = (whole, s₁))
    (hfraction : scanFraction s₁ = (fraction, s₂))
    (hexponent : scanExponent s₂ = some (exponent, rest)) (hne : whole ≠ [])
    (hpoint : fraction ≠ some []) :
    scan? bareEnds negative s = some (⟨negative, whole, fraction, exponent⟩, rest) := by
  have hformed : (if bareEnds then whole ≠ [] ∨ fraction.getD [] ≠ []
      else whole ≠ [] ∧ fraction ≠ some []) := by
    split
    · exact Or.inl hne
    · exact ⟨hne, hpoint⟩
  simp only [scan?, hwhole, hfraction, hexponent]
  rw [if_pos hformed]
  rfl

/-- The digits of a natural number are a numeral of their own. -/
theorem scan?_digitsOf (bareEnds negative : Bool) (n : Nat) :
    scan? bareEnds negative (Decimal.digitsOf n) =
      some (⟨negative, Decimal.digitsOf n, none, none⟩, []) := by
  have hwhole : scanWhole (Decimal.digitsOf n) = (Decimal.digitsOf n, []) := by
    rcases Nat.eq_zero_or_pos n with rfl | hpos
    · rfl
    · obtain ⟨c, ds, hcons⟩ := List.exists_cons_of_ne_nil (digitsOf_ne_nil n)
      have hc : c ≠ '0' := by
        rintro rfl
        exact head?_digitsOf_ne_zero hpos (by rw [hcons]; rfl)
      have hds : ∀ d ∈ c :: ds, isDecimalDigit d = true := by
        rw [← hcons]
        exact fun d => isDecimalDigit_of_mem_digitsOf
      simpa [hcons] using scanWhole_append hc hds endsDigits_nil
  exact scan?_eq_some _ _ hwhole rfl rfl (digitsOf_ne_nil n) (by simp)

end Numeral

/-! ## Layouts -/

namespace Layout

open Numeral

/-- The digits of a decimal that is laid out: there are some, and the first of them is not a zero. -/
structure Digits (ds : List Char) : Prop where
  all : ∀ c ∈ ds, isDecimalDigit c = true
  first : ∃ c rest, ds = c :: rest ∧ c ≠ '0'

theorem scanExponent_exponentText (e : Int) :
    scanExponent ('e' :: exponentText e) = some (some e, []) := by
  have hall : ∀ c ∈ Decimal.digitsOf e.natAbs, isDecimalDigit c = true :=
    fun c => isDecimalDigit_of_mem_digitsOf
  obtain ⟨htake, hdrop⟩ := takeWhile_digits hall endsDigits_nil
  rw [List.append_nil] at htake hdrop
  have hvalue := natOfDigits_digitsOf e.natAbs
  rw [exponentText]
  split
  · have habs : -(e.natAbs : Int) = e := by omega
    simp only [scanExponent, true_or, if_true, htake, hdrop, digitsOf_ne_nil, if_false, hvalue, habs]
  · have habs : (e.natAbs : Int) = e := by omega
    simp only [scanExponent, true_or, if_true, htake, hdrop, digitsOf_ne_nil, if_false, hvalue, habs]
    rfl

variable {ds : List Char}

/-- A magnitude below one: zeros stand between the point and the digits. -/
theorem scan?_positional_of_neg (hds : Digits ds) {lead : Int} (hlead : lead < 0)
    (bareEnds negative : Bool) :
    ∃ n, scan? bareEnds negative (positional ds lead) = some (n, []) ∧
      n.Spells negative (Binary64.ofDecimal (natOfDigits ds) (lead + 1 - ds.length)) := by
  -- the zeros are digits of the fraction like the others
  have hall : ∀ c ∈ List.replicate (-lead - 1).toNat '0' ++ ds, isDecimalDigit c = true := by
    intro c hc
    rcases List.mem_append.mp hc with hc | hc
    · rw [List.eq_of_mem_replicate hc]
      rfl
    · exact hds.all c hc
  have hne : List.replicate (-lead - 1).toNat '0' ++ ds ≠ [] := by
    obtain ⟨c, rest, rfl, -⟩ := hds.first
    simp
  have hwhole : scanWhole (positional ds lead) =
      (['0'], '.' :: (List.replicate (-lead - 1).toNat '0' ++ ds)) := by
    rw [positional, if_pos hlead]
    rfl
  have hscan := scan?_eq_some bareEnds negative hwhole
    (scanFraction_point hall) rfl (by simp) (by simpa using hne)
  -- they lengthen the fraction and count for nothing, which the exponent makes up for
  refine ⟨_, hscan, rfl, rfl, ?_⟩
  have hexponent : (0 : Int) - (List.replicate (-lead - 1).toNat '0' ++ ds).length =
      lead + 1 - ds.length := by
    rw [List.length_append, List.length_replicate]
    omega
  simp only [units, Option.getD_some, Option.getD_none, hexponent]
  rw [List.singleton_append, natOfDigits_zero_cons, natOfDigits_zeros_append]

/-- All digits stand before the point, with zeros up to it. -/
theorem scan?_positional_of_le (hds : Digits ds) {lead : Int} (hlead : 0 ≤ lead)
    (hlength : ds.length ≤ lead.toNat + 1) (bareEnds negative : Bool) :
    ∃ n, scan? bareEnds negative (positional ds lead) = some (n, []) ∧
      n.Spells negative (Binary64.ofDecimal (natOfDigits ds) (lead + 1 - ds.length)) := by
  obtain ⟨c, rest, hcons, hc⟩ := hds.first
  have hall : ∀ d ∈ c :: (rest ++ List.replicate (lead.toNat + 1 - ds.length) '0'),
      isDecimalDigit d = true := by
    intro d hd
    rw [← List.cons_append, ← hcons] at hd
    rcases List.mem_append.mp hd with hd | hd
    · exact hds.all d hd
    · rw [List.eq_of_mem_replicate hd]
      rfl
  have hwhole : scanWhole (positional ds lead) =
      (ds ++ List.replicate (lead.toNat + 1 - ds.length) '0', ['.', '0']) := by
    rw [positional, if_neg (by omega)]
    simp only [if_pos hlength, List.take_of_length_le hlength]
    rw [hcons] at hall ⊢
    exact scanWhole_append hc hall (by simp [EndsDigits, isDecimalDigit])
  have hscan := scan?_eq_some bareEnds negative hwhole scanFraction_point_zero rfl (by simp [hcons]) (by simp)
  refine ⟨_, hscan, rfl, rfl, ?_⟩
  -- the zeros and the one behind the point make up for the exponent
  have hzeros : List.replicate (lead.toNat + 1 - ds.length) '0' ++ ['0'] =
      List.replicate (lead.toNat + 1 - ds.length + 1) '0' := List.replicate_succ'.symm
  have hexponent : (0 : Int) - ['0'].length =
      lead + 1 - ds.length - (lead.toNat + 1 - ds.length + 1 : Nat) := by
    rw [List.length_singleton]
    omega
  simp only [units, Option.getD_some, Option.getD_none, hexponent]
  rw [List.append_assoc, hzeros, natOfDigits_append_zeros, Binary64.ofDecimal_mul_pow]

/-- The point stands between two digits. -/
theorem scan?_positional_of_lt (hds : Digits ds) {lead : Int} (hlead : 0 ≤ lead)
    (hlength : lead.toNat + 1 < ds.length) (bareEnds negative : Bool) :
    ∃ n, scan? bareEnds negative (positional ds lead) = some (n, []) ∧
      n.Spells negative (Binary64.ofDecimal (natOfDigits ds) (lead + 1 - ds.length)) := by
  obtain ⟨c, rest, hcons, hc⟩ := hds.first
  have hbefore : ∀ d ∈ ds.take (lead.toNat + 1), isDecimalDigit d = true :=
    fun d hd => hds.all d (List.mem_of_mem_take hd)
  have hafter : ∀ d ∈ ds.drop (lead.toNat + 1), isDecimalDigit d = true :=
    fun d hd => hds.all d (List.mem_of_mem_drop hd)
  have hwhole : scanWhole (positional ds lead) =
      (ds.take (lead.toNat + 1), '.' :: ds.drop (lead.toNat + 1)) := by
    have hzeros : lead.toNat + 1 - ds.length = 0 := by omega
    rw [positional, if_neg (by omega)]
    simp only [if_neg (Nat.not_le.mpr hlength), hzeros, List.replicate_zero, List.append_nil]
    rw [hcons, List.take_succ_cons] at hbefore ⊢
    exact scanWhole_append hc hbefore (by simp [EndsDigits, isDecimalDigit])
  -- the fraction is not empty, since the point stands before the last digit
  have hne : ds.drop (lead.toNat + 1) ≠ [] := by
    intro hnil
    have hle := List.drop_eq_nil_iff.mp hnil
    omega
  have hscan := scan?_eq_some bareEnds negative hwhole
    (scanFraction_point hafter) rfl (by simp [hcons]) (by simpa using hne)
  refine ⟨_, hscan, rfl, rfl, ?_⟩
  have hexponent : (0 : Int) - (ds.drop (lead.toNat + 1)).length = lead + 1 - ds.length := by
    rw [List.length_drop]
    omega
  simp only [units, Option.getD_some, Option.getD_none, hexponent, List.take_append_drop]

theorem scan?_scientific (hds : Digits ds) (lead : Int) (bareEnds negative : Bool) :
    ∃ n, scan? bareEnds negative (scientific ds lead) = some (n, []) ∧
      n.Spells negative (Binary64.ofDecimal (natOfDigits ds) (lead + 1 - ds.length)) := by
  obtain ⟨c, rest, rfl, hc⟩ := hds.first
  have hfirst : ∀ d ∈ [c], isDecimalDigit d = true := by
    intro d hd
    rw [List.mem_singleton.mp hd]
    exact hds.all c List.mem_cons_self
  have hrest : ∀ d ∈ rest, isDecimalDigit d = true := fun d hd => hds.all d (List.mem_cons_of_mem _ hd)
  have hstop : EndsDigits ('e' :: exponentText lead) := by simp [EndsDigits, isDecimalDigit]
  -- without a second digit no point is written
  cases rest with
  | nil =>
    have hwhole : scanWhole (scientific [c] lead) = ([c], 'e' :: exponentText lead) :=
      scanWhole_append hc hfirst hstop
    have hscan := scan?_eq_some bareEnds negative hwhole rfl
      (scanExponent_exponentText lead) (by simp) (by simp)
    refine ⟨_, hscan, rfl, rfl, ?_⟩
    have hexponent : lead - (0 : Nat) = lead + 1 - [c].length := by
      rw [List.length_singleton]
      omega
    simp only [units, Option.getD_some, Option.getD_none, List.append_nil, List.length_nil, hexponent]
  | cons d rest =>
    have hwhole : scanWhole (scientific (c :: d :: rest) lead) =
        ([c], '.' :: (d :: rest ++ 'e' :: exponentText lead)) :=
      scanWhole_append hc hfirst (by simp [EndsDigits, isDecimalDigit])
    have hscan := scan?_eq_some bareEnds negative hwhole
      (scanFraction_append hrest hstop) (scanExponent_exponentText lead) (by simp) (by simp)
    refine ⟨_, hscan, rfl, rfl, ?_⟩
    have hexponent : lead - (d :: rest).length = lead + 1 - (c :: d :: rest).length := by
      simp only [List.length_cons]
      omega
    simp only [units, Option.getD_some, List.singleton_append, hexponent]

/-- However a magnitude is laid out, the numeral that is read spells it. -/
theorem scan?_magnitude (layout : Layout) {u : Nat} (h : Binary64.Representable u)
    (bareEnds negative : Bool) :
    ∃ n, scan? bareEnds negative (layout.magnitude u) = some (n, []) ∧ n.Spells negative u := by
  rw [magnitude]
  split
  · rename_i hzero
    subst hzero
    have hwhole : scanWhole ['0', '.', '0'] = (['0'], ['.', '0']) := rfl
    have hscan := scan?_eq_some bareEnds negative hwhole scanFraction_point_zero rfl (by simp)
      (by simp)
    exact ⟨_, hscan, rfl, rfl, rfl⟩
  · rename_i hne
    have hunits := (Shortest.decimal u).units_trimmed
    rw [Shortest.units_decimal h hne] at hunits
    obtain ⟨k, hdigits, -, hfirst, hall⟩ := (Shortest.decimal u).trimmed_spec
    -- the decimal of a positive magnitude has a digit that is no zero
    have hpos : 0 < (Shortest.decimal u).digits := by
      refine Nat.pos_of_ne_zero ?_
      intro hzero
      have hunits := Shortest.units_decimal h hne
      rw [Decimal.units, hzero] at hunits
      exact hne hunits.symm
    generalize (Shortest.decimal u).trimmed = trimmed at hunits hfirst hall
    obtain ⟨ds, exponent⟩ := trimmed
    have hds : Digits ds := ⟨hall, hfirst hpos⟩
    have hexponent : exponent + ds.length - 1 + 1 - ds.length = exponent := by omega
    simp only at hunits ⊢
    rw [← hunits]
    generalize hlead : exponent + (ds.length : Int) - 1 = lead at hexponent ⊢
    rw [← hexponent]
    -- the layouts are those of `positional`, by where the point falls among the digits, and `scientific`
    split
    · rcases Int.lt_or_le lead 0 with hneg | hnonneg
      · exact scan?_positional_of_neg hds hneg bareEnds negative
      · rcases Nat.lt_or_ge (lead.toNat + 1) ds.length with hlt | hge
        · exact scan?_positional_of_lt hds hnonneg hlt bareEnds negative
        · exact scan?_positional_of_le hds hnonneg hge bareEnds negative
    · exact scan?_scientific hds lead bareEnds negative

end Layout

/-! ## Texts of numbers -/

theorem Numeral.exists_digit_of_scan? {negative : Bool} {s : List Char} {r : Numeral × List Char}
    (h : scan? false negative s = some r) :
    ∃ c rest, s = c :: rest ∧ isDecimalDigit c = true := by
  cases s with
  | nil => cases h
  | cons c rest =>
    refine ⟨c, rest, rfl, ?_⟩
    by_cases hzero : c = '0'
    · rw [hzero]
      rfl
    · -- without a digit in front there are none before the point
      by_contra hc
      have hwhole : (scanWhole (c :: rest)).1 = [] := by
        have hother : scanWhole (c :: rest) =
            ((c :: rest).takeWhile isDecimalDigit, (c :: rest).dropWhile isDecimalDigit) := by
          rw [scanWhole]
          intro tail heq
          exact hzero (List.cons.inj heq).1
        rw [hother, List.takeWhile_cons_of_neg hc]
      simp only [scan?, hwhole] at h
      simp at h

theorem Numeral.integer?_of_whole (negative : Bool) (whole : List Char) :
    (⟨negative, whole, none, none⟩ : Numeral).integer? =
      some (if negative then -(natOfDigits whole : Int) else natOfDigits whole) := rfl

theorem Numeral.number?_of_integer? {m : Numeral} {n : WordInt} (h : m.integer? = some n.val) :
    m.number? = some (.integer n) := by
  have hword : WordInt.ofInt? n.val = some n := dif_pos n.fits
  rw [number?, h, Option.bind_some, hword]

namespace Number

/-- The text of a number is a numeral which stands for that number, after a sign where there is one. -/
structure IsRead (n : Number) (negative : Bool) (numeral : List Char) : Prop where
  text_eq : n.text = if negative then '-' :: numeral else numeral
  digit : ∃ c rest, numeral = c :: rest ∧ isDecimalDigit c = true
  scan : ∃ m, Numeral.scan? true negative numeral = some (m, []) ∧ m.number? = some n

theorem isRead_integer (n : WordInt) :
    IsRead (.integer n) (n.val < 0) (Decimal.digitsOf n.val.natAbs) where
  text_eq := by simp only [text, integerText, decide_eq_true_eq]
  digit := by
    obtain ⟨c, rest, hdigits⟩ := List.exists_cons_of_ne_nil (digitsOf_ne_nil n.val.natAbs)
    refine ⟨c, rest, hdigits, ?_⟩
    apply isDecimalDigit_of_mem_digitsOf
    rw [hdigits]
    exact List.mem_cons_self
  scan := by
    refine ⟨_, Numeral.scan?_digitsOf true _ n.val.natAbs, Numeral.number?_of_integer? ?_⟩
    -- the sign stands apart, so the digits are those of the absolute value
    rw [Numeral.integer?_of_whole, natOfDigits_digitsOf]
    split
    · rename_i hneg
      have hneg : n.val < 0 := of_decide_eq_true hneg
      rw [Int.ofNat_natAbs_of_nonpos (Int.le_of_lt hneg), Int.neg_neg]
    · rename_i hneg
      have hnonneg : 0 ≤ n.val := Int.not_lt.mp fun h => hneg (decide_eq_true h)
      rw [Int.natAbs_of_nonneg hnonneg]

theorem isRead_float (x : Binary64) :
    IsRead (.float x) x.negative (layout.magnitude x.units) where
  text_eq := by
    rw [text, Layout.write]
    cases x.negative with
    | false => rfl
    | true => rfl
  digit := by
    obtain ⟨m, hscan, -⟩ := layout.scan?_magnitude x.representable false x.negative
    exact Numeral.exists_digit_of_scan? hscan
  scan := by
    obtain ⟨m, hscan, hspells⟩ := layout.scan?_magnitude x.representable true x.negative
    exact ⟨m, hscan, hspells.number?_eq⟩

theorem exists_isRead (n : Number) : ∃ negative numeral, n.IsRead negative numeral := by
  cases n with
  | integer n => exact ⟨_, _, isRead_integer n⟩
  | float x => exact ⟨_, _, isRead_float x⟩

theorem text_ne_nil (n : Number) : n.text ≠ [] := by
  obtain ⟨negative, numeral, htext, ⟨c, rest, hnumeral, -⟩, -⟩ := n.exists_isRead
  rw [htext, hnumeral]
  split
  · exact List.cons_ne_nil _ _
  · exact List.cons_ne_nil _ _

/-! ### Characters -/

/-- The characters of texts of numbers. -/
def chars : List Char := "0123456789+-.e".toList

theorem mem_chars_of_isDecimalDigit {c : Char} (h : isDecimalDigit c = true) : c ∈ chars := by
  have hrange : '0' ≤ c ∧ c ≤ '9' := by simpa [isDecimalDigit] using h
  have hdigits : ∀ m < 10, Char.ofNat (48 + m) ∈ chars := by decide
  have hlow : 48 ≤ c.toNat := hrange.1
  have hhigh : c.toNat ≤ 57 := hrange.2
  have hc := hdigits (c.toNat - 48) (by omega)
  rwa [Nat.add_sub_cancel' hlow, Char.ofNat_toNat] at hc

theorem digitsOf_subset_chars (n : Nat) : Decimal.digitsOf n ⊆ chars :=
  fun _ hc => mem_chars_of_isDecimalDigit (isDecimalDigit_of_mem_digitsOf hc)

theorem replicate_zero_subset_chars (k : Nat) : List.replicate k '0' ⊆ chars := by
  intro c hc
  rw [List.eq_of_mem_replicate hc]
  decide

theorem positional_subset_chars {ds : List Char} (hds : ds ⊆ chars) (lead : Int) :
    Layout.positional ds lead ⊆ chars := by
  have hzero : '0' ∈ chars := by decide
  have hpoint : '.' ∈ chars := by decide
  rw [Layout.positional]
  split
  · refine List.cons_subset.mpr ⟨hzero, List.cons_subset.mpr ⟨hpoint, ?_⟩⟩
    exact List.append_subset.mpr ⟨replicate_zero_subset_chars _, hds⟩
  · refine List.append_subset.mpr ⟨List.append_subset.mpr ⟨?_, replicate_zero_subset_chars _⟩, ?_⟩
    · exact List.Subset.trans (List.take_subset _ _) hds
    · refine List.cons_subset.mpr ⟨hpoint, ?_⟩
      split
      · exact List.cons_subset.mpr ⟨hzero, List.nil_subset _⟩
      · exact List.Subset.trans (List.drop_subset _ _) hds

theorem scientific_subset_chars {ds : List Char} (hds : ds ⊆ chars) (lead : Int) :
    Layout.scientific ds lead ⊆ chars := by
  have hpoint : '.' ∈ chars := by decide
  have hmark : 'e' ∈ chars := by decide
  have hsign : (if lead < 0 then '-' else '+') ∈ chars := by
    split
    · decide
    · decide
  refine List.append_subset.mpr ⟨List.append_subset.mpr ⟨?_, ?_⟩, ?_⟩
  · exact List.Subset.trans (List.take_subset _ _) hds
  · split
    · exact List.nil_subset _
    · exact List.cons_subset.mpr ⟨hpoint, List.Subset.trans (List.drop_subset _ _) hds⟩
  · exact List.cons_subset.mpr ⟨hmark, List.cons_subset.mpr ⟨hsign, digitsOf_subset_chars _⟩⟩

theorem magnitude_subset_chars (layout : Layout) (u : Nat) : layout.magnitude u ⊆ chars := by
  obtain ⟨k, -, -, -, hall⟩ := (Shortest.decimal u).trimmed_spec
  have hds : (Shortest.decimal u).trimmed.1 ⊆ chars :=
    fun c hc => mem_chars_of_isDecimalDigit (hall c hc)
  rw [Layout.magnitude]
  split
  · decide
  · simp only
    split
    · exact positional_subset_chars hds _
    · exact scientific_subset_chars hds _

theorem text_subset_chars (n : Number) : n.text ⊆ chars := by
  have hsign : '-' ∈ chars := by decide
  cases n with
  | integer n =>
    rw [text, integerText]
    split
    · exact List.cons_subset.mpr ⟨hsign, digitsOf_subset_chars _⟩
    · exact digitsOf_subset_chars _
  | float x =>
    rw [text, Layout.write]
    refine List.append_subset.mpr ⟨?_, magnitude_subset_chars _ _⟩
    split
    · exact List.cons_subset.mpr ⟨hsign, List.nil_subset _⟩
    · exact List.nil_subset _

end Number

end RecordFilter
