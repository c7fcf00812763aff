import RecordFilter.Filter.Standard
import RecordFilter.Proofs.Filter.Matching

/-!
# What the standard operators extract

A standard operator is spelled by a delimiter and a form of operands. What it extracts is told by these
two alone: the field is the longest run of field characters, the delimiter follows it, and the rest has
the form.

* `Expression.field` and `Expression.tail` cut an expression after its field.
* `OperandForm.Accepts` is a form of operands, told without patterns.
* `Spelling.extract?_eq_some_iff` says what an operator extracts, and `Spelling.eq_of_reads` that hardly
  two of them extract anything of one expression.
-/

namespace RecordFilter

/-! ## Fields -/

/-- A run before another character is the longest one. -/
theorem takeWhile_append_cons {p : Char → Bool} {run : List Char} {c : Char}
    (hrun : ∀ d ∈ run, p d = true) (hc : p c = false) (rest : List Char) :
    (run ++ c :: rest).takeWhile p = run ∧ (run ++ c :: rest).dropWhile p = c :: rest := by
  have hneg : ¬p c = true := by simp [hc]
  constructor
  · rw [List.takeWhile_append_of_pos hrun, List.takeWhile_cons_of_neg hneg, List.append_nil]
  · rw [List.dropWhile_append_of_pos hrun, List.dropWhile_cons_of_neg hneg]

namespace Expression

/-- Field names are made of ASCII letters and digits, points, underscores and hyphens. -/
def isFieldChar (c : Char) : Bool :=
  c.isAlphanum || c = '.' || c = '_' || c = '-'

/-- The field of an expression. -/
def field (token : String) : String :=
  String.ofList (token.toList.takeWhile isFieldChar)

/-- What follows the field of an expression. -/
def tail (token : String) : List Char :=
  token.toList.dropWhile isFieldChar

theorem contains_fieldClass (c : Char) :
    Operator.fieldClass.contains c = isFieldChar c := by
  have halphanum : c.isAlphanum =
      (decide ('A'.val ≤ c.val ∧ c.val ≤ 'Z'.val) ||
        decide ('a'.val ≤ c.val) && decide (c.val ≤ 'z'.val) ||
        decide ('0'.val ≤ c.val) && decide (c.val ≤ '9'.val)) := rfl
  rw [Bool.eq_iff_iff, isFieldChar, halphanum]
  simp only [CharClass.contains, Operator.fieldClass, List.any_cons, List.any_nil, Char.le_def]
  simp [Char.ext_iff, UInt32.le_iff_toNat_le, ← UInt32.toNat_inj]
  omega

/-- A run of field characters before another character is the field. -/
theorem field_and_tail {token : String} {name rest : List Char} {c : Char}
    (h : token.toList = name ++ c :: rest) (hname : ∀ d ∈ name, isFieldChar d = true)
    (hc : isFieldChar c = false) : field token = String.ofList name ∧ tail token = c :: rest := by
  have hcut := takeWhile_append_cons hname hc rest
  exact ⟨by rw [field, h, hcut.1], by rw [tail, h, hcut.2]⟩

/-- An expression is its field and what follows it. -/
theorem toList_eq_field_append_tail (token : String) :
    token.toList = (field token).toList ++ tail token := by
  rw [field, tail, String.toList_ofList, List.takeWhile_append_dropWhile]

theorem isFieldChar_of_mem_field {token : String} {c : Char} (h : c ∈ (field token).toList) :
    isFieldChar c = true := by
  rw [field, String.toList_ofList] at h
  exact List.all_eq_true.mp List.all_takeWhile c h

/-- A field and a delimiter match what an expression starts with in one way only: the field is the longest run of
field characters, and the delimiter follows it. -/
theorem matches_head_iff (whole : Nat) {token : String} {delimiter w : List Char} {after : Pattern.Groups}
    (hdelimiter : ∃ c rest, delimiter = c :: rest ∧ isFieldChar c = false) :
    Pattern.Matches whole
        (.all [.group 1 (.run1 Operator.fieldClass), .literal (String.ofList delimiter)])
        token.toList [] w after ↔
      field token ≠ "" ∧ tail token = delimiter ++ w ∧ after = [(1, ⟨token.toList, delimiter ++ w⟩)] := by
  constructor
  · rintro ⟨_, _, ⟨_, hfield, rfl⟩, _, _, hliteral, rfl, rfl⟩
    obtain ⟨name, hne, htoken, hname, rfl⟩ := Pattern.matches_run1_iff.mp hfield
    obtain ⟨rfl, rfl⟩ := Pattern.matches_literal_iff.mp hliteral
    -- no field character follows, so the run ends where the field of the expression does
    obtain ⟨c, rest, rfl, hc⟩ := hdelimiter
    rw [String.toList_ofList] at htoken ⊢
    simp only [contains_fieldClass] at hname
    obtain ⟨hcut, htail⟩ := field_and_tail htoken hname hc
    exact ⟨by rw [hcut]; simpa using hne, htail, rfl⟩
  · rintro ⟨hfield, htail, rfl⟩
    -- the other way round the run and the literal are matched where the expression is cut
    have hne : (field token).toList ≠ [] := by simpa using hfield
    have hclass : ∀ c ∈ (field token).toList, Operator.fieldClass.contains c = true :=
      fun c hc => (contains_fieldClass c).trans (isFieldChar_of_mem_field hc)
    have hrun := Pattern.matches_run1_append whole hne hclass (delimiter ++ w) []
    have hliteral := Pattern.matches_literal_append whole (String.ofList delimiter) w
      [(1, ⟨token.toList, delimiter ++ w⟩)]
    rw [← htail, ← toList_eq_field_append_tail, htail] at hrun
    rw [String.toList_ofList] at hliteral
    exact ⟨_, _, ⟨_, hrun, rfl⟩, _, _, hliteral, rfl, rfl⟩

/-- What is kept of the field is the field. -/
theorem text?_head {token : String} {rest : List Char} (h : tail token = rest) :
    Pattern.Groups.text? [(1, ⟨token.toList, rest⟩)] 1 = some (field token) := by
  rw [Pattern.text?_cons_self, toList_eq_field_append_tail token, h, Pattern.text_span_append,
    String.ofList_toList]

end Expression

/-! ## Forms of operands -/

/-- The forms that the operands of a standard operator have. -/
inductive OperandForm
  | any
  | plain
  | bounds
  | values
deriving DecidableEq, Repr

/-- One or more digits. -/
def IsNumeral (s : List Char) : Prop :=
  s ≠ [] ∧ ∀ c ∈ s, c.isDigit = true

namespace OperandForm

/-- The patterns of a form. -/
def patterns : OperandForm → List Pattern
  | any => Operator.anyText
  | plain => Operator.plainText
  | bounds => Operator.bounds
  | values => Operator.values

/-- How the operands of a form stand in the groups of its patterns. -/
def shape : OperandForm → OperandShape
  | any | plain => .scalar
  | bounds => .pair
  | values => .list

/-- A text has a form, and these are the operands that it spells. -/
inductive Accepts : OperandForm → List Char → Operand → Prop
  | any (v : List Char) : Accepts .any v (.scalar (String.ofList v))
  | plain (v : List Char) (bracket : v.head? ≠ some '[') (brace : v.head? ≠ some '\x7b') :
    Accepts .plain v (.scalar (String.ofList v))
  | bounds (low high : List Char) (hlow : IsNumeral low) (hhigh : IsNumeral high) :
    Accepts .bounds ('[' :: (low ++ ';' :: (high ++ [']'])))
      (.range (String.ofList low) (String.ofList high))
  | values (x : List Char) (hx : x ≠ []) :
    Accepts .values ('\x7b' :: (x ++ ['\x7d'])) (.list (pieces ';' (String.ofList x)))

/-- A text spells the operands of a form in one way. -/
theorem Accepts.unique {form : OperandForm} {w : List Char} {v v' : Operand}
    (h : form.Accepts w v) (h' : form.Accepts w v') : v = v' := by
  cases h with
  | any => cases h'; rfl
  | plain => cases h'; rfl
  | bounds low high hlow hhigh =>
    generalize hw : '[' :: (low ++ ';' :: (high ++ [']'])) = w at h'
    cases h' with
    | bounds low' high' hlow' hhigh' =>
      -- a numeral ends at the first character that is no digit
      have heq := (List.cons.inj hw).2
      have hl := takeWhile_append_cons hlow.2 (by decide : ';'.isDigit = false) (high ++ [']'])
      have hl' := takeWhile_append_cons hlow'.2 (by decide : ';'.isDigit = false) (high' ++ [']'])
      rw [heq] at hl
      have hlows : low = low' := hl.1.symm.trans hl'.1
      have hhighs : high = high' := by simpa using hl.2.symm.trans hl'.2
      rw [hlows, hhighs]
  | values x hx =>
    generalize hw : '\x7b' :: (x ++ ['\x7d']) = w at h'
    cases h' with
    | values x' hx' =>
      have hxx : x = x' := by simpa using hw
      rw [hxx]

/-! ### How the patterns of a form match up to the end -/

theorem contains_digitClass (c : Char) : Operator.digitClass.contains c = c.isDigit := by
  simp [CharClass.contains, Operator.digitClass, Char.isDigit, Char.le_def]

theorem contains_except_iff {cs : List Char} {c : Char} :
    (CharClass.except cs).contains c = true ↔ c ∉ cs := by
  have hany : ((cs.map fun d => (d, d)).any fun range => range.1 ≤ c && c ≤ range.2) = true ↔
      c ∈ cs := by
    simp only [List.any_map, List.any_eq_true, Function.comp_apply, Bool.and_eq_true,
      decide_eq_true_eq]
    constructor
    · rintro ⟨d, hd, hdc, hcd⟩
      rwa [Char.le_antisymm hcd hdc]
    · intro hc
      exact ⟨c, hc, Char.le_refl c, Char.le_refl c⟩
  rw [← hany]
  show (true != (cs.map fun d => (d, d)).any fun range => range.1 ≤ c && c ≤ range.2) = true ↔ _
  simp

section

variable {whole : Nat} {w : List Char} {before after : Pattern.Groups}

theorem matches_anyText_iff :
    Pattern.Matches whole (.all Operator.anyText) w before [] after ↔
      after = (2, ⟨w, []⟩) :: before := by
  constructor
  · rintro ⟨_, _, ⟨_, ⟨_, _, -, rfl⟩, rfl⟩, rfl, rfl⟩
    rfl
  · rintro rfl
    exact ⟨[], _, ⟨before, ⟨w, by simp, fun _ _ => rfl, rfl⟩, rfl⟩, rfl, rfl⟩

theorem matches_plainText_iff :
    Pattern.Matches whole (.all Operator.plainText) w before [] after ↔
      w.head? ≠ some '[' ∧ w.head? ≠ some '\x7b' ∧ after = (2, ⟨w, []⟩) :: before := by
  constructor
  · rintro ⟨_, _, ⟨_, ⟨_, _, ⟨c, rfl, hc, rfl⟩, taken, rfl, -, rfl⟩ | ⟨rfl, rfl⟩, rfl⟩, rfl, rfl⟩
    · -- with a first character it is neither a bracket nor a brace; without one there is nothing to exclude
      have hne := contains_except_iff.mp hc
      exact ⟨by rintro ⟨⟩; simp at hne, by rintro ⟨⟩; simp at hne, rfl⟩
    · exact ⟨by simp, by simp, rfl⟩
  · rintro ⟨hbracket, hbrace, rfl⟩
    refine ⟨[], _, ⟨before, ?_, rfl⟩, rfl, rfl⟩
    cases w with
    | nil => exact Or.inr ⟨rfl, rfl⟩
    | cons c w =>
      have hc : (CharClass.except ['[', '\x7b']).contains c = true :=
        contains_except_iff.mpr (by simpa using And.intro hbracket hbrace)
      exact Or.inl ⟨w, before, ⟨c, rfl, hc, rfl⟩, w, by simp, fun _ _ => rfl, rfl⟩

theorem matches_bounds_iff :
    Pattern.Matches whole (.all Operator.bounds) w before [] after ↔
      ∃ low high, IsNumeral low ∧ IsNumeral high ∧ w = '[' :: (low ++ ';' :: (high ++ [']'])) ∧
        after = (3, ⟨high ++ [']'], [']']⟩) ::
          (2, ⟨low ++ ';' :: (high ++ [']']), ';' :: (high ++ [']'])⟩) :: before := by
  constructor
  · -- five pieces in a row, each of which says what it takes from the text
    rintro ⟨_, _, hopen, _, _, ⟨_, hlow, rfl⟩, _, _, hsep, _, _, ⟨_, hhigh, rfl⟩, _, _, hclose,
      rfl, rfl⟩
    obtain ⟨rfl, rfl⟩ := Pattern.matches_literal_iff.mp hopen
    obtain ⟨low, hlow', rfl, hlows, rfl⟩ := Pattern.matches_run1_iff.mp hlow
    obtain ⟨rfl, rfl⟩ := Pattern.matches_literal_iff.mp hsep
    obtain ⟨high, hhigh', rfl, hhighs, rfl⟩ := Pattern.matches_run1_iff.mp hhigh
    obtain ⟨rfl, rfl⟩ := Pattern.matches_literal_iff.mp hclose
    simp only [contains_digitClass] at hlows hhighs
    exact ⟨low, high, ⟨hlow', hlows⟩, ⟨hhigh', hhighs⟩, rfl, rfl⟩
  · rintro ⟨low, high, hlow, hhigh, rfl, rfl⟩
    have hlows (c : Char) (hc : c ∈ low) := (contains_digitClass c).trans (hlow.2 c hc)
    have hhighs (c : Char) (hc : c ∈ high) := (contains_digitClass c).trans (hhigh.2 c hc)
    exact ⟨_, _, Pattern.matches_literal_append _ "[" _ _,
      _, _, ⟨_, Pattern.matches_run1_append _ hlow.1 hlows _ _, rfl⟩,
      _, _, Pattern.matches_literal_append _ ";" _ _,
      _, _, ⟨_, Pattern.matches_run1_append _ hhigh.1 hhighs _ _, rfl⟩,
      _, _, Pattern.matches_literal_append _ "]" _ _, rfl, rfl⟩

theorem matches_values_iff :
    Pattern.Matches whole (.all Operator.values) w before [] after ↔
      ∃ x, x ≠ [] ∧ w = '\x7b' :: (x ++ ['\x7d']) ∧
        after = (2, ⟨x ++ ['\x7d'], ['\x7d']⟩) :: before := by
  constructor
  · rintro ⟨_, _, hopen, _, _, ⟨_, hrun, rfl⟩, _, _, hclose, rfl, rfl⟩
    obtain ⟨rfl, rfl⟩ := Pattern.matches_literal_iff.mp hopen
    obtain ⟨x, hx, rfl, -, rfl⟩ := Pattern.matches_run1_iff.mp hrun
    obtain ⟨rfl, rfl⟩ := Pattern.matches_literal_iff.mp hclose
    exact ⟨x, hx, rfl, rfl⟩
  · rintro ⟨x, hx, rfl, rfl⟩
    exact ⟨_, _, Pattern.matches_literal_append _ "\x7b" _ _,
      _, _, ⟨_, Pattern.matches_run1_append _ hx (fun _ _ => rfl) _ _, rfl⟩,
      _, _, Pattern.matches_literal_append _ "\x7d" _ _, rfl, rfl⟩

end

/-- What the patterns of a form keep is what the form accepts. -/
theorem accepts_of_matches {whole : Nat} {form : OperandForm} {w rest : List Char}
    {before after : Pattern.Groups}
    (h : Pattern.Matches whole (.all (form.patterns ++ [.stop])) w before rest after) :
    rest = [] ∧ after.text? 1 = before.text? 1 ∧
      ∃ v, form.Accepts w v ∧ Operator.operand? form.shape after = some v := by
  obtain ⟨middle, inner, hform, hstop⟩ := Pattern.matches_all_append_iff.mp h
  obtain ⟨_, _, ⟨rfl, rfl, rfl⟩, rfl, rfl⟩ := hstop
  -- one case a form: what its pattern keeps in group 2, and in group 3 for bounds, is its operand
  cases form with
  | any =>
    obtain rfl := matches_anyText_iff.mp hform
    refine ⟨rfl, Pattern.text?_cons_of_ne (by decide) _ _, _, .any w, ?_⟩
    simp [Operator.operand?, shape]
  | plain =>
    obtain ⟨hbracket, hbrace, rfl⟩ := matches_plainText_iff.mp hform
    refine ⟨rfl, Pattern.text?_cons_of_ne (by decide) _ _, _, .plain w hbracket hbrace, ?_⟩
    simp [Operator.operand?, shape]
  | bounds =>
    obtain ⟨low, high, hlow, hhigh, rfl, rfl⟩ := matches_bounds_iff.mp hform
    refine ⟨rfl, ?_, _, .bounds low high hlow hhigh, ?_⟩
    · rw [Pattern.text?_cons_of_ne (by decide), Pattern.text?_cons_of_ne (by decide)]
    · simp [Operator.operand?, shape, Pattern.text?_cons_of_ne]
  | values =>
    obtain ⟨x, hx, rfl, rfl⟩ := matches_values_iff.mp hform
    refine ⟨rfl, Pattern.text?_cons_of_ne (by decide) _ _, _, .values x hx, ?_⟩
    simp [Operator.operand?, shape]

/-- What a form accepts its patterns match. -/
theorem matches_of_accepts (whole : Nat) {form : OperandForm} {w : List Char} {v : Operand}
    (h : form.Accepts w v) (before : Pattern.Groups) :
    ∃ after, Pattern.Matches whole (.all (form.patterns ++ [.stop])) w before [] after := by
  suffices hform : ∃ after, Pattern.Matches whole (.all form.patterns) w before [] after by
    obtain ⟨after, hform⟩ := hform
    exact ⟨after, Pattern.matches_all_append_iff.mpr
      ⟨[], after, hform, [], after, ⟨rfl, rfl, rfl⟩, rfl, rfl⟩⟩
  cases h with
  | any => exact ⟨_, matches_anyText_iff.mpr rfl⟩
  | plain _ hbracket hbrace => exact ⟨_, matches_plainText_iff.mpr ⟨hbracket, hbrace, rfl⟩⟩
  | bounds low high hlow hhigh =>
    exact ⟨_, matches_bounds_iff.mpr ⟨low, high, hlow, hhigh, rfl, rfl⟩⟩
  | values x hx => exact ⟨_, matches_values_iff.mpr ⟨x, hx, rfl, rfl⟩⟩

end OperandForm

/-! ## Spelled operators -/

/-- An operator with its delimiter and the form of its operands. -/
structure Spelling where
  operator : Operator
  delimiter : List Char
  form : OperandForm
deriving DecidableEq

namespace Spelling

/-- What follows the field is the delimiter and these operands. -/
def Reads (sp : Spelling) (tail : List Char) (v : Operand) : Prop :=
  ∃ w, tail = sp.delimiter ++ w ∧ sp.form.Accepts w v

/-- The operator has the pattern of its delimiter and form, and the delimiter ends the field. -/
structure Faithful (sp : Spelling) : Prop where
  pattern : sp.operator.pattern =
    Operator.syntaxPattern (String.ofList sp.delimiter) sp.form.patterns
  shape : sp.operator.shape = sp.form.shape
  delimiter : ∃ c rest, sp.delimiter = c :: rest ∧ Expression.isFieldChar c = false

/-- The spellings of the standard operators, in their order. -/
def standard : List Spelling :=
  [⟨.gte, ['>', '='], .any⟩, ⟨.lte, ['<', '='], .any⟩, ⟨.gt, ['>'], .any⟩, ⟨.lt, ['<'], .any⟩,
    ⟨.between, ['='], .bounds⟩, ⟨.notBetween, ['!', '='], .bounds⟩,
    ⟨.notIn, ['!', '='], .values⟩, ⟨.like, ['~'], .any⟩, ⟨.isIn, ['='], .values⟩,
    ⟨.ne, ['!', '='], .plain⟩, ⟨.eq, ['='], .plain⟩]

theorem map_operator_standard : standard.map operator = Operator.standard := rfl

theorem faithful_of_mem_standard {sp : Spelling} (h : sp ∈ standard) : sp.Faithful := by
  simp only [standard, List.mem_cons, List.not_mem_nil, or_false] at h
  rcases h with rfl | rfl | rfl | rfl | rfl | rfl | rfl | rfl | rfl | rfl | rfl
  all_goals exact ⟨rfl, rfl, _, _, rfl, by decide⟩

/-- What an expression keeps of its field and its operands determines what follows the field. -/
theorem Reads.unique {sp : Spelling} {tail : List Char} {v v' : Operand} (h : sp.Reads tail v)
    (h' : sp.Reads tail v') : v = v' := by
  obtain ⟨w, rfl, hw⟩ := h
  obtain ⟨w', heq, hw'⟩ := h'
  obtain rfl := List.append_cancel_left heq
  exact hw.unique hw'

/-- The pattern of a spelling matches nothing but whole expressions that are a field and what the
spelling reads. -/
theorem reads_of_matches {sp : Spelling} (hsp : sp.Faithful) {token : String} {rest : List Char}
    {after : Pattern.Groups}
    (h : Pattern.Matches token.toList.length sp.operator.pattern token.toList [] rest after) :
    rest = [] ∧ Expression.field token ≠ "" ∧
      after.text? 1 = some (Expression.field token) ∧
      ∃ v, sp.Reads (Expression.tail token) v ∧
        Operator.operand? sp.operator.shape after = some v := by
  rw [hsp.pattern, Operator.syntaxPattern, List.append_assoc] at h
  obtain ⟨w, _, ⟨_, _, ⟨-, rfl, rfl⟩, hhead⟩, hform⟩ := Pattern.matches_all_append_iff.mp h
  obtain ⟨hne, htail, rfl⟩ := (Expression.matches_head_iff _ hsp.delimiter).mp hhead
  obtain ⟨hrest, hkept, v, haccepts, hv⟩ := OperandForm.accepts_of_matches hform
  exact ⟨hrest, hne, hkept.trans (Expression.text?_head htail), v, ⟨w, htail, haccepts⟩,
    by rw [hsp.shape, hv]⟩

/-- The pattern of a spelling matches a field and what the spelling reads. -/
theorem matches_of_reads {sp : Spelling} (hsp : sp.Faithful) {token : String} {v : Operand}
    (hfield : Expression.field token ≠ "") (h : sp.Reads (Expression.tail token) v) :
    ∃ after, Pattern.Matches token.toList.length sp.operator.pattern token.toList [] [] after := by
  obtain ⟨w, htail, haccepts⟩ := h
  obtain ⟨after, hform⟩ := OperandForm.matches_of_accepts token.toList.length haccepts
    [(1, ⟨token.toList, sp.delimiter ++ w⟩)]
  have hhead := (Expression.matches_head_iff token.toList.length hsp.delimiter).mpr
    ⟨hfield, htail, rfl⟩
  refine ⟨after, ?_⟩
  rw [hsp.pattern, Operator.syntaxPattern, List.append_assoc]
  exact Pattern.matches_all_append_iff.mpr ⟨w, _, ⟨_, _, ⟨rfl, rfl, rfl⟩, hhead⟩, hform⟩

/-- An operator extracts the field of an expression and the operands that its spelling reads. -/
theorem extract?_eq_some_iff {sp : Spelling} (hsp : sp.Faithful) {token name : String}
    {v : Operand} :
    sp.operator.extract? token = some (name, v) ↔
      name = Expression.field token ∧ name ≠ "" ∧ sp.Reads (Expression.tail token) v := by
  constructor
  · intro h
    obtain ⟨groups, hwhole, hgroups⟩ := Option.bind_eq_some_iff.mp h
    obtain ⟨-, hne, hfield, v', hreads, hv'⟩ :=
      reads_of_matches hsp (Pattern.exists_matches_of_whole? hwhole)
    rw [hfield, hv'] at hgroups
    cases hgroups
    exact ⟨rfl, hne, hreads⟩
  · -- the engine finds some match, and any match reads the same operands
    rintro ⟨rfl, hne, hreads⟩
    obtain ⟨after, hmatches⟩ := matches_of_reads hsp hne hreads
    obtain ⟨groups, hwhole⟩ := Pattern.exists_whole?_of_matches
      (fun rest kept hall => (reads_of_matches hsp hall).1) hmatches
    obtain ⟨-, -, hfield, v', hreads', hv'⟩ :=
      reads_of_matches hsp (Pattern.exists_matches_of_whole? hwhole)
    obtain rfl := hreads.unique hreads'
    rw [Operator.extract?, hwhole, Option.bind_some, hfield, hv']
    rfl

/-! ### How the spellings exclude each other -/

/-- Forms after one delimiter: no text has two of them. -/
theorem form_eq_of_accepts {form form' : OperandForm} {w : List Char} {v v' : Operand}
    (hany : form ≠ .any) (hany' : form' ≠ .any) (h : form.Accepts w v)
    (h' : form'.Accepts w v') : form = form' := by
  -- the first character tells the three forms apart that can follow one delimiter
  cases h with
  | any => exact absurd rfl hany
  | plain _ hbracket hbrace =>
    cases h' with
    | any => exact absurd rfl hany'
    | plain => rfl
    | bounds => exact absurd rfl hbracket
    | values => exact absurd rfl hbrace
  | bounds low high =>
    generalize hw : '[' :: (low ++ ';' :: (high ++ [']'])) = w at h'
    cases h' with
    | any => exact absurd rfl hany'
    | plain _ hbracket hbrace => exact absurd (by rw [← hw]; rfl) hbracket
    | bounds => rfl
    | values => exact absurd (List.cons.inj hw).1 (by decide)
  | values x =>
    generalize hw : '\x7b' :: (x ++ ['\x7d']) = w at h'
    cases h' with
    | any => exact absurd rfl hany'
    | plain _ hbracket hbrace => exact absurd (by rw [← hw]; rfl) hbrace
    | bounds => exact absurd (List.cons.inj hw).1 (by decide)
    | values => rfl

/-- Two operators of which one starts all that the other one reads. -/
def Extends (op op' : Operator) : Prop :=
  (op = .gte ∧ op' = .gt) ∨ (op = .lte ∧ op' = .lt)

instance (op op' : Operator) : Decidable (Extends op op') :=
  inferInstanceAs (Decidable (_ ∨ _))

/-- A delimiter starts another one only where one operator extends the other; operators with one
delimiter have forms that exclude each other. -/
theorem delimiter_table : ∀ sp ∈ standard, ∀ sp' ∈ standard,
    sp.delimiter <+: sp'.delimiter →
      sp = sp' ∨ Extends sp'.operator sp.operator ∨
      (sp.delimiter = sp'.delimiter ∧ sp.form ≠ .any ∧ sp'.form ≠ .any ∧ sp.form ≠ sp'.form) := by
  decide

theorem eq_or_extends_of_prefix {sp sp' : Spelling} {tail : List Char} {v v' : Operand}
    (h : sp ∈ standard) (h' : sp' ∈ standard) (hreads : sp.Reads tail v)
    (hreads' : sp'.Reads tail v') (hle : sp.delimiter <+: sp'.delimiter) :
    sp = sp' ∨ Extends sp'.operator sp.operator := by
  rcases delimiter_table sp h sp' h' hle with heq | hext | ⟨hdelimiter, hany, hany', hne⟩
  · exact Or.inl heq
  · exact Or.inr hext
  · -- one delimiter: the same text would have two forms
    obtain ⟨w, rfl, hw⟩ := hreads
    obtain ⟨w', heq, hw'⟩ := hreads'
    rw [hdelimiter] at heq
    obtain rfl := List.append_cancel_left heq
    exact absurd (form_eq_of_accepts hany hany' hw hw') hne

/-- Two operators that read the same text are one, or one extends the other. -/
theorem eq_or_extends_of_reads {sp sp' : Spelling} {tail : List Char} {v v' : Operand}
    (h : sp ∈ standard) (h' : sp' ∈ standard) (hreads : sp.Reads tail v)
    (hreads' : sp'.Reads tail v') :
    sp = sp' ∨ Extends sp.operator sp'.operator ∨ Extends sp'.operator sp.operator := by
  have hprefix : sp.delimiter <+: tail := by
    obtain ⟨w, rfl, -⟩ := hreads
    exact List.prefix_append _ _
  have hprefix' : sp'.delimiter <+: tail := by
    obtain ⟨w, rfl, -⟩ := hreads'
    exact List.prefix_append _ _
  -- both delimiters start the same text, so one of them starts the other
  rcases List.prefix_or_prefix_of_prefix hprefix hprefix' with hle | hle
  · rcases eq_or_extends_of_prefix h h' hreads hreads' hle with heq | hext
    · exact Or.inl heq
    · exact Or.inr (Or.inr hext)
  · rcases eq_or_extends_of_prefix h' h hreads' hreads hle with heq | hext
    · exact Or.inl heq.symm
    · exact Or.inr (Or.inl hext)

end Spelling

end RecordFilter
