import RecordFilter.Proofs.Filter.Extraction
import RecordFilter.Proofs.Filter.Registration

/-!
# The grammar of filter expressions

An expression is a field, a delimiter and operands. The standard registry tries its operators one after
the other; here its language is told at once, as a relation of what follows the field to the operator
and the operands that it means.

* `Expression.Means` is the grammar, with one rule an operator.
* `Registry.resolve?_eq_some_iff`: with strictly growing levels, the lowest operator that extracts an
  expression resolves it.
* `Registry.resolve?_standard_iff_means`: resolving by the standard registry is reading by the grammar.
-/

namespace RecordFilter

/-! ## The rules -/

/-- What follows a field means an operator and operands. The operands of `gt` and `lt` do not start with an
equals sign, those of `ne` and `eq` neither with a bracket nor with a brace. -/
inductive Expression.Means : List Char → Operator → Operand → Prop
  | gte (v : List Char) : Means ('>' :: '=' :: v) .gte (.scalar (String.ofList v))
  | lte (v : List Char) : Means ('<' :: '=' :: v) .lte (.scalar (String.ofList v))
  | gt (v : List Char) (sign : v.head? ≠ some '=') :
    Means ('>' :: v) .gt (.scalar (String.ofList v))
  | lt (v : List Char) (sign : v.head? ≠ some '=') :
    Means ('<' :: v) .lt (.scalar (String.ofList v))
  | between (low high : List Char) (hlow : IsNumeral low) (hhigh : IsNumeral high) :
    Means ('=' :: '[' :: (low ++ ';' :: (high ++ [']']))) .between
      (.range (String.ofList low) (String.ofList high))
  | notBetween (low high : List Char) (hlow : IsNumeral low) (hhigh : IsNumeral high) :
    Means ('!' :: '=' :: '[' :: (low ++ ';' :: (high ++ [']']))) .notBetween
      (.range (String.ofList low) (String.ofList high))
  | notIn (x : List Char) (hx : x ≠ []) :
    Means ('!' :: '=' :: '\x7b' :: (x ++ ['\x7d'])) .notIn (.list (pieces ';' (String.ofList x)))
  | like (v : List Char) : Means ('~' :: v) .like (.scalar (String.ofList v))
  | isIn (x : List Char) (hx : x ≠ []) :
    Means ('=' :: '\x7b' :: (x ++ ['\x7d'])) .isIn (.list (pieces ';' (String.ofList x)))
  | ne (v : List Char) (bracket : v.head? ≠ some '[') (brace : v.head? ≠ some '\x7b') :
    Means ('!' :: '=' :: v) .ne (.scalar (String.ofList v))
  | eq (v : List Char) (bracket : v.head? ≠ some '[') (brace : v.head? ≠ some '\x7b') :
    Means ('=' :: v) .eq (.scalar (String.ofList v))

/-! ## The lowest operator resolves -/

section

open FilterSyntax (level extract?)

theorem Registry.resolve?_eq_some_iff {ω : Type} [FilterSyntax ω] {r : Registry ω}
    (h : r.operators.Pairwise fun op op' => level op < level op') {token : String} {f : Filter ω} :
    r.resolve? token = some f ↔
      f.operator ∈ r.operators ∧ extract? f.operator token = some (f.field, f.value) ∧
        ∀ op ∈ r.operators, level op < level f.operator → extract? op token = none := by
  rw [resolve?_eq_some_iff_find?, List.find?_eq_some_iff_append]
  constructor
  · rintro ⟨⟨-, before, after, heq, hbefore⟩, hextract⟩
    refine ⟨by simp [heq], hextract, ?_⟩
    intro op hop hlevel
    rw [heq] at h hop
    rcases List.mem_append.mp hop with hop | hop
    · simpa using hbefore op hop
    · -- what is not before the operator has no lower level
      obtain ⟨-, hafter, -⟩ := List.pairwise_append.mp h
      rcases List.mem_cons.mp hop with rfl | hop
      · exact absurd hlevel (Nat.lt_irrefl _)
      · exact absurd hlevel (Nat.lt_asymm (List.rel_of_pairwise_cons hafter hop))
  · rintro ⟨hmem, hextract, hfirst⟩
    obtain ⟨before, after, heq⟩ := List.append_of_mem hmem
    -- of sorted operators the one that is found first is the one of the lowest level
    refine ⟨⟨by simp [hextract], before, after, heq, ?_⟩, hextract⟩
    intro op hop
    rw [heq] at h hfirst
    obtain ⟨-, -, hlower⟩ := List.pairwise_append.mp h
    have hnone : extract? op token = none :=
      hfirst op (List.mem_append_left _ hop) (hlower op hop _ List.mem_cons_self)
    simp [hnone]

end

theorem Operator.pairwise_level_standard :
    Operator.standard.Pairwise fun op op' => op.level < op'.level := by
  decide

/-! ## Rules and spellings -/

namespace Spelling

theorem level_lt_of_extends {op op' : Operator} (h : Extends op op') : op.level < op'.level := by
  rcases h with ⟨rfl, rfl⟩ | ⟨rfl, rfl⟩
  · decide
  · decide

/-- No spelling in the way: none of an operator that extends `op` reads the text. -/
def Free (op : Operator) (tail : List Char) : Prop :=
  ∀ sp ∈ standard, Extends sp.operator op → ∀ v, ¬sp.Reads tail v

theorem free_of_ne {op : Operator} (hgt : op ≠ .gt) (hlt : op ≠ .lt) (tail : List Char) :
    Free op tail := by
  rintro sp - (⟨-, h⟩ | ⟨-, h⟩)
  · exact absurd h hgt
  · exact absurd h hlt

theorem delimiter_of_extends : ∀ sp ∈ standard, ∀ sp' ∈ standard,
    Extends sp'.operator sp.operator → sp'.delimiter = sp.delimiter ++ ['='] := by
  decide

/-- Where no equals sign follows the delimiter, nothing is in the way. -/
theorem free_of_head {sp : Spelling} (h : sp ∈ standard) {v : List Char}
    (sign : v.head? ≠ some '=') : Free sp.operator (sp.delimiter ++ v) := by
  rintro sp' h' hext v' ⟨w, htail, -⟩
  rw [delimiter_of_extends sp h sp' h' hext, List.append_assoc] at htail
  rw [List.append_cancel_left htail] at sign
  exact sign rfl

theorem mem_operator_standard_iff {op : Operator} :
    op ∈ Operator.standard ↔ ∃ sp ∈ standard, sp.operator = op := by
  rw [← map_operator_standard, List.mem_map]

end Spelling

namespace Expression

open Spelling (standard Free)

/-- A rule reads what the spelling of its operator reads when nothing is in the way. -/
theorem means_iff {tail : List Char} {op : Operator} {v : Operand} :
    Means tail op v ↔
      ∃ sp ∈ standard, sp.operator = op ∧ sp.Reads tail v ∧ Free op tail := by
  have hlone (op : Operator) (h : op ≠ .gt ∧ op ≠ .lt) (tail : List Char) : Free op tail :=
    Spelling.free_of_ne h.1 h.2 tail
  constructor
  · intro h
    -- each rule has its spelling in the table, and only the bare signs have something in their way
    cases h with
    | gte v =>
      exact ⟨⟨.gte, ['>', '='], .any⟩, by simp [standard], rfl, ⟨v, rfl, .any v⟩,
        hlone _ (by decide) _⟩
    | lte v =>
      exact ⟨⟨.lte, ['<', '='], .any⟩, by simp [standard], rfl, ⟨v, rfl, .any v⟩,
        hlone _ (by decide) _⟩
    | gt v sign =>
      have hmem : (⟨.gt, ['>'], .any⟩ : Spelling) ∈ standard := by simp [standard]
      exact ⟨_, hmem, rfl, ⟨v, rfl, .any v⟩, Spelling.free_of_head hmem sign⟩
    | lt v sign =>
      have hmem : (⟨.lt, ['<'], .any⟩ : Spelling) ∈ standard := by simp [standard]
      exact ⟨_, hmem, rfl, ⟨v, rfl, .any v⟩, Spelling.free_of_head hmem sign⟩
    | between low high hlow hhigh =>
      exact ⟨⟨.between, ['='], .bounds⟩, by simp [standard], rfl,
        ⟨_, rfl, .bounds low high hlow hhigh⟩, hlone _ (by decide) _⟩
    | notBetween low high hlow hhigh =>
      exact ⟨⟨.notBetween, ['!', '='], .bounds⟩, by simp [standard], rfl,
        ⟨_, rfl, .bounds low high hlow hhigh⟩, hlone _ (by decide) _⟩
    | notIn x hx =>
      exact ⟨⟨.notIn, ['!', '='], .values⟩, by simp [standard], rfl,
        ⟨_, rfl, .values x hx⟩, hlone _ (by decide) _⟩
    | like v =>
      exact ⟨⟨.like, ['~'], .any⟩, by simp [standard], rfl, ⟨v, rfl, .any v⟩,
        hlone _ (by decide) _⟩
    | isIn x hx =>
      exact ⟨⟨.isIn, ['='], .values⟩, by simp [standard], rfl,
        ⟨_, rfl, .values x hx⟩, hlone _ (by decide) _⟩
    | ne v bracket brace =>
      exact ⟨⟨.ne, ['!', '='], .plain⟩, by simp [standard], rfl,
        ⟨v, rfl, .plain v bracket brace⟩, hlone _ (by decide) _⟩
    | eq v bracket brace =>
      exact ⟨⟨.eq, ['='], .plain⟩, by simp [standard], rfl,
        ⟨v, rfl, .plain v bracket brace⟩, hlone _ (by decide) _⟩
  · rintro ⟨sp, hsp, rfl, ⟨w, rfl, hw⟩, hfree⟩
    -- and the table has no spelling without a rule
    simp only [standard, List.mem_cons, List.not_mem_nil, or_false] at hsp
    rcases hsp with rfl | rfl | rfl | rfl | rfl | rfl | rfl | rfl | rfl | rfl | rfl
    · cases hw with | any => exact .gte w
    · cases hw with | any => exact .lte w
    · cases hw with
      | any =>
        refine .gt w ?_
        intro sign
        obtain ⟨w', rfl⟩ := List.head?_eq_some_iff.mp sign
        exact hfree ⟨.gte, ['>', '='], .any⟩ (by simp [standard]) (Or.inl ⟨rfl, rfl⟩) _
          ⟨w', rfl, .any w'⟩
    · cases hw with
      | any =>
        refine .lt w ?_
        intro sign
        obtain ⟨w', rfl⟩ := List.head?_eq_some_iff.mp sign
        exact hfree ⟨.lte, ['<', '='], .any⟩ (by simp [standard]) (Or.inr ⟨rfl, rfl⟩) _
          ⟨w', rfl, .any w'⟩
    · cases hw with | bounds low high hlow hhigh => exact .between low high hlow hhigh
    · cases hw with | bounds low high hlow hhigh => exact .notBetween low high hlow hhigh
    · cases hw with | values x hx => exact .notIn x hx
    · cases hw with | any => exact .like w
    · cases hw with | values x hx => exact .isIn x hx
    · cases hw with | plain _ bracket brace => exact .ne w bracket brace
    · cases hw with | plain _ bracket brace => exact .eq w bracket brace

end Expression

/-! ## Resolving is reading -/

namespace Registry

open Spelling (standard Free)

theorem resolve?_standard_of_means {token : String} {f : Filter}
    (hfield : f.field = Expression.field token) (hne : f.field ≠ "")
    (h : Expression.Means (Expression.tail token) f.operator f.value) :
    Registry.standard.resolve? token = some f := by
  obtain ⟨sp, hsp, hop, hreads, hfree⟩ := Expression.means_iff.mp h
  refine (resolve?_eq_some_iff Operator.pairwise_level_standard).mpr ⟨?_, ?_, ?_⟩
  · exact Spelling.mem_operator_standard_iff.mpr ⟨sp, hsp, hop⟩
  · rw [← hop]
    exact (Spelling.extract?_eq_some_iff (Spelling.faithful_of_mem_standard hsp)).mpr
      ⟨hfield, hne, hreads⟩
  · intro op hmem hlevel
    obtain ⟨sp', hsp', rfl⟩ := Spelling.mem_operator_standard_iff.mp hmem
    rw [Option.eq_none_iff_forall_ne_some]
    rintro ⟨name, v⟩ hextract
    obtain ⟨-, -, hreads'⟩ :=
      (Spelling.extract?_eq_some_iff (Spelling.faithful_of_mem_standard hsp')).mp hextract
    rw [← hop] at hlevel hfree
    -- the only operators of a lower level that read the text extend this one
    rcases Spelling.eq_or_extends_of_reads hsp hsp' hreads hreads' with heq | hext | hext
    · rw [heq] at hlevel
      exact Nat.lt_irrefl _ hlevel
    · exact Nat.lt_asymm hlevel (Spelling.level_lt_of_extends hext)
    · exact hfree sp' hsp' hext v hreads'

theorem means_of_resolve?_standard {token : String} {f : Filter}
    (h : Registry.standard.resolve? token = some f) :
    f.field = Expression.field token ∧ f.field ≠ "" ∧
      Expression.Means (Expression.tail token) f.operator f.value := by
  obtain ⟨hmem, hextract, hfirst⟩ :=
    (resolve?_eq_some_iff Operator.pairwise_level_standard).mp h
  obtain ⟨sp, hsp, hop⟩ := Spelling.mem_operator_standard_iff.mp hmem
  rw [← hop] at hextract
  obtain ⟨hfield, hne, hreads⟩ :=
    (Spelling.extract?_eq_some_iff (Spelling.faithful_of_mem_standard hsp)).mp hextract
  refine ⟨hfield, hne, Expression.means_iff.mpr ⟨sp, hsp, hop, hreads, ?_⟩⟩
  -- a spelling of a lower level that read the tail would have been found first
  intro sp' hsp' hext v' hreads'
  have hnone : sp'.operator.extract? token = none :=
    hfirst sp'.operator (Spelling.mem_operator_standard_iff.mpr ⟨sp', hsp', rfl⟩)
      (Spelling.level_lt_of_extends hext)
  have hsome :=
    (Spelling.extract?_eq_some_iff (Spelling.faithful_of_mem_standard hsp')).mpr
      ⟨hfield, hne, hreads'⟩
  rw [hnone] at hsome
  cases hsome

/-- The standard registry resolves an expression to a filter exactly if the grammar reads it so, and to
nothing where the field is empty or the grammar has no rule for what follows it. -/
theorem resolve?_standard_iff_means (token : String) :
    (∀ f : Filter, Registry.standard.resolve? token = some f ↔
      f.field = Expression.field token ∧ f.field ≠ "" ∧
        Expression.Means (Expression.tail token) f.operator f.value) ∧
    (Registry.standard.resolve? token = none ↔
      Expression.field token = "" ∨
        ∀ op v, ¬Expression.Means (Expression.tail token) op v) := by
  constructor
  · intro f
    constructor
    · exact means_of_resolve?_standard
    · rintro ⟨hfield, hne, hmeans⟩
      exact resolve?_standard_of_means hfield hne hmeans
  · constructor
    · intro hnone
      by_cases hfield : Expression.field token = ""
      · exact Or.inl hfield
      · -- a meaning would make the registry resolve the expression
        refine Or.inr ?_
        intro op v hmeans
        let f : Filter := ⟨Expression.field token, v, op⟩
        have hsome : Registry.standard.resolve? token = some f :=
          resolve?_standard_of_means rfl hfield hmeans
        rw [hnone] at hsome
        cases hsome
    · intro h
      rw [Option.eq_none_iff_forall_ne_some]
      intro f hf
      obtain ⟨hfield, hne, hmeans⟩ := means_of_resolve?_standard hf
      rcases h with hempty | hno
      · exact hne (hfield.trans hempty)
      · exact hno _ _ hmeans

end Registry

end RecordFilter
