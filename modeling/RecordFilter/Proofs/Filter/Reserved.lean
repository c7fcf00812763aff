import RecordFilter.Proofs.Filter.Grammar
import RecordFilter.QueryString

/-!
# Reserved parameters as filters

A query string leaves out the pieces that assign a reserved parameter. Which pieces these are it tells by the text
before the first equals sign, wherever this sign is, while the field of a filter comes from the grammar. For
reserved names that could be fields the two readings agree.

* `QueryString.parameters` are the pieces of a query string before any is left out.
* `Expression.Means.exists_head` is the character at which the field ends.
* `QueryString.isReserved_iff`: an expression is reserved if its filter asks for equality on a reserved field.
* `QueryString.reserved_equalities_left_out`: these are the filters that a query string loses.
-/

namespace RecordFilter

/-! ## The end of a field -/

/-- The operators whose delimiter starts with an equals sign. -/
def Operator.equalities : List Operator := [.eq, .isIn, .between]

/-- A field ends at a character that no field has, which is an equals sign for these operators and not for any
other. -/
theorem Expression.Means.exists_head {tail : List Char} {op : Operator} {v : Operand}
    (h : Means tail op v) :
    ∃ c rest, tail = c :: rest ∧ isFieldChar c = false ∧ (c = '=' ↔ op ∈ Operator.equalities) := by
  cases h with
  | between | isIn | eq => exact ⟨'=', _, rfl, by decide, by decide⟩
  | notBetween | notIn | ne => exact ⟨'!', _, rfl, by decide, by decide⟩
  | gte | gt => exact ⟨'>', _, rfl, by decide, by decide⟩
  | lte | lt => exact ⟨'<', _, rfl, by decide, by decide⟩
  | like => exact ⟨'~', _, rfl, by decide, by decide⟩

namespace QueryString

open Expression (isFieldChar field tail)

theorem ne_equals_of_mem_field {token : String} {c : Char} (h : c ∈ (field token).toList) :
    c ≠ '=' := by
  rintro rfl
  exact absurd (Expression.isFieldChar_of_mem_field h) (by decide)

/-- Where an equals sign ends the field, the field is what stands before the first one. -/
theorem key_of_equals {token : String} {rest : List Char} (h : tail token = '=' :: rest) :
    key token = field token := by
  have hfield : ∀ c ∈ (field token).toList, decide (c ≠ '=') = true :=
    fun c hc => decide_eq_true (ne_equals_of_mem_field hc)
  rw [key, Expression.toList_eq_field_append_tail, h,
    (takeWhile_append_cons hfield (by decide) rest).1, String.ofList_toList]

/-- Where another character ends the field, this character stands before the first equals sign. -/
theorem mem_key_of_ne_equals {token : String} {c : Char} {rest : List Char}
    (h : tail token = c :: rest) (hc : c ≠ '=') : c ∈ (key token).toList := by
  have hfield : ∀ d ∈ (field token).toList, decide (d ≠ '=') = true :=
    fun d hd => decide_eq_true (ne_equals_of_mem_field hd)
  rw [key, String.toList_ofList, Expression.toList_eq_field_append_tail, h,
    List.takeWhile_append_of_pos hfield, List.takeWhile_cons_of_pos (by simpa using hc)]
  exact List.mem_append_right _ List.mem_cons_self

/-! ## Pieces -/

/-- The pieces of a query string, decoded and in their order, before any is left out. -/
def parameters (query : String) : List String :=
  ((pieces '&' (body query)).filter (· ≠ "")).map decode

theorem isFieldChar_of_mem_defaultReserved :
    ∀ name ∈ defaultReserved, ∀ c ∈ name.toList, isFieldChar c = true := by
  have hall : (defaultReserved.all fun name => name.toList.all isFieldChar) = true := by
    decide +kernel
  intro name hname c hc
  exact List.all_eq_true.mp (List.all_eq_true.mp hall name hname) c hc

theorem tokens_eq (reserved : List String) (query : String) :
    tokens reserved query = (parameters query).filter fun piece => !isReserved reserved piece := rfl

section

variable {reserved : List String}
  (hreserved : ∀ name ∈ reserved, ∀ c ∈ name.toList, isFieldChar c = true)

include hreserved

/-- What stands before the first equals sign is a reserved name if it is the field of the filter. -/
theorem isReserved_iff {piece : String} {f : Filter}
    (h : Registry.standard.resolve? piece = some f) :
    isReserved reserved piece = true ↔ f.operator ∈ Operator.equalities ∧ f.field ∈ reserved := by
  obtain ⟨hfield, -, hmeans⟩ := Registry.means_of_resolve?_standard h
  obtain ⟨c, rest, htail, hc, hequals⟩ := hmeans.exists_head
  rw [isReserved, List.contains_iff_mem, ← hequals, hfield]
  by_cases hsign : c = '='
  · rw [hsign] at htail
    rw [key_of_equals htail]
    exact (and_iff_right hsign).symm
  · constructor
    · intro hmem
      -- the key has a character that no reserved name has
      have hchar := hreserved _ hmem c (mem_key_of_ne_equals htail hsign)
      rw [hc] at hchar
      cases hchar
    · rintro ⟨h, -⟩
      exact absurd h hsign

theorem not_isReserved_eq {piece : String} {f : Filter}
    (h : Registry.standard.resolve? piece = some f) :
    (!isReserved reserved piece) =
      decide (¬(f.operator ∈ Operator.equalities ∧ f.field ∈ reserved)) := by
  rw [Bool.eq_iff_iff, Bool.not_eq_true', ← Bool.not_eq_true, isReserved_iff hreserved h,
    decide_eq_true_eq]

theorem mem_tokens_iff {query piece : String} {f : Filter} (hpiece : piece ∈ parameters query)
    (h : Registry.standard.resolve? piece = some f) :
    piece ∈ tokens reserved query ↔ ¬(f.operator ∈ Operator.equalities ∧ f.field ∈ reserved) := by
  rw [tokens_eq, List.mem_filter, not_isReserved_eq hreserved h, decide_eq_true_eq]
  exact and_iff_right hpiece

/-- The filters of a query string are those of its pieces, in their order, but those that ask for equality on a
reserved field. -/
theorem compile_tokens (query : String) :
    Registry.standard.compile (tokens reserved query) =
      (Registry.standard.compile (parameters query)).filter fun f =>
        ¬(f.operator ∈ Operator.equalities ∧ f.field ∈ reserved) := by
  rw [Registry.compile, Registry.compile, tokens_eq, List.filterMap_filter, List.filter_filterMap]
  congr 1
  funext piece
  cases hresolve : Registry.standard.resolve? piece with
  | none => simp
  | some f => rw [Option.filter_some, not_isReserved_eq hreserved hresolve]

end

/-- For reserved names that are made of the characters of fields, as the default ones are, a query string leaves out
a piece that is recognized exactly if its filter is one of `eq`, `in` and `between` on a reserved field. Filters of
all other operators get through. -/
theorem reserved_equalities_left_out :
    (∀ name ∈ defaultReserved, ∀ c ∈ name.toList, isFieldChar c = true) ∧
    ∀ reserved : List String, (∀ name ∈ reserved, ∀ c ∈ name.toList, isFieldChar c = true) →
      ∀ query : String,
        (∀ piece ∈ parameters query, ∀ f : Filter, Registry.standard.resolve? piece = some f →
          (piece ∉ tokens reserved query ↔
            f.operator ∈ [.eq, .isIn, .between] ∧ f.field ∈ reserved) ∧
          (f.operator ∈ [.gte, .lte, .gt, .lt, .ne, .notIn, .notBetween, .like] →
            piece ∈ tokens reserved query)) ∧
        Registry.standard.compile (tokens reserved query) =
          (Registry.standard.compile (parameters query)).filter fun f =>
            ¬(f.operator ∈ [.eq, .isIn, .between] ∧ f.field ∈ reserved) := by
  have hothers : ∀ op ∈ [Operator.gte, .lte, .gt, .lt, .ne, .notIn, .notBetween, .like],
      op ∉ Operator.equalities := by
    decide
  refine ⟨isFieldChar_of_mem_defaultReserved, fun reserved hreserved query => ⟨?_, ?_⟩⟩
  · intro piece hpiece f hresolve
    have hmem := mem_tokens_iff hreserved hpiece hresolve
    constructor
    · rw [hmem, Classical.not_not]
      rfl
    · intro hop
      exact hmem.mpr fun h => hothers _ hop h.1
  · exact compile_tokens hreserved query

/-- An equals sign alone, one before braces, one deep in the operand of another operator, and none. -/
theorem reserved_equalities_left_out_paged :
    let query := "?page=2&limit=%7B10;20%7D&page%3E=3=4&sort~a=b&limit<5"
    let reserved := defaultReserved
    let deep : Filter := ⟨"page", .scalar "3=4", .gte⟩
    let list : Filter := ⟨"limit", .list ["10", "20"], .isIn⟩
    (∀ name ∈ reserved, ∀ c ∈ name.toList, isFieldChar c = true) ∧
    ("page>=3=4" ∈ parameters query ∧ Registry.standard.resolve? "page>=3=4" = some deep ∧
      "page>=3=4" ∈ tokens reserved query) ∧
    ("limit=\x7b10;20\x7d" ∈ parameters query ∧ Registry.standard.resolve? "limit=\x7b10;20\x7d" = some list ∧
      "limit=\x7b10;20\x7d" ∉ tokens reserved query) ∧
    tokens reserved query = ["page>=3=4", "sort~a=b", "limit<5"] := by
  intro query reserved deep list
  obtain ⟨hdefault, hleft⟩ := reserved_equalities_left_out
  have hpieces : parameters query =
      ["page=2", "limit=\x7b10;20\x7d", "page>=3=4", "sort~a=b", "limit<5"] := by
    decide +kernel
  -- both pieces resolve, so the theorem decides each by its operator and its field
  have hdeep : Registry.standard.resolve? "page>=3=4" = some deep := rfl
  have hlist : Registry.standard.resolve? "limit=\x7b10;20\x7d" = some list := rfl
  have hmemDeep : "page>=3=4" ∈ parameters query := by simp [hpieces]
  have hmemList : "limit=\x7b10;20\x7d" ∈ parameters query := by simp [hpieces]
  obtain ⟨hfilters, -⟩ := hleft reserved hdefault query
  refine ⟨hdefault, ⟨hmemDeep, hdeep, ?_⟩, ⟨hmemList, hlist, ?_⟩, by decide +kernel⟩
  · exact (hfilters _ hmemDeep deep hdeep).2 (by decide)
  · exact (hfilters _ hmemList list hlist).1.mpr (by decide)

end QueryString

end RecordFilter
