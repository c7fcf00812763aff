import RecordFilter.Proofs.Filter.Conjunction
import RecordFilter.Proofs.Filter.Rendering

/-!
# Requests of one written expression

An expression that is written for a field and operands stands for the constraint of that field with these
operands.

* `IsFieldName` are the names that a field of an expression can have.
* `Registry.admits_plan_render`: the expression of a filter admits what its constraint admits.
* `Registry.admits_plan_spelled`: so does any expression that spells operands after a field name.
* `Registry.admits_plan_of_unnamed`: an expression without a field name admits every record.
* `Registry.admits_plan_eq`, `Registry.admits_plan_le` and `Registry.admits_plan_ge` are the expressions with one
  value, `Registry.admits_plan_isIn` is a list of one value in braces, and `Registry.admits_plan_between` and
  `Registry.admits_plan_notBetween` are ranges in brackets.
-/

namespace RecordFilter

/-- A name that the field of an expression can have. -/
structure IsFieldName (name : String) : Prop where
  named : name ≠ ""
  chars : ∀ c ∈ name.toList, Expression.isFieldChar c = true

namespace Registry

variable {record : Json} {field value : String}

theorem resolve?_render {f : Filter} (h : f.Renderable) : standard.resolve? f.render = some f := by
  obtain ⟨hfield, htail⟩ := h.field_and_tail
  exact resolve?_standard_of_means hfield.symm h.named
    (Expression.means_iff_takes.mpr ⟨h.operands, htail⟩)

/-- The expression of a filter admits what its constraint admits. -/
theorem admits_plan_render {f : Filter} {c : Constraint} (h : f.Renderable) (hc : f.Becomes c)
    (record : Json) : (standard.plan [f.render]).admits record = c.admits record := by
  have hconstraint : f.constraint? = some c := Filter.constraint?_eq_some_iff.mpr hc
  rw [plan_singleton (resolve?_render h), QueryPlan.ofFilters, List.filterMap_cons_some hconstraint,
    List.filterMap_nil, QueryPlan.admits, List.all_cons, List.all_nil, Bool.and_true]

/-- An expression that spells operands of an operator after a field name admits what the constraint on the field
with these operands admits. -/
theorem admits_plan_spelled (sp : Spelling) (v : Operand) {c : Constraint} {token : String}
    (hfield : IsFieldName field) (hsp : sp ∈ Spelling.standard)
    (hweak : ¬(sp.operator = .gt ∨ sp.operator = .lt)) (hv : sp.form.Takes v)
    (hc : Filter.Becomes ⟨field, v, sp.operator⟩ c)
    (htoken : token.toList = field.toList ++ (sp.delimiter ++ v.text.toList)) (record : Json) :
    (standard.plan [token]).admits record = c.admits record := by
  have htakes : sp.operator.Takes v := ⟨⟨sp, hsp, rfl, hv⟩, fun h => absurd h hweak⟩
  have hrender : (Filter.mk field v sp.operator).render = token := by
    apply String.toList_inj.mp
    rw [Filter.toList_render, Spelling.delimiter_operator sp hsp, htoken]
  rw [← hrender]
  exact admits_plan_render ⟨hfield.named, hfield.chars, htakes⟩ hc record

/-- An expression without a field name is not recognized, and asks for nothing. -/
theorem admits_plan_of_unnamed {token : String} {c : Char} {rest : List Char}
    (htoken : token.toList = c :: rest) (hc : Expression.isFieldChar c = false) (record : Json) :
    (standard.plan [token]).admits record = true := by
  have hnone : standard.resolve? token = none := by
    rw [Option.eq_none_iff_forall_ne_some]
    intro f hf
    obtain ⟨hfield, hne, -⟩ := means_of_resolve?_standard hf
    have hunnamed : Expression.field token = String.ofList [] :=
      (Expression.field_and_tail (htoken.trans (List.nil_append _).symm) (by simp) hc).1
    exact hne (hfield.trans hunnamed)
  rw [plan, compile, List.filterMap_cons_none hnone, List.filterMap_nil]
  rfl

/-- So whether an expression admits a record is a question of expressions with a field name only. -/
theorem admits_plan_of_named {token : String} (c : Char) (hc : Expression.isFieldChar c = false)
    (hchars : ∀ d ∈ field.toList, Expression.isFieldChar d = true)
    (hstart : field.toList ++ [c] <+: token.toList)
    (h : IsFieldName field → (standard.plan [token]).admits record = true) :
    (standard.plan [token]).admits record = true := by
  by_cases hnamed : field = ""
  · rw [hnamed] at hstart
    obtain ⟨rest, htoken⟩ := hstart
    exact admits_plan_of_unnamed htoken.symm hc record
  · exact h ⟨hnamed, hchars⟩

/-- A plain value after an equals sign is compared with the field. -/
theorem admits_plan_eq (hfield : IsFieldName field) (bracket : value.toList.head? ≠ some '[')
    (brace : value.toList.head? ≠ some '\x7b') (record : Json) :
    (standard.plan [field ++ "=" ++ value]).admits record =
      (Constraint.compare field .eq value).admits record :=
  admits_plan_spelled ⟨.eq, ['='], .plain⟩ (.scalar value) hfield (by simp [Spelling.standard])
    (by decide) (.plain value bracket brace) ⟨rfl, rfl, rfl⟩ (by simp [Operand.text]) record

/-- Any value after `<=` or `>=` is compared with the field. -/
theorem admits_plan_le (hfield : IsFieldName field) (value : String) (record : Json) :
    (standard.plan [field ++ "<=" ++ value]).admits record =
      (Constraint.compare field .le value).admits record :=
  admits_plan_spelled ⟨.lte, ['<', '='], .any⟩ (.scalar value) hfield
    (by simp [Spelling.standard]) (by decide) (.any value) ⟨rfl, rfl, rfl⟩
    (by simp [Operand.text]) record

theorem admits_plan_ge (hfield : IsFieldName field) (value : String) (record : Json) :
    (standard.plan [field ++ ">=" ++ value]).admits record =
      (Constraint.compare field .ge value).admits record :=
  admits_plan_spelled ⟨.gte, ['>', '='], .any⟩ (.scalar value) hfield
    (by simp [Spelling.standard]) (by decide) (.any value) ⟨rfl, rfl, rfl⟩
    (by simp [Operand.text]) record

/-- A value alone in braces is a list of that value. -/
theorem admits_plan_isIn (hfield : IsFieldName field) (hvalue : value ≠ "")
    (hwhole : ';' ∉ value.toList) (record : Json) :
    (standard.plan [field ++ "=\x7b" ++ value ++ "\x7d"]).admits record =
      (Constraint.isIn field [value]).admits record :=
  admits_plan_spelled ⟨.isIn, ['='], .values⟩ (.list [value]) hfield
    (by simp [Spelling.standard]) (by decide)
    (.values [value] (List.cons_ne_nil _ _) (by simpa using hvalue) (by simpa using hwhole))
    ⟨rfl, rfl, rfl⟩ (by simp [Operand.text, joinWith]) record

/-- Two numerals in brackets are the bounds of a range. -/
theorem admits_plan_between {low high : String} (hfield : IsFieldName field)
    (hlow : IsNumeral low.toList) (hhigh : IsNumeral high.toList) (record : Json) :
    (standard.plan [field ++ "=[" ++ low ++ ";" ++ high ++ "]"]).admits record =
      (Constraint.between field low high).admits record :=
  admits_plan_spelled ⟨.between, ['='], .bounds⟩ (.range low high) hfield
    (by simp [Spelling.standard]) (by decide) (.bounds low high hlow hhigh) ⟨rfl, rfl, rfl⟩
    (by simp [Operand.text]) record

theorem admits_plan_notBetween {low high : String} (hfield : IsFieldName field)
    (hlow : IsNumeral low.toList) (hhigh : IsNumeral high.toList) (record : Json) :
    (standard.plan [field ++ "!=[" ++ low ++ ";" ++ high ++ "]"]).admits record =
      (Constraint.notBetween field low high).admits record :=
  admits_plan_spelled ⟨.notBetween, ['!', '='], .bounds⟩ (.range low high) hfield
    (by simp [Spelling.standard]) (by decide) (.bounds low high hlow hhigh) ⟨rfl, rfl, rfl⟩
    (by simp [Operand.text]) record

end Registry

end RecordFilter
