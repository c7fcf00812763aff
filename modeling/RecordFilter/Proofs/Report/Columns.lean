import Mathlib.Data.List.Basic
import Mathlib.Data.List.Induction
import RecordFilter.Proofs.Json.Order
import RecordFilter.Report.Listing

/-!
# The columns of a table of records

The columns are collected record by record and name by name, each when it is met first, and `id` is moved to the
front in the end.

* `distinct_append_singleton` is one name more, `mem_distinct_iff` and `pairwise_distinct` say of all names which
  are there and in what order.
* `ColumnBefore` compares two attributes by the first record that has them, then by name.
* `columnBefore_of_idxOf_lt`: what stands first among the names of all records is before in this sense.
* `recordColumns_in_order`: the columns are the attributes of the records, each once, in this order after `id`.
-/

namespace RecordFilter

/-! ## Names without repetitions -/

/-- One more name is added where it is new. -/
theorem distinct_append_singleton (names : List String) (name : String) :
    distinct (names ++ [name]) =
      if name ∈ distinct names then distinct names else distinct names ++ [name] := by
  rw [distinct, List.foldl_append]
  rfl

theorem mem_distinct_iff {names : List String} {name : String} :
    name ∈ distinct names ↔ name ∈ names := by
  induction names using List.reverseRecOn with
  | nil => exact Iff.rfl
  | append_singleton names last ih =>
    rw [distinct_append_singleton, List.mem_append, List.mem_singleton, ← ih]
    split
    · rename_i hlast
      constructor
      · exact Or.inl
      · rintro (hname | rfl)
        · exact hname
        · exact hlast
    · rw [List.mem_append, List.mem_singleton]

/-- Names come in the order in which they are met first. -/
theorem pairwise_distinct (names : List String) :
    (distinct names).Pairwise fun a b => names.idxOf a < names.idxOf b := by
  induction names using List.reverseRecOn with
  | nil => exact List.Pairwise.nil
  | append_singleton names last ih =>
    have hkept {a : String} (ha : a ∈ distinct names) : (names ++ [last]).idxOf a = names.idxOf a :=
      List.idxOf_append_of_mem (mem_distinct_iff.mp ha)
    have hnames : (distinct names).Pairwise
        fun a b => (names ++ [last]).idxOf a < (names ++ [last]).idxOf b := by
      refine ih.imp_of_mem ?_
      intro a b ha hb hlt
      rwa [hkept ha, hkept hb]
    rw [distinct_append_singleton]
    split
    · exact hnames
    · rename_i hlast
      -- a new name is met after all others
      refine List.pairwise_append.mpr ⟨hnames, List.pairwise_singleton _ _, ?_⟩
      intro a ha b hb
      rw [mem_distinct_iff] at hlast
      rw [List.mem_singleton.mp hb, hkept ha, List.idxOf_append_of_notMem hlast]
      exact Nat.lt_add_right _ (List.idxOf_lt_length_of_mem (mem_distinct_iff.mp ha))

/-- What holds of each item and those after it holds of two items by their places. -/
theorem rel_of_idxOf_lt {R : String → String → Prop} {names : List String} (h : names.Pairwise R)
    {a b : String} (hb : b ∈ names) (hlt : names.idxOf a < names.idxOf b) : R a b := by
  have hlength : names.idxOf b < names.length := List.idxOf_lt_length_of_mem hb
  have hrel := List.pairwise_iff_getElem.mp h _ _ (Nat.lt_trans hlt hlength) hlength hlt
  rwa [List.getElem_idxOf, List.getElem_idxOf] at hrel

/-! ## Attributes and the records that have them -/

theorem mem_attributeNames_iff {record : Json} {name : String} :
    name ∈ attributeNames record ↔ (record.field? name).isSome = true := by
  cases record with
  | object fields => exact Keyed.mem_keys_iff
  | null | bool | number | string | array => simp [attributeNames, Json.field?, Json.fields?]

theorem pairwise_attributeNames {record : Json} (h : record.Ordered) :
    (attributeNames record).Pairwise (· < ·) := by
  cases record with
  | object fields => exact (Keyed.ordered_iff_keys fields).mp (Json.ordered_object_iff.mp h).1
  | null | bool | number | string | array => exact List.Pairwise.nil

/-- The place of the first record that has an attribute. -/
def firstWith (records : List Json) (name : String) : Nat :=
  records.findIdx fun record => (record.field? name).isSome

section

variable {record : Json} {name : String}

theorem firstWith_cons_of_mem (h : name ∈ attributeNames record) (records : List Json) :
    firstWith (record :: records) name = 0 := by
  rw [firstWith, List.findIdx_cons, mem_attributeNames_iff.mp h]
  rfl

theorem firstWith_cons_of_not_mem (h : name ∉ attributeNames record) (records : List Json) :
    firstWith (record :: records) name = firstWith records name + 1 := by
  rw [mem_attributeNames_iff, Bool.not_eq_true] at h
  rw [firstWith, List.findIdx_cons, h]
  rfl

end

/-- An attribute is before another one: a record has it before any has the other, or one record is the first to
have either, and its name is smaller. -/
def ColumnBefore (records : List Json) (a b : String) : Prop :=
  firstWith records a < firstWith records b ∨
    (firstWith records a = firstWith records b ∧ a < b)

theorem not_columnBefore_self (records : List Json) (a : String) : ¬ColumnBefore records a a := by
  rintro (hlt | ⟨-, hlt⟩)
  · exact Nat.lt_irrefl _ hlt
  · exact String.lt_irrefl a hlt

theorem ColumnBefore.asymm {records : List Json} {a b : String} (h : ColumnBefore records a b) :
    ¬ColumnBefore records b a := by
  rcases h with hlt | ⟨heq, hlt⟩
  · rintro (hgt | ⟨heq, -⟩)
    · exact Nat.lt_asymm hlt hgt
    · exact Nat.ne_of_lt hlt heq.symm
  · rintro (hgt | ⟨-, hgt⟩)
    · exact Nat.ne_of_lt hgt heq.symm
    · exact String.lt_asymm hlt hgt

/-- Of the names of all records, one after the other, a name that is met first is before. -/
theorem columnBefore_of_idxOf_lt {records : List Json} (hrecords : ∀ record ∈ records, record.Ordered)
    {a b : String} (hb : b ∈ records.flatMap attributeNames)
    (hlt : (records.flatMap attributeNames).idxOf a < (records.flatMap attributeNames).idxOf b) :
    ColumnBefore records a b := by
  -- on the records, by which of the two names the first of them has
  induction records with
  | nil => cases hb
  | cons record records ih =>
    obtain ⟨hrecord, hrecords⟩ := List.forall_mem_cons.mp hrecords
    rw [List.flatMap_cons] at hb hlt
    by_cases hafirst : a ∈ attributeNames record
    · by_cases hbfirst : b ∈ attributeNames record
      · -- the names of one record come in their order
        rw [List.idxOf_append_of_mem hafirst, List.idxOf_append_of_mem hbfirst] at hlt
        refine Or.inr ⟨?_, rel_of_idxOf_lt (pairwise_attributeNames hrecord) hbfirst hlt⟩
        rw [firstWith_cons_of_mem hafirst, firstWith_cons_of_mem hbfirst]
      · refine Or.inl ?_
        rw [firstWith_cons_of_mem hafirst, firstWith_cons_of_not_mem hbfirst]
        exact Nat.succ_pos _
    · rw [List.idxOf_append_of_notMem hafirst] at hlt
      by_cases hbfirst : b ∈ attributeNames record
      · -- the other name is met before it
        rw [List.idxOf_append_of_mem hbfirst] at hlt
        have hlength : (attributeNames record).idxOf b < (attributeNames record).length :=
          List.idxOf_lt_length_of_mem hbfirst
        omega
      · rw [List.idxOf_append_of_notMem hbfirst] at hlt
        have hrest : b ∈ records.flatMap attributeNames :=
          (List.mem_append.mp hb).resolve_left hbfirst
        have hbefore := ih hrecords hrest (Nat.lt_of_add_lt_add_left hlt)
        rw [ColumnBefore, firstWith_cons_of_not_mem hafirst, firstWith_cons_of_not_mem hbfirst]
        simpa [ColumnBefore] using hbefore

/-! ## Columns -/

theorem mem_recordColumns_iff {records : List Json} {name : String} :
    name ∈ recordColumns records ↔ ∃ record ∈ records, (record.field? name).isSome = true := by
  have hnames : name ∈ distinct (records.flatMap attributeNames) ↔
      ∃ record ∈ records, (record.field? name).isSome = true := by
    simp only [mem_distinct_iff, List.mem_flatMap, mem_attributeNames_iff]
  rw [← hnames, recordColumns]
  split
  · rename_i hid
    rw [List.mem_cons]
    by_cases hname : name = "id"
    · simp [hname, hid]
    · simp [hname, List.mem_erase_of_ne]
  · exact Iff.rfl

theorem head?_recordColumns {records : List Json} (h : "id" ∈ recordColumns records) :
    (recordColumns records).head? = some "id" := by
  simp only [recordColumns] at h ⊢
  by_cases hid : "id" ∈ distinct (records.flatMap attributeNames)
  · rw [if_pos hid]
    rfl
  · rw [if_neg hid] at h
    exact absurd h hid

/-- Nothing comes before `id`, and what comes before another column is `id` or before it. -/
theorem pairwise_recordColumns {records : List Json} (hrecords : ∀ record ∈ records, record.Ordered) :
    (recordColumns records).Pairwise fun a b => b ≠ "id" ∧ (a = "id" ∨ ColumnBefore records a b) := by
  have hnames : (distinct (records.flatMap attributeNames)).Pairwise (ColumnBefore records) :=
    (pairwise_distinct _).imp_of_mem fun _ hb hlt =>
      columnBefore_of_idxOf_lt hrecords (mem_distinct_iff.mp hb) hlt
  -- a name that stood twice would be before itself
  have hnodup : (distinct (records.flatMap attributeNames)).Nodup := by
    refine hnames.imp ?_
    rintro a b hbefore rfl
    exact not_columnBefore_self records a hbefore
  rw [recordColumns]
  split
  · have hrest : ∀ name ∈ (distinct (records.flatMap attributeNames)).erase "id", name ≠ "id" :=
      fun name hname => (hnodup.mem_erase_iff.mp hname).1
    refine List.pairwise_cons.mpr ⟨fun name hname => ⟨hrest name hname, Or.inl rfl⟩, ?_⟩
    exact (hnames.sublist List.erase_sublist).imp_of_mem fun _ hb hbefore => ⟨hrest _ hb, Or.inr hbefore⟩
  · rename_i hid
    exact hnames.imp_of_mem fun _ hb hbefore => ⟨fun heq => hid (heq ▸ hb), Or.inr hbefore⟩

/-- The columns of records are the attributes that some record has, without repetitions. The first one is `id` if
a record has it. Of any two others, the one comes first that a record has before any has the other, and where one
record is the first to have either, the smaller name. The records are ordered, as all values are that were read. -/
theorem recordColumns_in_order (records : List Json) (hrecords : ∀ record ∈ records, record.Ordered) :
    let columns := recordColumns records
    columns.Nodup ∧
      (∀ name, name ∈ columns ↔ ∃ record ∈ records, (record.field? name).isSome = true) ∧
      ("id" ∈ columns → columns.head? = some "id") ∧
      ∀ a b, a ∈ columns → b ∈ columns → a ≠ "id" → b ≠ "id" →
        (columns.idxOf a < columns.idxOf b ↔ ColumnBefore records a b) := by
  intro columns
  have hpairwise := pairwise_recordColumns hrecords
  refine ⟨?_, fun name => mem_recordColumns_iff, head?_recordColumns, ?_⟩
  · refine hpairwise.imp ?_
    rintro a b ⟨hb, ha | hbefore⟩ rfl
    · exact hb ha
    · exact not_columnBefore_self records a hbefore
  · intro a b ha hb hane hbne
    constructor
    · intro hlt
      exact (rel_of_idxOf_lt hpairwise hb hlt).2.resolve_left hane
    · intro hbefore
      -- the converse, since the order of the columns is total and that of the names asymmetric
      rcases Nat.lt_trichotomy (columns.idxOf a) (columns.idxOf b) with hlt | heq | hgt
      · exact hlt
      · obtain rfl := (List.idxOf_inj ha).mp heq
        exact absurd hbefore (not_columnBefore_self records a)
      · exact absurd ((rel_of_idxOf_lt hpairwise ha hgt).2.resolve_left hbne) hbefore.asymm

/-- A user without an id, and one with an id, an age and no city. The zip code comes before the age, since the first
user has it, and the age before the city by its name. -/
theorem recordColumns_in_order_users :
    let records := [Json.object [("name", .string "a"), ("zip", .string "1")],
      .object [("age", .string "30"), ("city", .null), ("id", .string "2"), ("name", .string "b")]]
    let columns := recordColumns records
    (∀ record ∈ records, record.Ordered) ∧ columns = ["id", "name", "zip", "age", "city"] ∧
      columns.Nodup ∧ ("city" ∈ columns ∧ "id" ∈ columns) ∧ columns.head? = some "id" ∧
      (ColumnBefore records "zip" "age" ∧ ColumnBefore records "age" "city") ∧
      (columns.idxOf "zip" < columns.idxOf "age" ∧ columns.idxOf "age" < columns.idxOf "city") := by
  intro records columns
  have hrecords : ∀ record ∈ records, record.Ordered := by
    rw [List.forall_mem_cons, List.forall_mem_singleton]
    constructor
    · refine Json.ordered_object_iff.mpr ⟨List.pairwise_pair.mpr (by decide), ?_⟩
      rw [List.forall_mem_cons, List.forall_mem_singleton]
      exact ⟨.string _, .string _⟩
    · refine Json.ordered_object_iff.mpr ⟨(Keyed.ordered_iff_keys _).mpr (by decide), ?_⟩
      rw [List.forall_mem_cons, List.forall_mem_cons, List.forall_mem_cons, List.forall_mem_singleton]
      exact ⟨.string _, .null, .string _, .string _⟩
  obtain ⟨hnodup, hmem, hfirst, horder⟩ := recordColumns_in_order records hrecords
  have hcity : "city" ∈ columns := (hmem "city").mpr (by decide)
  have hid : "id" ∈ columns := (hmem "id").mpr (by decide)
  have hzip : ColumnBefore records "zip" "age" := Or.inl (by decide)
  have hage : ColumnBefore records "age" "city" := Or.inr (by decide)
  refine ⟨hrecords, by decide, hnodup, ⟨hcity, hid⟩, hfirst hid, ⟨hzip, hage⟩, ?_, ?_⟩
  · exact (horder "zip" "age" ((hmem _).mpr (by decide)) ((hmem _).mpr (by decide)) (by decide)
      (by decide)).mpr hzip
  · exact (horder "age" "city" ((hmem _).mpr (by decide)) hcity (by decide) (by decide)).mpr hage

end RecordFilter
