import RecordFilter.Proofs.Json.RoundTrip
import RecordFilter.Proofs.Store.Merging
import RecordFilter.Proofs.Store.Records
import RecordFilter.Store.Document

/-!
# Data files lose nothing

A store that began with a document is written to a file and read back as it was.

* `Collections.WellFormed` is what all collections of documents have, and every call keeps it.
* `Collections.ofDocument_eq_ok_iff`: a document and its collections say the same.
* `Collections.load_fileText`: the text of well-formed collections is read back as them.
* `Store.load_fileText_callAll` puts these together, for a store after any calls.
-/

namespace RecordFilter

/-! ## Collections of documents -/

namespace Json

/-- A value that can be a record: an object whose fields are ordered at every depth. -/
structure IsRecord (record : Json) : Prop where
  isObject : record.isObject = true
  ordered : record.Ordered

theorem IsRecord.of_fields {fields : Keyed Json} (h : (Json.object fields).Ordered) :
    (Json.object fields).IsRecord := ⟨rfl, h⟩

end Json

/-- A text is read from its bytes. -/
theorem fileText_toUTF8 (text : String) : fileText (.ok text.toUTF8) = .ok text := by
  have hread : String.fromUTF8? text.toUTF8 = some text := fromUTF8?_toByteArray text
  simp only [fileText, Except.bind, hread]

namespace Collections

/-- Entities are ordered by their names, and hold nothing but records. -/
structure WellFormed (c : Collections) : Prop where
  ordered : Keyed.Ordered c
  records : ∀ e ∈ c, ∀ record ∈ e.2, record.IsRecord

/-! ## Documents and their collections -/

theorem ofFields_eq_ok_iff (fields : List (String × Json)) (c : Collections) :
    ofFields fields = .ok c ↔
      fields = c.map (fun (entity, records) => (entity, .array records)) ∧
        ∀ e ∈ c, ∀ record ∈ e.2, record.isObject = true := by
  induction fields generalizing c with
  | nil =>
    rw [ofFields]
    cases c with
    | nil => simp
    | cons e c => simp
  | cons f fields ih =>
    obtain ⟨entity, value⟩ := f
    cases value with
    | array records =>
      rw [ofFields]
      -- the first entity is accepted or refused by its records alone
      split
      · rename_i hobjects
        rw [List.all_eq_true] at hobjects
        constructor
        · intro h
          cases hrest : ofFields fields with
          | error e =>
            rw [hrest] at h
            cases h
          | ok rest =>
            rw [hrest] at h
            cases h
            obtain ⟨hfields, hrest⟩ := (ih rest).mp hrest
            exact ⟨by rw [hfields]; rfl, List.forall_mem_cons.mpr ⟨hobjects, hrest⟩⟩
        · rintro ⟨hfields, hall⟩
          cases c with
          | nil => cases hfields
          | cons e c =>
            obtain ⟨hhead, htail⟩ := List.cons.inj hfields
            cases hhead
            obtain ⟨-, hall⟩ := List.forall_mem_cons.mp hall
            rw [(ih c).mpr ⟨htail, hall⟩]
            rfl
      · rename_i hobjects
        rw [List.all_eq_true] at hobjects
        constructor
        · intro h
          cases h
        · rintro ⟨hfields, hall⟩
          cases c with
          | nil => cases hfields
          | cons e c =>
            obtain ⟨hhead, -⟩ := List.cons.inj hfields
            cases hhead
            exact absurd (List.forall_mem_cons.mp hall).1 hobjects
    | _ =>
      -- no collections have a document with anything else under a name
      constructor
      · intro h
        cases h
      · rintro ⟨hfields, -⟩
        cases c with
        | nil => cases hfields
        | cons e c => cases (List.cons.inj hfields).1

/-- A document and its collections say the same. -/
theorem ofDocument_eq_ok_iff (document : Json) (c : Collections) :
    ofDocument document = .ok c ↔
      document = c.toDocument ∧ ∀ e ∈ c, ∀ record ∈ e.2, record.isObject = true := by
  cases document with
  | object fields =>
    rw [ofDocument, ofFields_eq_ok_iff, toDocument, Json.object.injEq]
  | _ =>
    constructor
    · intro h
      cases h
    · rintro ⟨h, -⟩
      cases h

theorem toDocument_ordered_iff (c : Collections) :
    c.toDocument.Ordered ↔ Keyed.Ordered c ∧ ∀ e ∈ c, ∀ record ∈ e.2, record.Ordered := by
  rw [toDocument, Json.ordered_object_iff, Keyed.Ordered, List.pairwise_map, List.forall_mem_map]
  simp only [Json.ordered_array_iff]
  rfl

theorem WellFormed.toDocument_ordered {c : Collections} (h : c.WellFormed) : c.toDocument.Ordered :=
  (toDocument_ordered_iff c).mpr
    ⟨h.ordered, fun e he record hrecord => (h.records e he record hrecord).ordered⟩

theorem WellFormed.ofDocument_toDocument {c : Collections} (h : c.WellFormed) :
    ofDocument c.toDocument = .ok c :=
  (ofDocument_eq_ok_iff _ c).mpr
    ⟨rfl, fun e he record hrecord => (h.records e he record hrecord).isObject⟩

theorem wellFormed_of_ofDocument {document : Json} (hdocument : document.Ordered)
    {c : Collections} (h : ofDocument document = .ok c) : c.WellFormed := by
  obtain ⟨rfl, hobjects⟩ := (ofDocument_eq_ok_iff document c).mp h
  obtain ⟨hordered, hrecords⟩ := (toDocument_ordered_iff c).mp hdocument
  exact ⟨hordered, fun e he record hrecord => ⟨hobjects e he record hrecord, hrecords e he record hrecord⟩⟩

/-! ## Files -/

/-- The text of well-formed collections is read back as them. -/
theorem load_fileText {c : Collections} (h : c.WellFormed) (path : String) :
    load path (.ok c.fileText.toUTF8) = .ok c := by
  have hread : Json.Dialect.json5.read? c.fileText = some c.toDocument :=
    Json.Dialect.reads_json5.read?_pretty h.toDocument_ordered
  rw [load, fileText_toUTF8]
  simp only [hread]
  exact h.ofDocument_toDocument

/-- Whatever a file can be read as is well-formed. -/
theorem wellFormed_of_load {path : String} {content : Except FileFault ByteArray} {c : Collections}
    (h : load path content = .ok c) : c.WellFormed := by
  rw [load] at h
  split at h
  · cases h
  · split at h
    · cases h
    · rename_i document hread
      exact wellFormed_of_ofDocument (Json.Dialect.ordered_of_read?_json5 hread) h

end Collections

/-! ## Calls -/

/-- The attributes of the call are a JSON value, whose fields are ordered at every depth. -/
def Call.Ordered : Call → Prop
  | .create _ attributes | .update _ _ attributes => attributes.Ordered
  | .delete _ _ | .deleteWhere _ _ => True

theorem newRecord_isRecord {attributes : Keyed Json} (h : (Json.object attributes).Ordered)
    (id : UInt64) : (newRecord id attributes).IsRecord :=
  .of_fields (Json.Ordered.put (.number _) (h.remove "id") "id")

/-- Attributes are put one after the other into fields that are ordered. -/
theorem Merge.ordered_foldl_step {attributes : Keyed Json}
    (hattributes : ∀ entry ∈ attributes, entry.2.Ordered) {m : Merge}
    (hm : (Json.object m.fields).Ordered) :
    (Json.object (attributes.foldl Merge.step m).fields).Ordered := by
  induction attributes generalizing m with
  | nil => exact hm
  | cons entry attributes ih =>
    obtain ⟨hentry, hattributes⟩ := List.forall_mem_cons.mp hattributes
    refine ih hattributes ?_
    rw [Merge.step]
    split
    · exact hm
    · exact Json.Ordered.put hentry hm entry.1

theorem merge_isRecord {fields attributes : Keyed Json} (hfields : (Json.object fields).Ordered)
    (hattributes : (Json.object attributes).Ordered) :
    (Json.object (merge fields (Keyed.remove "id" attributes)).fields).IsRecord := by
  obtain ⟨-, heach⟩ := Json.ordered_object_iff.mp (hattributes.remove "id")
  exact .of_fields (Merge.ordered_foldl_step heach hfields)

theorem Call.Ordered.keeps {call : Call} (h : call.Ordered) : call.Keeps Json.IsRecord := by
  cases call with
  | create entity attributes =>
    cases attributes with
    | object attributes => exact newRecord_isRecord h
    | _ => trivial
  | update entity id attributes =>
    cases attributes with
    | object attributes => exact fun fields hfields => merge_isRecord hfields.ordered h
    | _ => trivial
  | delete _ _ | deleteWhere _ _ => trivial

/-- A change keeps the entities in the order of their names. -/
theorem Call.Makes.ordered {c : Collections} (hc : Keyed.Ordered c) {call : Call} {change : Change}
    (h : call.Makes c change) : Keyed.Ordered change.collections := by
  cases h with
  | create hid => exact (hc.ensure _ []).replace _ _
  | update | delete | deleteWhere => exact hc.replace _ _

theorem Call.Makes.wellFormed {c : Collections} (hc : c.WellFormed) {call : Call}
    (hcall : call.Ordered) {change : Change} (h : call.Makes c change) :
    change.collections.WellFormed where
  ordered := h.ordered hc.ordered
  records := h.holds hcall.keeps hc.records

namespace Store

variable {σ : Type}

theorem wellFormed_call {s : Store σ} (hs : s.collections.WellFormed) {call : Call}
    (hcall : call.Ordered) : (s.call call).2.collections.WellFormed := by
  rcases s.call_cases call with ⟨e, herror⟩ | ⟨change, hmakes, hdone⟩
  · rw [herror]
    exact hs
  · rw [hdone]
    exact hmakes.wellFormed hs hcall

theorem wellFormed_callAll {s : Store σ} (hs : s.collections.WellFormed) {calls : List Call}
    (hcalls : ∀ call ∈ calls, call.Ordered) : (s.callAll calls).collections.WellFormed := by
  induction calls generalizing s with
  | nil => exact hs
  | cons call calls ih =>
    obtain ⟨hcall, hcalls⟩ := List.forall_mem_cons.mp hcalls
    exact ih (wellFormed_call hs hcall) hcalls

/-- A store that began with a document is read back from the text of its data file, entity by entity
and record by record, after any calls. The document and the attributes of the calls are ordered, as
all values are that were read. -/
theorem load_fileText_callAll {document : Json} (hdocument : document.Ordered) (s : Store σ)
    (hstart : Collections.ofDocument document = .ok s.collections) {calls : List Call}
    (hcalls : ∀ call ∈ calls, call.Ordered) (path : String) :
    let final := (s.callAll calls).collections
    Collections.load path (.ok final.fileText.toUTF8) = .ok final := by
  intro final
  have hs : s.collections.WellFormed := Collections.wellFormed_of_ofDocument hdocument hstart
  exact Collections.load_fileText (wellFormed_callAll hs hcalls) path

/-- An entity without records stays one, a text keeps a quote, a backslash, a control character, a line
separator and a character past the first 65536, and a negative zero stays a float. -/
theorem load_fileText_callAll_delicate :
    let text := Json.string "\"\\\x01\u2028😀"
    let zero := Json.number (.float ⟨true, 0, Binary64.representable_zero⟩)
    let document := Json.object [("drafts", .array []), ("notes", .array [.object [("text", text)]])]
    let s := Store.quiet [("drafts", []), ("notes", [.object [("text", text)]])]
    let calls := [Call.create "notes" (.object [("zero", zero)])]
    document.Ordered ∧ Collections.ofDocument document = .ok s.collections ∧
      (∀ call ∈ calls, call.Ordered) ∧
      Collections.load "data.json" (.ok (s.callAll calls).collections.fileText.toUTF8) =
        .ok [("drafts", []),
          ("notes", [.object [("text", text)], .object [("id", .ofId 1), ("zero", zero)]])] := by
  intro text zero document s calls
  have htext : (Json.object [("text", text)]).Ordered :=
    Json.Ordered.put (.string _) .nil_object "text"
  have hdocument : document.Ordered := by
    refine Json.ordered_object_iff.mpr ⟨List.pairwise_pair.mpr (by decide), ?_⟩
    rw [List.forall_mem_cons, List.forall_mem_singleton]
    exact ⟨.nil_array, .cons htext .nil_array⟩
  have hcalls : ∀ call ∈ calls, call.Ordered :=
    List.forall_mem_singleton.mpr (Json.Ordered.put (.number _) .nil_object "zero")
  -- what is left is computed: the document starts the store, and the calls give the collections
  refine ⟨hdocument, rfl, hcalls, ?_⟩
  exact load_fileText_callAll hdocument s rfl hcalls "data.json"

end Store

end RecordFilter
