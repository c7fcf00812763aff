import RecordFilter.Proofs.Store.Ids
import RecordFilter.Proofs.Store.Merging

/-!
# Records and where they come from

Records may be alike, and ids come back once their records are gone. To say which record is which, each is
traced from where it comes from through the calls that leave it.

* `Tracing` is a store whose records know their origins, `Tracing.call` follows a call.
* `Tracing.Sound` is what holds of them all along: origins differ, and so do the ids of records that were
  made; the ids of records that were there at first are those of then.
* `Store.ids_assigned_and_kept`: ids are assigned by the store alone, and stay.
-/

namespace RecordFilter

variable {σ : Type}

/-- Where a record comes from: from its place among the records at first, or from a call. -/
inductive Origin
  | loaded (position : Nat)
  | made (call : Nat)
deriving DecidableEq, Repr

/-- A record that knows its origin. -/
structure TracedRecord where
  origin : Origin
  record : Json
deriving DecidableEq

/-- A store, the number of its calls so far, and its records with their origins. -/
structure Tracing (σ : Type) where
  store : Store σ
  calls : Nat
  records : String → List TracedRecord

/-- The entity that a call is about. -/
def Call.entity : Call → String
  | .create entity _ | .update entity _ _ | .delete entity _ | .deleteWhere entity _ => entity

/-- The traced records of the entity of a call after it: one is made, the first one with an id is changed
or removed, or those are removed that satisfy a plan. -/
def Call.trace (number : Nat) (answer : Answer) (l : List TracedRecord) : Call → List TracedRecord
  | .create _ _ =>
    match answer with
    | .one record => l ++ [⟨.made number, record⟩]
    | .many _ => l
  | .update _ id _ =>
    match answer with
    | .one record =>
      l.modify (l.findIdx fun t => Collections.hasId id t.record) fun t => { t with record := record }
    | .many _ => l
  | .delete _ id => l.eraseP fun t => Collections.hasId id t.record
  | .deleteWhere _ plan => l.filter fun t => !plan.admits t.record

namespace Tracing

/-- Traces the records of a store from here on. -/
def start (s : Store σ) : Tracing σ where
  store := s
  calls := 0
  records entity :=
    (s.collections.stock entity).mapIdx fun position record => ⟨.loaded position, record⟩

/-- Follows a call. Records of other entities, and all where the call fails, stay as they are. -/
def call (t : Tracing σ) (call : Call) : Tracing σ where
  store := (t.store.call call).2
  calls := t.calls + 1
  records entity :=
    match (t.store.call call).1 with
    | .ok answer =>
      if entity = call.entity then call.trace t.calls answer (t.records entity)
      else t.records entity
    | .error _ => t.records entity

/-- Follows calls one after the other. -/
def callAll (t : Tracing σ) (calls : List Call) : Tracing σ :=
  calls.foldl Tracing.call t

theorem store_callAll (t : Tracing σ) (calls : List Call) :
    (t.callAll calls).store = t.store.callAll calls := by
  induction calls generalizing t with
  | nil => rfl
  | cons call calls ih => exact ih (t.call call)

end Tracing

/-! ## What a call does to the records of an entity -/

namespace Collections

variable {c : Collections} {entity : String} {records : List Json}

theorem stock_of_get? (h : c.get? entity = some records) : c.stock entity = records := by
  rw [stock, h]
  rfl

theorem stock_replace (h : c.get? entity = some records) (kept : List Json) (other : String) :
    Collections.stock (c.replace entity kept) other =
      if other = entity then kept else c.stock other := by
  rw [stock, Keyed.get?_replace, h]
  split
  · rfl
  · rfl

theorem stock_adding (c : Collections) (entity : String) (record : Json) (other : String) :
    (Change.adding c entity record).collections.stock other =
      if other = entity then c.stock entity ++ [record] else c.stock other := by
  rw [stock, Change.get?_adding]
  split
  · rfl
  · rfl

end Collections

/-- Records of other entities stay as they are. -/
theorem Call.Makes.stock_of_ne {c : Collections} {call : Call} {change : Change}
    (h : call.Makes c change) {other : String} (hother : other ≠ call.entity) :
    change.collections.stock other = c.stock other := by
  cases h with
  | create hid => exact (Collections.stock_adding c _ _ other).trans (if_neg hother)
  | update hrecords hfirst => exact (Collections.stock_replace hrecords _ other).trans (if_neg hother)
  | delete hrecords hfirst => exact (Collections.stock_replace hrecords _ other).trans (if_neg hother)
  | deleteWhere hrecords => exact (Collections.stock_replace hrecords _ other).trans (if_neg hother)

/-- The origin of a record and the value of its `id`. -/
def TracedRecord.mark (t : TracedRecord) : Origin × Option Json :=
  (t.origin, t.record.field? "id")

/-- The origins and ids of an entity after a call: some are gone, or one has come, which is past all that
are there. -/
inductive MarksChange (number : Nat) (stock : List Json) (marks : List (Origin × Option Json)) :
    List (Origin × Option Json) → Prop
  | gone {marks' : List (Origin × Option Json)} (h : marks'.Sublist marks) :
    MarksChange number stock marks marks'
  | come {id : UInt64} (h : IsNextId stock id) :
    MarksChange number stock marks (marks ++ [(.made number, some (.ofId id))])

/-- What a call does to the records of its entity is what its tracing does. -/
theorem Call.Makes.trace {c : Collections} {call : Call} {change : Change}
    (h : call.Makes c change) (number : Nat) {l : List TracedRecord}
    (hl : l.map TracedRecord.record = c.stock call.entity) :
    let l' := call.trace number change.answer l
    l'.map TracedRecord.record = change.collections.stock call.entity ∧
      MarksChange number (c.stock call.entity) (l.map TracedRecord.mark)
        (l'.map TracedRecord.mark) := by
  -- by what the call makes: one record comes, one is merged in its place, or some go
  cases h with
  | @create entity attributes id hid =>
    simp only [Call.trace, Change.adding, Call.entity] at hl ⊢
    constructor
    · have hstock := Collections.stock_adding c entity (newRecord id attributes) entity
      rw [if_pos rfl] at hstock
      rw [List.map_append, hl]
      exact hstock.symm
    · rw [List.map_append, List.map_singleton, TracedRecord.mark, field?_newRecord, if_pos rfl]
      exact .come (isNextId_of_nextId? hid)
  | @update entity id attributes fields records before after hrecords hfirst =>
    simp only [Call.trace, Change.merging, Call.entity] at hl ⊢
    rw [Collections.stock_of_get? hrecords] at hl
    rw [← hl] at hfirst
    obtain ⟨before', a, after', hfirst', rfl, ha, rfl⟩ := hfirst.of_map
    rw [hfirst'.modify, Collections.stock_replace hrecords, if_pos rfl]
    constructor
    · rw [List.map_append, List.map_cons]
    · -- the changed record has the `id` that it had
      have hmark : TracedRecord.mark
          { a with record := .object (merge fields (Keyed.remove "id" attributes)).fields } =
            a.mark := by
        rw [TracedRecord.mark, TracedRecord.mark, ha]
        exact congrArg (Prod.mk a.origin) (get?_id_merge fields attributes)
      have hmarks : l.map TracedRecord.mark = (before' ++ TracedRecord.mk a.origin
          (.object (merge fields (Keyed.remove "id" attributes)).fields) :: after').map
            TracedRecord.mark := by
        rw [hfirst'.eq_append, List.map_append, List.map_append, List.map_cons, List.map_cons, hmark]
      rw [← hmarks]
      exact .gone (List.Sublist.refl _)
  | @delete entity id records before after record hrecords hfirst =>
    simp only [Call.trace, Change.removing, Call.entity] at hl ⊢
    rw [Collections.stock_of_get? hrecords] at hl
    rw [← hl] at hfirst
    obtain ⟨before', a, after', hfirst', rfl, ha, rfl⟩ := hfirst.of_map
    rw [hfirst'.eraseP, Collections.stock_replace hrecords, if_pos rfl]
    constructor
    · rw [List.map_append]
    · rw [← hfirst'.eraseP]
      exact .gone (List.eraseP_sublist.map _)
  | @deleteWhere entity plan records hrecords =>
    simp only [Call.trace, Change.removing, Call.entity] at hl ⊢
    rw [Collections.stock_of_get? hrecords] at hl
    rw [Collections.stock_replace hrecords, if_pos rfl]
    constructor
    · rw [← hl, List.filter_map]
      rfl
    · exact .gone (List.filter_sublist.map _)

/-! ## What holds along the way -/

/-- The id that the value of an attribute `id` stands for. -/
def idOfValue? : Option Json → Option UInt64
  | some (.number n) => idOfNumber? n
  | some (.string s) => idOfText? s
  | _ => none

theorem recordId?_eq_idOfValue? (record : Json) :
    recordId? record = idOfValue? (record.field? "id") := rfl

/-- An origin and an `id` are those of a record that was there at first. -/
def IsLoaded (loaded : List Json) (mark : Origin × Option Json) : Prop :=
  ∃ position record, mark.1 = .loaded position ∧ loaded[position]? = some record ∧
    mark.2 = record.field? "id"

/-- Two records differ in their origins, and in their ids unless both were there at first. -/
def Apart (loaded : List Json) (a b : Origin × Option Json) : Prop :=
  a.1 ≠ b.1 ∧
    (idOfValue? a.2 = idOfValue? b.2 → IsLoaded loaded a ∧ IsLoaded loaded b)

/-- Marks of an entity in which every record is loaded or was made by one of so many calls. -/
structure MarksSound (loaded : List Json) (calls : Nat) (marks : List (Origin × Option Json)) :
    Prop where
  known : ∀ mark ∈ marks, IsLoaded loaded mark ∨ ∃ number < calls, mark.1 = .made number
  apart : marks.Pairwise (Apart loaded)

/-- The mark that a call makes is that of no call before. -/
theorem MarksSound.origin_ne {loaded : List Json} {calls : Nat}
    {marks : List (Origin × Option Json)} (h : MarksSound loaded calls marks)
    {mark : Origin × Option Json} (hmark : mark ∈ marks) : mark.1 ≠ .made calls := by
  intro hmade
  rcases h.known mark hmark with ⟨position, record, hloaded, -, -⟩ | ⟨number, hlt, hnumber⟩
  · rw [hmade] at hloaded
    cases hloaded
  · rw [hmade] at hnumber
    cases hnumber
    exact Nat.lt_irrefl _ hlt

/-- Two marks of one origin are one mark. -/
theorem MarksSound.eq_of_origin_eq {loaded : List Json} {calls : Nat}
    {marks : List (Origin × Option Json)} (h : MarksSound loaded calls marks)
    {a b : Origin × Option Json} (ha : a ∈ marks) (hb : b ∈ marks) (horigin : a.1 = b.1) :
    a = b := by
  have hpairs : marks.Pairwise fun a b => a.1 = b.1 → a = b :=
    h.apart.imp fun hab heq => absurd heq hab.1
  have hflip : marks.Pairwise (flip fun a b => a.1 = b.1 → a = b) :=
    h.apart.imp fun hab heq => absurd heq.symm hab.1
  exact hpairs.forall_of_forall_of_flip (fun _ _ _ => rfl) hflip ha hb horigin

theorem MarksSound.step {loaded stock : List Json} {calls : Nat}
    {marks marks' : List (Origin × Option Json)} (h : MarksSound loaded calls marks)
    (hids : ∀ mark ∈ marks, ∃ record ∈ stock, mark.2 = record.field? "id")
    (hchange : MarksChange calls stock marks marks') : MarksSound loaded (calls + 1) marks' := by
  have hknown (mark : Origin × Option Json) (hmark : mark ∈ marks) :
      IsLoaded loaded mark ∨ ∃ number < calls + 1, mark.1 = .made number := by
    rcases h.known mark hmark with hloaded | ⟨number, hlt, hnumber⟩
    · exact Or.inl hloaded
    · exact Or.inr ⟨number, by omega, hnumber⟩
  cases hchange with
  | gone hsub =>
    constructor
    · intro mark hmark
      exact hknown mark (hsub.subset hmark)
    · exact h.apart.sublist hsub
  | @come id hnext =>
    constructor
    · intro mark hmark
      rcases List.mem_append.mp hmark with hmark | hmark
      · exact hknown mark hmark
      · rw [List.mem_singleton.mp hmark]
        exact Or.inr ⟨calls, by omega, rfl⟩
    · refine List.pairwise_append.mpr ⟨h.apart, List.pairwise_singleton _ _, ?_⟩
      intro a ha b hb
      rw [List.mem_singleton.mp hb]
      refine ⟨h.origin_ne ha, ?_⟩
      intro hid
      -- the id is the next one, which no record has
      obtain ⟨record, hrecord, ha2⟩ := hids a ha
      have hrecordId : recordId? record = some id := by
        rw [recordId?_eq_idOfValue?, ← ha2, hid]
        exact recordId?_newRecord id []
      exact absurd (hnext.greater record hrecord id hrecordId) (UInt64.lt_irrefl id)

namespace Tracing

/-- The origins and ids of an entity. -/
def marks (t : Tracing σ) (entity : String) : List (Origin × Option Json) :=
  (t.records entity).map TracedRecord.mark

/-- The traced records are those of the store, and their marks are sound. -/
structure Sound (first : Collections) (t : Tracing σ) : Prop where
  mirrors : ∀ entity,
    (t.records entity).map TracedRecord.record = t.store.collections.stock entity
  marks : ∀ entity, MarksSound (first.stock entity) t.calls (t.marks entity)

variable {first : Collections} {t : Tracing σ}

/-- Every mark is that of a record in the store. -/
theorem Sound.record_of_mark (h : t.Sound first) {entity : String} {mark : Origin × Option Json}
    (hmark : mark ∈ t.marks entity) :
    ∃ record ∈ t.store.collections.stock entity, mark.2 = record.field? "id" := by
  obtain ⟨traced, htraced, rfl⟩ := List.mem_map.mp hmark
  refine ⟨traced.record, ?_, rfl⟩
  rw [← h.mirrors entity]
  exact List.mem_map_of_mem htraced

/-- What a call leaves of an entity mirrors the store, and marks change as they may. -/
theorem Sound.call_records (h : t.Sound first) (call : Call) (entity : String) :
    ((t.call call).records entity).map TracedRecord.record =
        (t.call call).store.collections.stock entity ∧
      MarksChange t.calls (t.store.collections.stock entity) (t.marks entity)
        ((t.call call).marks entity) := by
  have hunchanged : MarksChange t.calls (t.store.collections.stock entity) (t.marks entity)
      (t.marks entity) := .gone (List.Sublist.refl _)
  simp only [Tracing.marks, Tracing.call]
  rcases t.store.call_cases call with ⟨e, hcall⟩ | ⟨change, hmakes, hcall⟩
  · rw [hcall]
    exact ⟨h.mirrors entity, hunchanged⟩
  · rw [hcall]
    simp only [Store.carryOut]
    -- only the entity of the call is touched
    split
    · rename_i hentity
      subst hentity
      exact hmakes.trace t.calls (h.mirrors call.entity)
    · rename_i hentity
      rw [hmakes.stock_of_ne hentity]
      exact ⟨h.mirrors entity, hunchanged⟩

theorem Sound.call (h : t.Sound first) (call : Call) : (t.call call).Sound first where
  mirrors entity := (h.call_records call entity).1
  marks entity :=
    (h.marks entity).step (fun _ => h.record_of_mark) (h.call_records call entity).2

theorem Sound.callAll (h : t.Sound first) (calls : List Call) : (t.callAll calls).Sound first := by
  induction calls generalizing t with
  | nil => exact h
  | cons call calls ih => exact ih (h.call call)

theorem sound_start (s : Store σ) : (start s).Sound s.collections where
  mirrors entity := by
    -- the origin of a record that was there at first is its position
    apply List.ext_getElem
    · simp [start]
    · intro position h h'
      simp [start]
  marks entity := by
    have hloaded (position : Nat) (hposition : position < (s.collections.stock entity).length) :
        IsLoaded (s.collections.stock entity)
          (TracedRecord.mark ⟨.loaded position, (s.collections.stock entity)[position]⟩) :=
      ⟨position, _, rfl, List.getElem?_eq_getElem hposition, rfl⟩
    constructor
    · intro mark hmark
      obtain ⟨traced, htraced, rfl⟩ := List.mem_map.mp hmark
      obtain ⟨position, hposition, rfl⟩ := List.mem_mapIdx.mp htraced
      exact Or.inl (hloaded position hposition)
    · rw [Tracing.marks, List.pairwise_map, List.pairwise_iff_getElem]
      intro i j hi hj hij
      simp only [start, List.length_mapIdx] at hi hj
      simp only [start, List.getElem_mapIdx]
      refine ⟨?_, fun _ => ⟨hloaded i hi, hloaded j hj⟩⟩
      intro horigin
      cases horigin
      exact Nat.lt_irrefl _ hij

/-- A record that a call leaves has the `id` that it had. -/
theorem Sound.id_call (h : t.Sound first) (call : Call) {entity : String} {a b : TracedRecord}
    (ha : a ∈ t.records entity) (hb : b ∈ (t.call call).records entity)
    (horigin : a.origin = b.origin) : b.record.field? "id" = a.record.field? "id" := by
  have hmark : a.mark ∈ t.marks entity := List.mem_map_of_mem ha
  have hmark' : b.mark ∈ (t.call call).marks entity := List.mem_map_of_mem hb
  have hchange := (h.call_records call entity).2
  have hold : b.mark ∈ t.marks entity := by
    generalize (t.call call).marks entity = marks' at hmark' hchange
    -- a change lets marks go or brings one new one
    cases hchange with
    | gone hsub => exact hsub.subset hmark'
    | come hnext =>
      rcases List.mem_append.mp hmark' with hold | hnew
      · exact hold
      · -- what has just been made was not there before
        have hmade : b.origin = .made t.calls := congrArg Prod.fst (List.mem_singleton.mp hnew)
        exact absurd (horigin.trans hmade) ((h.marks entity).origin_ne hmark)
  exact congrArg Prod.snd ((h.marks entity).eq_of_origin_eq hold hmark horigin.symm)

end Tracing

/-- From any collections and through any calls, each record can be traced. A creation fails where the
greatest id is taken; else its record, which is found at once, gets the id next to all of its entity. No
call changes the `id` of a record that it leaves, so that two records of an entity have one id only if
both were there at first. -/
theorem Store.ids_assigned_and_kept (s : Store σ) (calls : List Call) :
    let t := (Tracing.start s).callAll calls
    (t.store = s.callAll calls ∧
      ∀ entity, (t.records entity).map TracedRecord.record = t.store.collections.stock entity) ∧
    (∀ entity attributes,
      let stock := t.store.collections.stock entity
      let outcome := t.store.call (.create entity (.object attributes))
      (Exhausted stock → outcome = (.error (.idExhausted entity), t.store)) ∧
      (¬Exhausted stock → ∃ id record,
        IsNextId stock id ∧
        record = .object (Keyed.put "id" (.ofId id) (Keyed.remove "id" attributes)) ∧
        outcome.1 = .ok (.one record) ∧
        outcome.2.collections.get? entity = some (stock ++ [record]) ∧
        outcome.2.collections.find entity id = .ok record)) ∧
    (∀ call entity, ∀ a ∈ t.records entity, ∀ b ∈ (t.call call).records entity,
      a.origin = b.origin → b.record.field? "id" = a.record.field? "id") ∧
    ∀ entity, (t.records entity).Pairwise fun a b =>
      a.origin ≠ b.origin ∧
        (recordId? a.record = recordId? b.record →
          IsLoaded (s.collections.stock entity) a.mark ∧
            IsLoaded (s.collections.stock entity) b.mark) := by
  intro t
  -- that the tracing is sound is the invariant of the run, and each part below follows from it
  have hsound : t.Sound s.collections := (Tracing.sound_start s).callAll calls
  refine ⟨⟨Tracing.store_callAll _ calls, hsound.mirrors⟩, ?_, ?_, ?_⟩
  · intro entity attributes
    constructor
    · intro hexhausted
      exact call_create_of_exhausted hexhausted attributes
    · intro hleft
      obtain ⟨id, hnext, hcall⟩ := call_create_of_not_exhausted hleft attributes
      refine ⟨id, newRecord id attributes, hnext, rfl, ?_, ?_, ?_⟩
      · rw [hcall]
        rfl
      · rw [hcall]
        exact (Change.get?_adding _ entity).trans (if_pos rfl)
      · rw [hcall]
        exact Change.find_adding hnext attributes
  · intro call entity a ha b hb horigin
    exact hsound.id_call call ha hb horigin
  · intro entity
    exact List.pairwise_map.mp (hsound.marks entity).apart

/-- One entity has used up its ids; in another one two records share an id, which an update leaves. -/
theorem Store.ids_assigned_and_kept_twins :
    let last := Json.object [("id", .ofId greatestId)]
    let twin := Json.object [("id", .string "7")]
    let s := Store.quiet [("full", [last]), ("notes", [twin, twin])]
    (s.call (.create "full" (.object []))).1 = .error (.idExhausted "full") ∧
      (∃ id, IsNextId [twin, twin] id ∧
        (s.call (.create "notes" (.object [("id", .null)]))).1 =
          .ok (.one (.object [("id", .ofId id)]))) ∧
      (∀ b ∈ ((Tracing.start s).call (.update "notes" 7 (.object [("id", .null)]))).records "notes",
        b.origin = .loaded 0 → b.record.field? "id" = some (.string "7")) ∧
      IsLoaded [twin, twin] (.loaded 1, some (.string "7")) := by
  intro last twin s
  obtain ⟨-, hcreate, hkept, hapart⟩ := Store.ids_assigned_and_kept s []
  refine ⟨?_, ?_, ?_, ?_⟩
  · have hfull : Exhausted [last] := ⟨last, List.mem_cons_self, rfl⟩
    exact congrArg Prod.fst ((hcreate "full" []).1 hfull)
  · have hleft : ¬Exhausted [twin, twin] := by
      rintro ⟨record, hrecord, hid⟩
      have htwin : record = twin := by simpa using hrecord
      rw [htwin] at hid
      exact absurd hid (by decide)
    obtain ⟨id, record, hnext, rfl, hanswer, -, -⟩ := (hcreate "notes" [("id", .null)]).2 hleft
    exact ⟨id, hnext, hanswer⟩
  · intro b hb horigin
    exact hkept _ "notes" ⟨.loaded 0, twin⟩ List.mem_cons_self b hb horigin.symm
  · have htwins := (List.pairwise_cons.mp (hapart "notes")).1 ⟨.loaded 1, twin⟩ List.mem_cons_self
    exact (htwins.2 rfl).2

end RecordFilter
