import RecordFilter.Proofs.Json.Leaves
import RecordFilter.Proofs.Json.Order

/-!
# Printed values are read back

An indented text is first taken apart into lexemes, and the lexemes are then put together to the value
that was printed.

* `Json.lexemes` are the lexemes of a printed value, `Lexing.Reads` says that characters are read as
  lexemes.
* `Dialect.Reads` says what a dialect has to make of scalars; `Dialect.json5` does.
* `Dialect.Reads.read?_pretty`: the text of a value, with a line end, is read as the value.
-/

namespace RecordFilter.Json

mutual

/-- The lexemes of a printed value. -/
def lexemes : Json → List Lexeme
  | .null => [.bare "null".toList]
  | .bool b => [.bare (boolText b)]
  | .number n => [.bare n.text]
  | .string s => [.quoted (s.toList.flatMap escapeChar)]
  | .array items => .mark '[' :: (itemLexemes items ++ [.mark ']'])
  | .object fields => .mark '{' :: (fieldLexemes fields ++ [.mark '}'])

/-- The lexemes of items, with a comma between neighbours. -/
def itemLexemes : List Json → List Lexeme
  | [] => []
  | [v] => lexemes v
  | v :: w :: rest => lexemes v ++ .mark ',' :: itemLexemes (w :: rest)

/-- The lexemes of fields, with a comma between neighbours. -/
def fieldLexemes : List (String × Json) → List Lexeme
  | [] => []
  | [(k, v)] => .quoted (k.toList.flatMap escapeChar) :: .mark ':' :: lexemes v
  | (k, v) :: f :: rest =>
    .quoted (k.toList.flatMap escapeChar) :: .mark ':' ::
      (lexemes v ++ .mark ',' :: fieldLexemes (f :: rest))

end

/-! ## Taking a text apart -/

namespace Lexing

/-- The characters of a printed text separate its lexemes. -/
structure Standard (l : Lexing) : Prop where
  newLine : l.isBlank '\n' = true
  blank : l.isBlank ' ' = true
  quote : l.isQuote '"' = true ∧ l.isBlank '"' = false
  mark : "[]{}:,".toList.all (fun c => !l.isBlank c) = true
  word : "nulltruefalse".toList.all l.isBare = true
  number : Number.chars.all l.isBare = true

/-- Characters are read as these lexemes, if no run goes on after them. -/
def Reads (l : Lexing) (chars : List Char) (lexemes : List Lexeme) : Prop :=
  ∀ done c rest, l.isBare c = false →
    (chars ++ c :: rest).foldlM l.step ⟨.between, done⟩ =
      (c :: rest).foldlM l.step ⟨.between, lexemes.reverse ++ done⟩

/-- What begins with this character is no part of a run before it. -/
def Separate (l : Lexing) (chars : List Char) : Prop :=
  ∃ c rest, chars = c :: rest ∧ l.isBare c = false

theorem isMark_of_mem {c : Char} (h : c ∈ "[]{}:,".toList) : isMark c = true := by
  have hall : "[]{}:,".toList.all isMark = true := by decide
  exact List.all_eq_true.mp hall c h

variable {l : Lexing} {chars a b : List Char} {xs ys : List Lexeme}

theorem separate_newLine (hl : l.Standard) (level : Nat) (rest : List Char) :
    l.Separate (newLine level ++ rest) := by
  refine ⟨'\n', List.replicate (2 * level) ' ' ++ rest, rfl, ?_⟩
  rw [isBare, hl.newLine]
  rfl

theorem separate_mark {c : Char} (hc : c ∈ "[]{}:,".toList) (rest : List Char) :
    l.Separate (c :: rest) := by
  refine ⟨c, rest, rfl, ?_⟩
  rw [isBare, isMark_of_mem hc, Bool.or_true]
  rfl

theorem reads_nil : l.Reads [] [] := fun _ _ _ _ => rfl

theorem Reads.append (ha : l.Reads a xs) (hb : l.Reads b ys) (hsep : l.Separate b) :
    l.Reads (a ++ b) (xs ++ ys) := by
  intro done c rest hc
  -- a run at the end of the first part ends where the second one begins
  obtain ⟨d, b', rfl, hd⟩ := hsep
  rw [List.append_assoc, List.cons_append, ha done d _ hd, ← List.cons_append, hb _ c rest hc,
    List.reverse_append, List.append_assoc]

theorem Reads.mark (hl : l.Standard) {c : Char} (hc : c ∈ "[]{}:,".toList) (hb : l.Reads b ys) :
    l.Reads (c :: b) (.mark c :: ys) := by
  intro done d rest hd
  have hblank : l.isBlank c = false := by simpa using List.all_eq_true.mp hl.mark c hc
  have hstep : l.step ⟨.between, done⟩ c = some ⟨.between, .mark c :: done⟩ := by
    simp [step, stepBetween, hblank, isMark_of_mem hc]
  rw [List.cons_append, List.foldlM_cons, hstep, Option.bind_eq_bind, Option.bind_some,
    hb _ d rest hd, List.reverse_cons, List.append_assoc]
  rfl

theorem Reads.blank {c : Char} (hc : l.isBlank c = true) (hb : l.Reads b ys) :
    l.Reads (c :: b) ys := by
  intro done d rest hd
  have hstep : l.step ⟨.between, done⟩ c = some ⟨.between, done⟩ := by
    simp [step, stepBetween, hc]
  rw [List.cons_append, List.foldlM_cons, hstep, Option.bind_eq_bind, Option.bind_some,
    hb _ d rest hd]

theorem Reads.newLine (hl : l.Standard) (level : Nat) (hb : l.Reads b ys) :
    l.Reads (newLine level ++ b) ys := by
  refine Reads.blank hl.newLine ?_
  induction 2 * level with
  | zero => exact hb
  | succ n ih => exact Reads.blank hl.blank ih

theorem foldlM_bare {run : List Char} (hrun : ∀ c ∈ run, l.isBare c = true) (before : List Char)
    (done : List Lexeme) :
    run.foldlM l.step ⟨.inRun before, done⟩ = some ⟨.inRun (run.reverse ++ before), done⟩ := by
  induction run generalizing before with
  | nil => rfl
  | cons c run ih =>
    obtain ⟨hc, hrun⟩ := List.forall_mem_cons.mp hrun
    have hstep : l.step ⟨.inRun before, done⟩ c = some ⟨.inRun (c :: before), done⟩ := by
      simp [step, hc]
    rw [List.foldlM_cons, hstep, Option.bind_eq_bind, Option.bind_some, ih hrun,
      List.reverse_cons, List.append_assoc]
    rfl

/-- A run ends before the first character that is not bare. -/
theorem reads_run {run : List Char} (hne : run ≠ []) (hrun : ∀ c ∈ run, l.isBare c = true) :
    l.Reads run [.bare run] := by
  intro done d rest hd
  obtain ⟨c, run, rfl⟩ := List.exists_cons_of_ne_nil hne
  obtain ⟨hc, hrun⟩ := List.forall_mem_cons.mp hrun
  have hfirst : l.step ⟨.between, done⟩ c = some ⟨.inRun [c], done⟩ := by
    simp only [isBare, Bool.not_eq_true', Bool.or_eq_false_iff] at hc
    obtain ⟨⟨⟨hblank, hmark⟩, hquote⟩, hcomment⟩ := hc
    simp [step, stepBetween, hblank, hmark, hquote, hcomment]
  -- the character after the run is read as if it stood between lexemes
  have hlast : l.step ⟨.inRun (run.reverse ++ [c]), done⟩ d =
      l.step ⟨.between, .bare (c :: run) :: done⟩ d := by
    simp [step, hd]
  rw [List.cons_append, List.foldlM_cons, hfirst, Option.bind_eq_bind, Option.bind_some,
    List.foldlM_append, foldlM_bare hrun, Option.bind_eq_bind, Option.bind_some,
    List.foldlM_cons, hlast, List.reverse_singleton, List.singleton_append, List.foldlM_cons]

theorem hexDigit_ne : ∀ n < 16, hexDigit n ≠ '"' ∧ hexDigit n ≠ '\\' := by decide

/-- No character ends the quoted string that it stands in. -/
theorem foldlM_escapeChar (c : Char) (body : List Char) (done : List Lexeme) :
    (escapeChar c).foldlM l.step ⟨.inQuotes '"' body, done⟩ =
      some ⟨.inQuotes '"' ((escapeChar c).reverse ++ body), done⟩ := by
  have hpair (e : Char) :
      ['\\', e].foldlM l.step ⟨.inQuotes '"' body, done⟩ =
        some ⟨.inQuotes '"' (e :: '\\' :: body), done⟩ := by
    simp [step]
  rw [escapeChar]
  -- by the cases of the escaping, of which all but the last two are a backslash and a letter
  split_ifs with hquote hslash h3 h4 h5 h6 h7 hcontrol
  · exact hpair '"'
  · exact hpair '\\'
  · exact hpair 'n'
  · exact hpair 'r'
  · exact hpair 't'
  · exact hpair 'b'
  · exact hpair 'f'
  · -- the digits of a code are neither a quote nor a backslash
    obtain ⟨hq1, hs1⟩ := hexDigit_ne (c.toNat / 16) (by omega)
    obtain ⟨hq2, hs2⟩ := hexDigit_ne (c.toNat % 16) (by omega)
    simp [step, hq1, hs1, hq2, hs2]
  · simp [step, hquote, hslash]

theorem Reads.quote (hl : l.Standard) (s : String) (hb : l.Reads b ys) :
    l.Reads (quote s ++ b) (.quoted (s.toList.flatMap escapeChar) :: ys) := by
  intro done d rest hd
  have hopen : l.step ⟨.between, done⟩ '"' = some ⟨.inQuotes '"' [], done⟩ := by
    simp [step, stepBetween, hl.quote, isMark]
  -- inside the quotes the lexer only collects, one escaped character after the other
  have hbody (s : List Char) (before : List Char) :
      (s.flatMap escapeChar).foldlM l.step ⟨.inQuotes '"' before, done⟩ =
        some ⟨.inQuotes '"' ((s.flatMap escapeChar).reverse ++ before), done⟩ := by
    induction s generalizing before with
    | nil => rfl
    | cons c s ih =>
      rw [List.flatMap_cons, List.foldlM_append, foldlM_escapeChar, Option.bind_eq_bind,
        Option.bind_some, ih, List.reverse_append, List.append_assoc]
  have hclose (body : List Char) :
      l.step ⟨.inQuotes '"' body, done⟩ '"' = some ⟨.between, .quoted body.reverse :: done⟩ := by
    simp [step]
  rw [Json.quote, List.cons_append, List.cons_append, List.foldlM_cons, hopen, Option.bind_eq_bind,
    Option.bind_some, List.append_assoc, List.append_assoc, List.foldlM_append, hbody,
    Option.bind_eq_bind, Option.bind_some, List.append_nil, List.singleton_append,
    List.foldlM_cons, hclose, Option.bind_eq_bind, Option.bind_some, List.reverse_reverse,
    hb _ d rest hd, List.reverse_cons, List.append_assoc]
  rfl

/-! ### Printed values -/

theorem reads_null (hl : l.Standard) : l.Reads "null".toList [.bare "null".toList] :=
  reads_run (by decide) fun c hc => List.all_eq_true.mp hl.word c (List.mem_append_left _ hc)

theorem reads_boolText (hl : l.Standard) (b : Bool) : l.Reads (boolText b) [.bare (boolText b)] := by
  have hsubset : ∀ b, boolText b ≠ [] ∧ boolText b ⊆ "nulltruefalse".toList := by decide
  obtain ⟨hne, hchars⟩ := hsubset b
  exact reads_run hne fun c hc => List.all_eq_true.mp hl.word c (hchars hc)

theorem reads_text (hl : l.Standard) (n : Number) : l.Reads n.text [.bare n.text] :=
  reads_run n.text_ne_nil fun c hc => List.all_eq_true.mp hl.number c (n.text_subset_chars hc)

mutual

theorem reads_prettyChars (hl : l.Standard) (level : Nat) :
    (v : Json) → l.Reads (prettyChars level v) (lexemes v)
  | .null => reads_null hl
  | .bool b => reads_boolText hl b
  | .number n => reads_text hl n
  | .string s => by
    have h := Reads.quote hl s reads_nil
    rwa [List.append_nil] at h
  | .array [] => Reads.mark hl (by decide) (Reads.mark hl (by decide) reads_nil)
  | .array (v :: rest) => by
    have hitems := reads_prettyItems hl (level + 1) (v :: rest)
    have hend := Reads.newLine hl level (Reads.mark (c := ']') hl (by decide) reads_nil)
    have hall := hitems.append hend (separate_newLine hl level _)
    rw [← List.append_assoc] at hall
    exact Reads.mark hl (by decide) hall
  | .object [] => Reads.mark hl (by decide) (Reads.mark hl (by decide) reads_nil)
  | .object (f :: rest) => by
    have hfields := reads_prettyFields hl (level + 1) (f :: rest)
    have hend := Reads.newLine hl level (Reads.mark (c := '}') hl (by decide) reads_nil)
    have hall := hfields.append hend (separate_newLine hl level _)
    rw [← List.append_assoc] at hall
    exact Reads.mark hl (by decide) hall

theorem reads_prettyItems (hl : l.Standard) (level : Nat) :
    (items : List Json) → l.Reads (prettyItems level items) (itemLexemes items)
  | [] => reads_nil
  | [v] => Reads.newLine hl level (reads_prettyChars hl level v)
  | v :: w :: rest => by
    have hrest := Reads.mark (c := ',') hl (by decide) (reads_prettyItems hl level (w :: rest))
    have hall := (reads_prettyChars hl level v).append hrest (separate_mark (by decide) _)
    have h := Reads.newLine hl level hall
    rwa [← List.append_assoc] at h

theorem reads_prettyFields (hl : l.Standard) (level : Nat) :
    (fields : List (String × Json)) → l.Reads (prettyFields level fields) (fieldLexemes fields)
  | [] => reads_nil
  | [(k, v)] => by
    have hvalue := Reads.mark (c := ':') hl (by decide)
      (Reads.blank hl.blank (reads_prettyChars hl level v))
    have h := Reads.newLine hl level (Reads.quote hl k hvalue)
    rwa [← List.append_assoc] at h
  | (k, v) :: f :: rest => by
    have hrest := Reads.mark (c := ',') hl (by decide) (reads_prettyFields hl level (f :: rest))
    have hall := (reads_prettyChars hl level v).append hrest (separate_mark (by decide) _)
    have hvalue := Reads.mark (c := ':') hl (by decide) (Reads.blank hl.blank hall)
    have h := Reads.newLine hl level (Reads.quote hl k hvalue)
    rwa [← List.append_assoc] at h

end

end Lexing

/-! ## Putting a value together -/

namespace Dialect

/-- The dialect reads printed scalars, and has no bound on how deep values nest. -/
structure Reads (d : Dialect) : Prop where
  lexing : d.lexing.Standard
  text : ∀ s, d.text? (s.flatMap escapeChar) = some s
  null : d.value? "null".toList = some .null
  bool : ∀ b, d.value? (boolText b) = some (.bool b)
  number : ∀ n : Number, d.value? n.text = some (.number n)
  depth : d.depth? = none

/-- A value may come next, inside of these arrays and objects. -/
inductive Expects : State → List Frame → Prop
  | value (stack : List Frame) : Expects ⟨.value, stack⟩ stack
  | item (items : List Json) (closable : Bool) (stack : List Frame) :
    Expects ⟨.item items closable, stack⟩ (.array items :: stack)

theorem Expects.step {s : State} {stack : List Frame} (h : Expects s stack) (d : Dialect)
    {x : Lexeme} (hx : x ≠ .mark ']') : d.step s x = d.openValue stack x := by
  cases h with
  | value => rfl
  | item items closable => simp only [Dialect.step, if_neg hx]

/-- A value that comes next is read. -/
def ReadsValue (d : Dialect) (v : Json) : Prop :=
  ∀ s stack, Expects s stack → (lexemes v).foldlM d.step s = some ⟨.done v, stack⟩

variable {d : Dialect}

theorem readsValue_bare {run : List Char} {v : Json} (hlexemes : lexemes v = [.bare run])
    (hv : d.value? run = some v) : d.ReadsValue v := by
  intro s stack hs
  rw [hlexemes, List.foldlM_cons, hs.step d (by simp), openValue, hv]
  rfl

theorem readsValue_string (hd : d.Reads) (s : String) : d.ReadsValue (.string s) := by
  intro t stack ht
  rw [lexemes, List.foldlM_cons, ht.step d (by simp), openValue, hd.text, Option.map_some,
    String.ofList_toList]
  rfl

theorem roomFor_of_depth (hd : d.Reads) (stack : List Frame) : d.roomFor stack = true := by
  rw [roomFor, hd.depth]

/-- The items that are left, and the end of the array. -/
theorem foldlM_itemLexemes (stack : List Frame) (v : Json) (rest : List Json)
    (hread : ∀ w ∈ v :: rest, d.ReadsValue w) (before : List Json) (closable : Bool) :
    (itemLexemes (v :: rest) ++ [Lexeme.mark ']']).foldlM d.step ⟨.item before closable, stack⟩ =
      some ⟨.done (.array (before.reverse ++ v :: rest)), stack⟩ := by
  induction rest generalizing v before closable with
  | nil =>
    have hv := hread v List.mem_cons_self _ _ (Expects.item before closable stack)
    simp [itemLexemes, List.foldlM_append, hv, step, afterValue]
  | cons w rest ih =>
    obtain ⟨hv, hrest⟩ := List.forall_mem_cons.mp hread
    have hfirst := hv _ _ (Expects.item before closable stack)
    -- after the comma, the value is one of the items before
    have hothers := ih w hrest (v :: before) d.trailingCommas
    simpa [itemLexemes, List.foldlM_append, hfirst, step, afterValue] using hothers

/-- The fields that are left, and the end of the object. -/
theorem foldlM_fieldLexemes (hd : d.Reads) (stack : List Frame) (f : String × Json)
    (rest : List (String × Json)) (hread : ∀ e ∈ f :: rest, d.ReadsValue e.2) (before : Keyed Json)
    (hordered : Keyed.Ordered (before ++ f :: rest)) (closable : Bool) :
    (fieldLexemes (f :: rest) ++ [Lexeme.mark '}']).foldlM d.step ⟨.name before closable, stack⟩ =
      some ⟨.done (.object (before ++ f :: rest)), stack⟩ := by
  induction rest generalizing f before closable with
  | nil =>
    obtain ⟨k, v⟩ := f
    have hv := hread (k, v) List.mem_cons_self _ _ (Expects.value (.object before k :: stack))
    have hput := Keyed.put_of_forall_lt (Keyed.lt_of_ordered_append hordered) v
    simp [fieldLexemes, List.foldlM_append, hd.text, hv, step, afterValue, hput]
  | cons g rest ih =>
    obtain ⟨k, v⟩ := f
    obtain ⟨hv, hrest⟩ := List.forall_mem_cons.mp hread
    have hvalue := hv _ _ (Expects.value (.object before k :: stack))
    -- the name is greater than all before it, so that its field is put at the end
    have hput := Keyed.put_of_forall_lt (Keyed.lt_of_ordered_append hordered) v
    have hothers := ih g hrest (before ++ [(k, v)]) (by rwa [List.append_assoc]) d.trailingCommas
    simpa [fieldLexemes, List.foldlM_append, hd.text, hvalue, step, afterValue, hput] using hothers

theorem readsValue (hd : d.Reads) {v : Json} (hv : v.Ordered) : d.ReadsValue v := by
  induction hv with
  | null => exact readsValue_bare rfl hd.null
  | bool b => exact readsValue_bare rfl (hd.bool b)
  | number n => exact readsValue_bare rfl (hd.number n)
  | string s => exact readsValue_string hd s
  | array _ ih =>
    rename_i items _
    intro s stack hs
    have hopen : d.step s (.mark '[') = some ⟨.item [] true, stack⟩ := by
      rw [hs.step d (by decide), openValue, if_pos (roomFor_of_depth hd stack)]
    rw [lexemes, List.foldlM_cons, hopen, Option.bind_eq_bind, Option.bind_some]
    -- an empty array has no item to begin with, and ends at once
    cases items with
    | nil => simp [itemLexemes, step]
    | cons w rest => exact foldlM_itemLexemes stack w rest ih [] true
  | object keys _ ih =>
    rename_i fields _
    intro s stack hs
    have hopen : d.step s (.mark '{') = some ⟨.name [] true, stack⟩ := by
      rw [hs.step d (by decide), openValue, if_pos (roomFor_of_depth hd stack)]
    rw [lexemes, List.foldlM_cons, hopen, Option.bind_eq_bind, Option.bind_some]
    cases fields with
    | nil => simp [fieldLexemes, step]
    | cons f rest => exact foldlM_fieldLexemes hd stack f rest ih [] keys true

/-- The text of a value, with a line end, is read as the value. -/
theorem Reads.read?_pretty (hd : d.Reads) {v : Json} (hv : v.Ordered) :
    d.read? (v.pretty ++ "\n") = some v := by
  have hbare : d.lexing.isBare '\n' = false := by
    rw [Lexing.isBare, hd.lexing.newLine]
    rfl
  have hline (done : List Lexeme) : d.lexing.step ⟨.between, done⟩ '\n' = some ⟨.between, done⟩ := by
    simp [Lexing.step, Lexing.stepBetween, hd.lexing.newLine]
  -- the line end is read between two lexemes, so it adds none
  have hscan : Lexeme.scan? d.lexing (prettyChars 0 v ++ ['\n']) = some (lexemes v) := by
    rw [Lexeme.scan?, Lexing.reads_prettyChars hd.lexing 0 v [] '\n' [] hbare, List.foldlM_cons,
      hline, Option.bind_eq_bind, Option.bind_some, List.append_nil]
    show some (lexemes v).reverse.reverse = _
    rw [List.reverse_reverse]
  have htext : (v.pretty ++ "\n").toList = prettyChars 0 v ++ ['\n'] := by
    rw [String.toList_append, pretty, String.toList_ofList]
    rfl
  rw [read?, htext, hscan, Option.bind_some, assemble?,
    readsValue hd hv _ _ (Expects.value []), Option.bind_some]
  rfl

theorem reads_json5 : Dialect.json5.Reads where
  lexing := {
    newLine := by decide
    blank := by decide
    quote := by decide
    mark := by decide
    word := by decide
    number := by decide }
  text := Json5.text?_flatMap_escapeChar
  null := Json5.value?_null
  bool := Json5.value?_boolText
  number := Json5.value?_text
  depth := rfl

end Dialect

end RecordFilter.Json
