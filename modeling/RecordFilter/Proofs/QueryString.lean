import RecordFilter.QueryString

/-!
# Expressions carried by a query string

An expression is written character by character, each as itself or by its bytes in hexadecimal digits, just
as the writer likes. What was written so is read back as the expressions, whatever characters they have.

* `QueryString.Encodes` says that a piece is an expression so written, `QueryString.Carries` that pieces are
  expressions with empty pieces among them, and `QueryString.IsQuery` that they make a query string.
* `QueryString.exists_isQuery`: any expressions but empty ones can be written so.
* `QueryString.decode_of_encodes` reads a piece.
* `QueryString.tokens_of_isQuery` reads a query string.
-/

namespace RecordFilter.QueryString

/-! ## Writing -/

/-- Items are written one after the other, each by a word that the relation allows. -/
inductive Written {α : Type} (R : α → List Char → Prop) : List α → List Char → Prop
  | nil : Written R [] []
  | cons {a : α} {as : List α} {s t : List Char} (head : R a s) (tail : Written R as t) :
    Written R (a :: as) (s ++ t)

/-- A hexadecimal digit in either case. -/
def IsHexDigit (n : Nat) (c : Char) : Prop :=
  c = hexDigit n ∨ c = (hexDigit n).toUpper

/-- A byte is written by a percent sign and two digits. -/
inductive WritesByte (b : UInt8) : List Char → Prop
  | digits {high low : Char} (hhigh : IsHexDigit (b.toNat / 16) high)
    (hlow : IsHexDigit (b.toNat % 16) low) : WritesByte b ['%', high, low]

/-- A character is written as itself, unless it is a percent sign or an ampersand, or by its bytes. -/
inductive WritesChar (c : Char) : List Char → Prop
  | literal (hpercent : c ≠ '%') (hampersand : c ≠ '&') : WritesChar c [c]
  | escaped {s : List Char} (h : Written WritesByte (String.utf8EncodeChar c) s) : WritesChar c s

/-- A piece is an expression, written character by character. -/
def Encodes (token piece : String) : Prop :=
  Written WritesChar token.toList piece.toList

/-- Pieces are expressions in this order, with empty pieces anywhere. -/
inductive Carries : List String → List String → Prop
  | nil : Carries [] []
  | gap {tokens texts : List String} (h : Carries tokens texts) : Carries tokens ("" :: texts)
  | piece {token text : String} {tokens texts : List String} (hne : token ≠ "")
    (hencodes : Encodes token text) (h : Carries tokens texts) :
    Carries (token :: tokens) (text :: texts)

/-- A query string is pieces between ampersands. A question mark may stand before them; where none does, the
pieces do not start with one. -/
inductive IsQuery (tokens : List String) : String → Prop
  | bare {texts : List String} (h : Carries tokens texts)
    (hopen : (joinWith "&" texts).toList.head? ≠ some '?') : IsQuery tokens (joinWith "&" texts)
  | marked {texts : List String} (h : Carries tokens texts) :
    IsQuery tokens ("?" ++ joinWith "&" texts)

/-- An expression without percent signs and ampersands can stand as it is. -/
theorem encodes_self {token : String} (h : ∀ c ∈ token.toList, c ≠ '%' ∧ c ≠ '&') :
    Encodes token token := by
  unfold Encodes
  generalize token.toList = cs at h
  induction cs with
  | nil => exact .nil
  | cons c cs ih =>
    obtain ⟨hpercent, hampersand⟩ := h c List.mem_cons_self
    exact .cons (.literal hpercent hampersand) (ih fun d hd => h d (List.mem_cons_of_mem _ hd))

theorem exists_written {α : Type} {R : α → List Char → Prop} (h : ∀ a, ∃ s, R a s) (as : List α) :
    ∃ s, Written R as s := by
  induction as with
  | nil => exact ⟨[], .nil⟩
  | cons a as ih =>
    obtain ⟨s, hs⟩ := h a
    obtain ⟨t, ht⟩ := ih
    exact ⟨s ++ t, .cons hs ht⟩

theorem exists_encodes (token : String) : ∃ piece, Encodes token piece := by
  have hbyte (b : UInt8) : ∃ s, WritesByte b s := ⟨_, .digits (.inl rfl) (.inl rfl)⟩
  have hchar (c : Char) : ∃ s, WritesChar c s := by
    obtain ⟨s, hs⟩ := exists_written hbyte (String.utf8EncodeChar c)
    exact ⟨s, .escaped hs⟩
  obtain ⟨s, hs⟩ := exists_written hchar token.toList
  exact ⟨String.ofList s, by rwa [Encodes, String.toList_ofList]⟩

/-- Any expressions that are not empty have a query string, whatever characters they have. -/
theorem exists_isQuery {expressions : List String} (h : ∀ token ∈ expressions, token ≠ "") :
    ∃ query, IsQuery expressions query := by
  suffices hcarries : ∃ texts, Carries expressions texts by
    obtain ⟨texts, htexts⟩ := hcarries
    exact ⟨_, .marked htexts⟩
  induction expressions with
  | nil => exact ⟨[], .nil⟩
  | cons token expressions ih =>
    obtain ⟨piece, hpiece⟩ := exists_encodes token
    obtain ⟨texts, htexts⟩ := ih fun t ht => h t (List.mem_cons_of_mem _ ht)
    exact ⟨piece :: texts, .piece (h token List.mem_cons_self) hpiece htexts⟩

/-! ## Reading bytes -/

theorem hexValue?_of_isHexDigit {n : Nat} {c : Char} (hn : n < 16) (h : IsHexDigit n c) :
    hexValue? c = some n := by
  have hdigits : ∀ n < 16, hexValue? (hexDigit n) = some n ∧
      hexValue? (hexDigit n).toUpper = some n := by
    decide
  rcases h with rfl | rfl
  · exact (hdigits n hn).1
  · exact (hdigits n hn).2

theorem bytes_append_of_writesByte {b : UInt8} {s : List Char} (h : WritesByte b s)
    (rest : List Char) : bytes (s ++ rest) = b :: bytes rest := by
  cases h with
  | @digits high low hhigh hlow =>
    have hlt : b.toNat < 256 := b.toNat_lt
    have hhigh' := hexValue?_of_isHexDigit (by omega) hhigh
    have hlow' := hexValue?_of_isHexDigit (by omega) hlow
    have hbyte : UInt8.ofNat (16 * (b.toNat / 16) + b.toNat % 16) = b := by
      rw [Nat.div_add_mod, UInt8.ofNat_toNat]
    simp only [List.cons_append, List.nil_append, bytes, hhigh', hlow', hbyte]

/-- What reads a word of each item reads items that are written one after the other. -/
theorem bytes_append_of_written {α : Type} {R : α → List Char → Prop} (f : α → List UInt8)
    (hR : ∀ a s rest, R a s → bytes (s ++ rest) = f a ++ bytes rest) {as : List α}
    {s : List Char} (h : Written R as s) (rest : List Char) :
    bytes (s ++ rest) = as.flatMap f ++ bytes rest := by
  induction h with
  | nil => rfl
  | cons head _ ih =>
    rw [List.append_assoc, hR _ _ _ head, ih, List.flatMap_cons, List.append_assoc]

theorem bytes_append_of_writesChar {c : Char} {s : List Char} (h : WritesChar c s)
    (rest : List Char) : bytes (s ++ rest) = String.utf8EncodeChar c ++ bytes rest := by
  cases h with
  | literal hpercent _ => simp [bytes, hpercent]
  | escaped h =>
    have hbytes := bytes_append_of_written (fun b => [b])
      (fun _ _ rest h => bytes_append_of_writesByte h rest) h rest
    simpa using hbytes

theorem toByteArray_eq (text : String) :
    text.toByteArray = ⟨(text.toList.flatMap String.utf8EncodeChar).toArray⟩ := by
  apply ByteArray.ext
  rw [← String.ofList_toList (s := text), String.toByteArray_ofList, String.toList_ofList,
    List.utf8Encode, List.data_toByteArray]

/-- A piece is decoded to the expression that is written in it. -/
theorem decode_of_encodes {token piece : String} (h : Encodes token piece) :
    decode piece = token := by
  have hbytes := bytes_append_of_written String.utf8EncodeChar
    (fun _ _ rest h => bytes_append_of_writesChar h rest) h []
  rw [List.append_nil, bytes, List.append_nil] at hbytes
  rw [decode, hbytes, ← toByteArray_eq, fromUTF8?_toByteArray, Option.getD_some]

/-! ## Reading pieces -/

theorem ne_ampersand_of_isHexDigit {n : Nat} {c : Char} (hn : n < 16) (h : IsHexDigit n c) :
    c ≠ '&' := by
  rintro rfl
  have hvalue := hexValue?_of_isHexDigit hn h
  exact absurd hvalue (by simp [hexValue?])

theorem not_mem_of_written {α : Type} {R : α → List Char → Prop}
    (hR : ∀ a s, R a s → '&' ∉ s) {as : List α} {s : List Char} (h : Written R as s) :
    '&' ∉ s := by
  induction h with
  | nil => exact List.not_mem_nil
  | cons head _ ih =>
    rw [List.mem_append, not_or]
    exact ⟨hR _ _ head, ih⟩

theorem not_mem_of_writesChar {c : Char} {s : List Char} (h : WritesChar c s) : '&' ∉ s := by
  cases h with
  | literal _ hampersand => simpa using Ne.symm hampersand
  | escaped h =>
    refine not_mem_of_written ?_ h
    intro b s hs
    cases hs with
    | @digits high low hhigh hlow =>
      have hlt : b.toNat < 256 := b.toNat_lt
      have hhigh' := ne_ampersand_of_isHexDigit (by omega) hhigh
      have hlow' := ne_ampersand_of_isHexDigit (by omega) hlow
      simp [hhigh'.symm, hlow'.symm]

theorem not_mem_of_carries {tokens texts : List String} (h : Carries tokens texts) :
    ∀ text ∈ texts, '&' ∉ text.toList := by
  induction h with
  | nil => simp
  | gap _ ih =>
    intro text htext
    rcases List.mem_cons.mp htext with rfl | htext
    · simp
    · exact ih text htext
  | piece _ hencodes _ ih =>
    intro text htext
    rcases List.mem_cons.mp htext with rfl | htext
    · exact not_mem_of_written (fun _ _ => not_mem_of_writesChar) hencodes
    · exact ih text htext

/-- An expression that is not empty is not written as an empty piece. -/
theorem ne_empty_of_encodes {token piece : String} (hne : token ≠ "") (h : Encodes token piece) :
    piece ≠ "" := by
  rintro rfl
  have hempty : decode "" = "" := decode_of_encodes .nil
  exact hne ((decode_of_encodes h).symm.trans hempty)

theorem map_decode_of_carries {tokens texts : List String} (h : Carries tokens texts) :
    (texts.filter (· ≠ "")).map decode = tokens := by
  induction h with
  | nil => rfl
  | gap _ ih =>
    rw [List.filter_cons_of_neg (by simp)]
    exact ih
  | piece hne hencodes _ ih =>
    rw [List.filter_cons_of_pos (by simpa using ne_empty_of_encodes hne hencodes), List.map_cons,
      decode_of_encodes hencodes, ih]

/-- Pieces come apart as they were joined. No pieces at all are the empty piece. -/
theorem pieces_of_carries {tokens texts : List String} (h : Carries tokens texts) :
    (pieces '&' (joinWith "&" texts)).filter (· ≠ "") = texts.filter (· ≠ "") := by
  cases texts with
  | nil => rfl
  | cons text texts =>
    have hapart : pieces '&' (joinWith "&" (text :: texts)) = text :: texts :=
      pieces_joinWith (List.cons_ne_nil _ _) (not_mem_of_carries h)
    rw [hapart]

/-! ## Reading a query string -/

theorem body_of_head?_ne {query : String} (h : query.toList.head? ≠ some '?') :
    body query = query := by
  unfold body
  split
  · rename_i rest hquery
    rw [hquery] at h
    exact absurd rfl h
  · rfl

theorem body_mark (text : String) : body ("?" ++ text) = text := by
  have hlist : ("?" ++ text).toList = '?' :: text.toList := by simp
  rw [body, hlist]
  exact String.ofList_toList

/-- Reading a query string gives the expressions that it carries, in their order, without those whose text
before the first equals sign is reserved. -/
theorem tokens_of_isQuery {expressions : List String} {query : String}
    (h : IsQuery expressions query) (reserved : List String) :
    tokens reserved query = expressions.filter fun token => key token ∉ reserved := by
  suffices hpieces : ((pieces '&' (body query)).filter (· ≠ "")).map decode = expressions by
    rw [tokens, hpieces]
    simp [isReserved]
  cases h with
  | bare hcarries hopen =>
    rw [body_of_head?_ne hopen, pieces_of_carries hcarries, map_decode_of_carries hcarries]
  | marked hcarries =>
    rw [body_mark, pieces_of_carries hcarries, map_decode_of_carries hcarries]

/-- Percent signs of either kind, two cases of digits, an empty piece and a reserved parameter. -/
theorem tokens_of_isQuery_mixed :
    IsQuery ["ä~%", "page=1"] "?&%C3%a4~%25&page=1" ∧
      tokens ["page"] "?&%C3%a4~%25&page=1" = ["ä~%"] := by
  -- the letter is escaped byte by byte, the tilde is not, and the percent sign has to be
  have hfirst : Encodes "ä~%" "%C3%a4~%25" := by
    have hlead : WritesByte 0xC3 ['%', 'C', '3'] := .digits (.inr rfl) (.inl rfl)
    have htrail : WritesByte 0xA4 ['%', 'a', '4'] := .digits (.inl rfl) (.inl rfl)
    have hsign : WritesByte 0x25 ['%', '2', '5'] := .digits (.inl rfl) (.inl rfl)
    have hletter : WritesChar 'ä' ['%', 'C', '3', '%', 'a', '4'] :=
      .escaped (.cons hlead (.cons htrail .nil))
    have htilde : WritesChar '~' ['~'] := .literal (by decide) (by decide)
    have hpercent : WritesChar '%' ['%', '2', '5'] := .escaped (.cons hsign .nil)
    exact .cons hletter (.cons htilde (.cons hpercent .nil))
  have hsecond : Encodes "page=1" "page=1" := encodes_self (by simp)
  have hcarries : Carries ["ä~%", "page=1"] ["", "%C3%a4~%25", "page=1"] :=
    .gap (.piece (by decide) hfirst (.piece (by decide) hsecond .nil))
  have hquery : IsQuery ["ä~%", "page=1"] "?&%C3%a4~%25&page=1" := .marked hcarries
  exact ⟨hquery, (tokens_of_isQuery hquery ["page"]).trans (by decide)⟩

end RecordFilter.QueryString
