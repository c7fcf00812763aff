import RecordFilter.Text.WidthRanges

/-!
# How wide a line is

The columns that a line takes in a fixed grid. A line is measured from its end to its start, because
what follows a character decides whether it merges with it.

* `Context` is what a character has to know of what follows it: how that begins, `Following`, and
  which variation selectors stand before it.
* `Following.merge?` is what a character adds that merges with what follows it, `alone` what one
  adds that does not, `measure` what any adds.
* An emoji sequence takes two columns in all; a ligature takes as many as the font gives it.
* Control characters take one column, escape sequences included.
-/

namespace RecordFilter

namespace Width

/-- The end of a ligature that is not Arabic. Some ligatures need a zero-width joiner. -/
inductive Tail
  /-- Hebrew Lamed. -/
  | lamed
  /-- Old Turkic Orkhon I. -/
  | orkhonI
  /-- Buginese Ya. -/
  | ya
  /-- A vowel sign, a joiner and Buginese Ya. -/
  | vowelYa
  /-- A Khmer letter whose subscript takes no column. -/
  | subscriptLetter
  /-- One of the last two Lisu tone letters. -/
  | lowTone
  /-- A Tifinagh consonant. -/
  | consonant
  /-- The consonant joiner and a Tifinagh consonant. -/
  | joinedConsonant
deriving DecidableEq, Repr

/-- What stands before a zero-width joiner and an emoji. -/
inductive Link
  /-- Nothing, the joiner comes first. -/
  | direct
  /-- The mark that encloses a character in a key. -/
  | keycap
  /-- One regional indicator. -/
  | indicator
  /-- Several regional indicators, by whether their number is even. -/
  | indicators (even : Bool)
  /-- The last letters of a sequence of tags, and its end. -/
  | tagLetters (count : Nat)
  /-- Digits, then letters or none, of a sequence of tags, and its end. -/
  | tagDigits (count : Nat)
deriving DecidableEq, Repr

/-- How what follows a character begins. -/
inductive Following
  | plain
  /-- An emoji. -/
  | emoji
  /-- A skin tone. -/
  | skinTone
  /-- One regional indicator or several. -/
  | indicator (several : Bool)
  /-- A zero-width joiner and an emoji, and what stands before them. -/
  | joinedEmoji (link : Link)
  /-- The Kirat Rai vowel sign E. -/
  | vowelE
  /-- The Kirat Rai vowel sign Ai, in one character or two. -/
  | vowelAi
  /-- An Arabic Alef, with marks before it or not. -/
  | alef
  /-- The end of a ligature, with a zero-width joiner before it or not. -/
  | ligature (tail : Tail) (joined : Bool)
deriving DecidableEq, Repr

/-- How a variation selector shows the character before it. -/
inductive Presentation
  /-- U+FE0F: as an emoji. -/
  | emoji
  /-- U+FE0E: as text. -/
  | text
deriving DecidableEq, Repr

/-- A variation selector that may change how wide the character before it is. -/
inductive Selector
  | presentation (p : Presentation)
  /-- U+FE01: a quotation mark as wide as an ideograph. -/
  | fullwidth
deriving DecidableEq, Repr

/-- What comes after a character: selectors or none, and then the rest of the line. -/
structure Context where
  presentation? : Option Presentation
  fullwidth : Bool
  following : Following
deriving DecidableEq, Repr

/-- What comes after a character when that is no selector. -/
def Following.only (f : Following) : Context :=
  ⟨none, false, f⟩

/-! ## Characters -/

/-- The columns of a character by itself. -/
def columns (code : Nat) : Nat :=
  if code < 0xa0 then 1
  else if code = 0x17d8 then 3
  else if zeroWidthRanges.contains code then 0
  else if wideRanges.contains code then 2
  else 1

/-- Whether the code is the zero-width joiner. -/
def isJoiner (code : Nat) : Bool :=
  code = 0x200d

/-- Whether the code is a skin tone. -/
def isSkinTone (code : Nat) : Bool :=
  0x1f3fb ≤ code ∧ code ≤ 0x1f3ff

/-- Whether the code is a regional indicator, two of which make a flag. -/
def isIndicator (code : Nat) : Bool :=
  0x1f1e6 ≤ code ∧ code ≤ 0x1f1ff

/-- Whether the code is a tag letter. -/
def isTagLetter (code : Nat) : Bool :=
  0xe0061 ≤ code ∧ code ≤ 0xe007a

/-- Whether the code is a tag digit. -/
def isTagDigit (code : Nat) : Bool :=
  0xe0030 ≤ code ∧ code ≤ 0xe0039

/-- Whether the code is the black flag, which tags make the flag of a region. -/
def isBlackFlag (code : Nat) : Bool :=
  code = 0x1f3f4

/-- Whether the code is a curved quotation mark above the line. -/
def isRaisedQuote (code : Nat) : Bool :=
  code = 0x2018 ∨ code = 0x2019 ∨ code = 0x201c ∨ code = 0x201d

/-- The selector that a character is. -/
def Selector.ofCode? (code : Nat) : Option Selector :=
  if code = 0xfe0f then some (.presentation .emoji)
  else if code = 0xfe0e then some (.presentation .text)
  else if code = 0xfe01 then some .fullwidth
  else none

/-- Khmer letters whose subscripts take no column. -/
def subscriptRanges : CodeRanges :=
  [(0x1780, 0x1782), (0x1784, 0x1787), (0x1789, 0x178c), (0x178e, 0x1793), (0x1795, 0x1798),
   (0x179b, 0x179d), (0x17a0, 0x17a0), (0x17a2, 0x17a2), (0x17a7, 0x17a7), (0x17ab, 0x17ac),
   (0x17af, 0x17af)]

/-- Tifinagh consonants. -/
def consonantRanges : CodeRanges :=
  [(0x2d31, 0x2d65), (0x2d6f, 0x2d6f)]

/-- Marks that may stand in a ligature without being seen. -/
def ignorableMarkRanges : CodeRanges :=
  [(0x34f, 0x34f), (0x17b4, 0x17b5), (0x180b, 0x180d), (0x180f, 0x180f), (0xfe00, 0xfe0f),
   (0xe0100, 0xe01ef)]

/-- The end of a ligature that a character can be. -/
def Tail.ofCode? (code : Nat) : Option Tail :=
  if code = 0x5dc then some .lamed
  else if code = 0x10c03 then some .orkhonI
  else if code = 0x1a10 then some .ya
  else if subscriptRanges.contains code then some .subscriptLetter
  else if 0xa4fc ≤ code ∧ code ≤ 0xa4fd then some .lowTone
  else if consonantRanges.contains code then some .consonant
  else none

/-! ## Merging -/

/-- What a character adds that goes on with a ligature towards its start. -/
def Tail.merge? (tail : Tail) (joined : Bool) (code : Nat) : Option (Int × Following) :=
  match tail with
  | .lamed => if joined ∧ code = 0x5d0 then some (0, .plain) else none
  | .orkhonI => if joined ∧ code = 0x10c32 then some (0, .plain) else none
  | .ya => if joined ∧ code = 0x1a17 then some (0, .ligature .vowelYa true) else none
  | .vowelYa => if code = 0x1a15 then some (0, .plain) else none
  | .subscriptLetter => if code = 0x17d2 then some (-1, .plain) else none
  | .lowTone => if 0xa4f8 ≤ code ∧ code ≤ 0xa4fb then some (0, .plain) else none
  | .consonant =>
    if code = 0x2d7f then some (1, .ligature .joinedConsonant true)
    else if joined ∧ consonantRanges.contains code then some (0, .plain)
    else none
  | .joinedConsonant => if consonantRanges.contains code then some (-1, .plain) else none

/-- What a character adds that goes on with an emoji sequence towards its start. The sequence takes
two columns already, and an emoji that joins it adds none. Two regional indicators are one emoji. The
flag of a region is the black flag with three to six tag letters, or with three tag digits and up to
four letters after them. -/
def Link.merge? (link : Link) (code : Nat) : Option (Int × Following) :=
  match link with
  | .direct =>
    if code = 0x20e3 then some (0, .joinedEmoji .keycap)
    else if isIndicator code then some (1, .joinedEmoji .indicator)
    else if code = 0xe007f then some (0, .joinedEmoji (.tagLetters 0))
    else if isSkinTone code then some (0, .skinTone)
    else if emojiPresentationRanges.contains code then some (0, .emoji)
    else none
  | .keycap => none
  | .indicator => if isIndicator code then some (-1, .joinedEmoji (.indicators true)) else none
  | .indicators even =>
    if isJoiner code then some (0, .joinedEmoji .direct)
    else if isIndicator code then
      if even then some (3, .joinedEmoji (.indicators false))
      else some (-1, .joinedEmoji (.indicators true))
    else none
  | .tagLetters count =>
    if isTagLetter code ∧ count < 6 then some (0, .joinedEmoji (.tagLetters (count + 1)))
    else if isTagDigit code ∧ count ≤ 4 then some (0, .joinedEmoji (.tagDigits 1))
    else if isBlackFlag code ∧ 3 ≤ count then some (0, .emoji)
    else none
  | .tagDigits count =>
    if isTagDigit code ∧ count < 3 then some (0, .joinedEmoji (.tagDigits (count + 1)))
    else if isBlackFlag code ∧ count = 3 then some (0, .emoji)
    else none

/-- What a character adds that merges with what follows it. -/
def Following.merge? (f : Following) (code : Nat) : Option (Int × Following) :=
  match f with
  | .plain => none
  | .emoji => if isJoiner code then some (0, .joinedEmoji .direct) else none
  | .skinTone =>
    if isJoiner code then some (0, .joinedEmoji .direct)
    else if modifierBaseRanges.contains code then some (0, .emoji)
    else none
  | .indicator several =>
    if isIndicator code then some (1, .indicator true)
    else if several ∧ isJoiner code then some (0, .joinedEmoji .direct)
    else none
  | .joinedEmoji link => link.merge? code
  | .vowelE =>
    if code = 0x16d63 ∨ code = 0x16d69 then some (0, .plain)
    else if code = 0x16d67 then some (0, .vowelAi)
    else if code = 0x16d68 then some (1, .vowelE)
    else none
  | .vowelAi => if code = 0x16d63 then some (0, .plain) else none
  | .alef =>
    if lamRanges.contains code then some (0, .plain)
    else if joiningTransparentRanges.contains code then some (0, .alef)
    else none
  | .ligature tail joined =>
    if isJoiner code then some (0, .ligature tail true)
    else if ignorableMarkRanges.contains code then some (0, .ligature tail joined)
    else tail.merge? joined code

/-- What a character adds that merges with nothing after it. -/
def alone (code : Nat) : Int × Following :=
  let start : Following :=
    if isSkinTone code then .skinTone
    else if isIndicator code then .indicator false
    else if emojiPresentationRanges.contains code then .emoji
    else if alefRanges.contains code then .alef
    else if code = 0x16d67 then .vowelE
    else if code = 0x16d68 then .vowelAi
    else
      match Tail.ofCode? code with
      | some tail => .ligature tail false
      | none => .plain
  (columns code, start)

/-! ## Selectors -/

/-- Whether a ligature goes on across a selector. -/
def Following.spansSelectors : Following → Bool
  | .alef | .ligature .. => true
  | _ => false

/-- Whether an emoji that U+FE0F makes of the character before it belongs to the sequence that
follows. -/
def Following.takesVariant : Following → Bool
  | .joinedEmoji .direct | .joinedEmoji .keycap => true
  | _ => false

/-- What follows a character after the selectors between them were of no use to it. -/
def Context.withoutSelectors (c : Context) : Following :=
  if (c.presentation? = none ∧ !c.fullwidth) ∨ c.following.spansSelectors then c.following
  else .plain

/-- What comes after a character when a selector is added. Before a ligature a presentation leaves a
fullwidth selector in force; otherwise the selector that is added is the only one. -/
def Context.select (c : Context) (s : Selector) : Context :=
  let following := c.withoutSelectors
  match s with
  | .presentation p =>
    if following.spansSelectors then ⟨some p, c.fullwidth, following⟩
    else ⟨some p, false, if p = .emoji ∧ following.takesVariant then following else .plain⟩
  | .fullwidth => ⟨none, true, if following.spansSelectors then following else .plain⟩

/-- What a character adds whose selectors are of use to it. -/
def Context.merge? (c : Context) (code : Nat) : Option (Int × Following) :=
  if c.presentation? = some .emoji ∧ emojiVariantRanges.contains code then
    some (if c.following.takesVariant then 0 else 2, .emoji)
  else if c.presentation? = some .text ∧ textVariantRanges.contains code then some (1, .plain)
  else if c.fullwidth ∧ isRaisedQuote code then some (2, .plain)
  else none

/-- The columns that a character adds to what comes after it, and what comes after the character
before. -/
def measure (code : Nat) (c : Context) : Int × Context :=
  match c.merge? code, Selector.ofCode? code with
  | some (width, following), _ => (width, following.only)
  | none, some selector => (0, c.select selector)
  | none, none =>
    let (width, following) := (c.withoutSelectors.merge? code).getD (alone code)
    (width, following.only)

end Width

/-- The columns that a line takes. -/
def lineWidth (line : String) : Nat :=
  (line.toList.foldr (fun c (total, context) =>
    let (width, before) := Width.measure c.toNat context
    (total + width, before)) ((0 : Int), Width.Following.plain.only)).1.toNat

end RecordFilter
