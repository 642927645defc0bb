import TemplateShare.Text.WidthRanges

/-! # How wide a text is

How many columns a text takes where every character has the same width or twice that. A text is not
always as wide as its characters together: an emoji that is made of several characters takes two
columns, letters of some scripts are written as one, a selector asks for another form of the
character before it, and a line break of two characters takes one column.

* **`Text.Measure`**: how texts and characters are measured.
* **`Text.charWidth`**: the columns of a character alone.
* **`Text.width`**: the columns of a text.
* **`Text.Measure.unicode`**: the measure of both. -/

namespace TemplateShare.Text

/-- **How texts are measured**: the columns of a text, and those of a character alone. -/
structure Measure where
  width : List Char → Nat
  charWidth : Char → Nat

namespace Width

/-! ## Characters -/

/-- Whether a character lies in a range. -/
def isIn (ranges : List (Nat × Nat)) (c : Char) : Bool :=
  ranges.any fun (first, last) => first ≤ c.toNat && c.toNat ≤ last

/-- A control character. -/
def isControl (c : Char) : Bool := c.toNat < 0x20 || (0x7F ≤ c.toNat && c.toNat ≤ 0x9F)

/-- The columns of a character that is no control. -/
def columns (c : Char) : Nat :=
  if c = '\u17d8' then 3 else if isIn zeroRanges c then 0 else if isIn wideRanges c then 2 else 1

/-- A skin tone. -/
def isTone (c : Char) : Bool := isIn [(0x1F3FB, 0x1F3FF)] c

/-- One of the two letters of a flag. -/
def isFlag (c : Char) : Bool := isIn [(0x1F1E6, 0x1F1FF)] c

/-- A character of the name of a region, behind a black flag. -/
def isTag (c : Char) : Bool := isIn [(0xE0020, 0xE007E)] c

/-- A character that is shown as an emoji if one is asked for. -/
def isEmoji (c : Char) : Bool := isIn emojiRanges c || isIn symbolRanges c

/-- A quotation mark that is as wide as two columns if that is asked for. -/
def isQuote (c : Char) : Bool := isIn [(0x2018, 0x2019), (0x201C, 0x201D)] c

/-- A mark that letters which are written as one may have between them. -/
def isMark (c : Char) : Bool :=
  isIn zeroRanges c && !(c == '\u200c' || c == '\u200d') &&
    !isIn [(0x1160, 0x11FF), (0xD7B0, 0xD7FB)] c

/-! ## Letters -/

/-- The letter of Arabic that joins an alef behind it. -/
def isLam (c : Char) : Bool :=
  isIn [(0x644, 0x644), (0x6B5, 0x6B8), (0x76A, 0x76A), (0x8A6, 0x8A6), (0x8C7, 0x8C7)] c

/-- The letter of Arabic that is joined by a lam before it. -/
def isAlef (c : Char) : Bool :=
  isIn [(0x622, 0x623), (0x625, 0x625), (0x627, 0x627), (0x671, 0x673), (0x675, 0x675),
    (0x773, 0x774), (0x870, 0x882)] c

/-- A consonant of Tifinagh. -/
def isTifinagh (c : Char) : Bool := isIn [(0x2D31, 0x2D65), (0x2D6F, 0x2D6F)] c

/-- The letters of Khmer that are written below the one before them. -/
def subscriptRanges : List (Nat × Nat) := [
  (0x1780, 0x1782), (0x1784, 0x1787), (0x1789, 0x178C), (0x178E, 0x1793), (0x1795, 0x1798),
  (0x179B, 0x179D), (0x17A0, 0x17A0), (0x17A2, 0x17A2), (0x17A7, 0x17A7), (0x17AB, 0x17AC),
  (0x17AF, 0x17AF)]

/-- **A letter that is written as one** with what stands before it. -/
inductive Letter where
  | alef
  | lamed
  | khmer
  | buginese
  /-- The same with its vowel in front. -/
  | bugineseVowel
  | tifinagh
  /-- The same with the joiner in front. -/
  | tifinaghJoiner
  | lisu
  | turkic
  | kiratE
  | kiratAi
deriving DecidableEq, Repr

/-- The letter that a character is, if it is written as one with others. -/
def letter? (c : Char) : Option Letter :=
  if isAlef c then some .alef
  else if c = '\u05dc' then some .lamed
  else if isIn subscriptRanges c then some .khmer
  else if c = '\u1a10' then some .buginese
  else if isTifinagh c then some .tifinagh
  else if isIn [(0xA4FC, 0xA4FD)] c then some .lisu
  else if isIn [(0x10C03, 0x10C03)] c then some .turkic
  else if isIn [(0x16D67, 0x16D67)] c then some .kiratE
  else if isIn [(0x16D68, 0x16D68)] c then some .kiratAi
  else none

/-! ## What stands behind a character -/

/-- **What stands behind a character**, as far as its width depends on that. -/
inductive Base where
  | plain
  | lineFeed
  | emoji
  | tone
  /-- A letter of a flag. -/
  | flag
  /-- Several letters of flags. -/
  | flags
  /-- An emoji that this character is joined to. -/
  | joined
  /-- A keycap that is joined to an emoji. -/
  | keycap
  /-- The end of a flag of a region that is joined to an emoji. -/
  | tagged
  /-- A letter of a flag that is joined to an emoji. -/
  | joinedFlag
  /-- Both letters of a flag that is joined to an emoji, and more flags behind the first. -/
  | evenFlags
  /-- The same with another letter in front. -/
  | oddFlags
  /-- A letter, and whether a joiner stands in front of it. -/
  | letter (l : Letter) (joined : Bool)
deriving DecidableEq, Repr

/-- What a selector asks for: an emoji, a text, or a form of two columns. -/
inductive Style where
  | emoji
  | text
  | wide
deriving DecidableEq, Repr

/-- What stands behind a character, with what is asked of it. -/
structure Behind where
  style : Option Style := none
  base : Base := .plain
deriving DecidableEq, Repr

/-- What a character asks of the one before it, if it is a selector. -/
def style? (c : Char) : Option Style :=
  if c = '\ufe0f' then some .emoji
  else if c = '\ufe0e' then some .text
  else if c = '\ufe01' then some .wide
  else none

/-- What is left of what stands behind a selector. -/
def Base.past (style : Style) : Base → Base
  | .letter l isJoined => .letter l isJoined
  | .joined => if style = .emoji then .joined else .plain
  | .keycap => if style = .emoji then .keycap else .plain
  | _ => .plain

/-! ## The width of a text -/

/-- A character that is not changed by what stands behind it, and what it is for the one before. -/
def alone (c : Char) : Int × Base :=
  if isTone c then (2, .tone)
  else if isIn emojiRanges c then (2, .emoji)
  else if isFlag c then (1, .flag)
  else
    match letter? c with
    | some l => (columns c, .letter l false)
    | none => (columns c, .plain)

/-- **A character that is written as one with the letter behind it**, and what both are together. A
column that the letter has taken may be taken back. -/
def ligature? (c : Char) (joined : Bool) : Letter → Option (Int × Base)
  | .alef => if isLam c then some (0, .plain) else none
  | .lamed => if joined && c == '\u05d0' then some (0, .plain) else none
  | .khmer => if c = '\u17d2' then some (-1, .plain) else none
  | .buginese => if joined && c == '\u1a17' then some (0, .letter .bugineseVowel false) else none
  | .bugineseVowel => if c = '\u1a15' then some (0, .plain) else none
  | .tifinagh =>
    if c = '\u2d7f' then some (1, .letter .tifinaghJoiner false)
    else if joined && isTifinagh c then some (0, .plain) else none
  | .tifinaghJoiner => if isTifinagh c then some (-1, .plain) else none
  | .lisu => if isIn [(0xA4F8, 0xA4FB)] c then some (0, .plain) else none
  | .turkic => if joined && isIn [(0x10C32, 0x10C32)] c then some (0, .plain) else none
  | .kiratE =>
    if isIn [(0x16D67, 0x16D67)] c then some (0, .letter .kiratAi false)
    else if isIn [(0x16D63, 0x16D63), (0x16D69, 0x16D69)] c then some (0, .plain) else none
  | .kiratAi => if isIn [(0x16D63, 0x16D63)] c then some (0, .plain) else none

/-- A character in front of a letter. Marks may stand between letters that are written as one, and so
may joiners, but in Arabic. -/
def beforeLetter (c : Char) (l : Letter) (joined : Bool) : Int × Base :=
  match ligature? c joined l with
  | some x => x
  | none =>
    if isMark c then (0, .letter l joined)
    else if l ≠ .alef ∧ c = '\u200c' then (0, .letter l joined)
    else if l ≠ .alef ∧ c = '\u200d' then (0, .letter l true)
    else alone c

/-- A character in front of an emoji that it can be joined to. -/
def beforeEmoji (c : Char) : Int × Base := if c = '\u200d' then (0, .joined) else alone c

/-- A character in front of a joiner and an emoji. -/
def beforeJoined (c : Char) : Int × Base :=
  if isTone c then (0, .tone)
  else if isIn emojiRanges c then (0, .emoji)
  else if isFlag c then (1, .joinedFlag)
  else if c = '\u20e3' then (0, .keycap)
  else if isIn [(0xE007F, 0xE007F)] c then (0, .tagged)
  else alone c

/-- **The columns that a character adds** to those behind it, where no selector stands between. -/
def settled (c : Char) (b : Base) : Int × Base :=
  if c.toNat ≤ 0xA0 then
    if c = '\n' then (1, .lineFeed)
    else if c = '\r' ∧ b = .lineFeed then (0, .plain)
    else (1, .plain)
  else
    match b with
    | .plain | .lineFeed | .keycap => alone c
    | .emoji => beforeEmoji c
    | .tone => if isIn personRanges c then (0, .emoji) else beforeEmoji c
    | .flag => if isFlag c then (1, .flags) else alone c
    | .flags => if isFlag c then (1, .flags) else beforeEmoji c
    | .joined => beforeJoined c
    | .tagged =>
      if isTag c then (0, .tagged) else if c.toNat = 0x1F3F4 then (0, .emoji) else alone c
    | .joinedFlag => if isFlag c then (-1, .evenFlags) else alone c
    | .evenFlags => if isFlag c then (3, .oddFlags) else beforeEmoji c
    | .oddFlags => if isFlag c then (-1, .evenFlags) else beforeEmoji c
    | .letter l joined => beforeLetter c l joined

/-- **The columns that a character adds** to those behind it. -/
def add (c : Char) (b : Behind) : Int × Behind :=
  match style? c with
  | some style => (0, ⟨some style, b.base.past style⟩)
  | none =>
    if b.style = some .emoji ∧ isEmoji c then
      (if b.base = .joined ∨ b.base = .keycap then 0 else 2, ⟨none, .emoji⟩)
    else if b.style = some .text ∧ isIn textStyleRanges c then (1, ⟨none, .plain⟩)
    else if b.style = some .wide ∧ isQuote c then (2, ⟨none, .plain⟩)
    else ((settled c b.base).1, ⟨none, (settled c b.base).2⟩)

/-- The columns of a text, and what it is for a character before it. -/
def measure (s : List Char) : Int × Behind :=
  s.foldr (fun c r => ((add c r.2).1 + r.1, (add c r.2).2)) (0, ⟨none, .plain⟩)

@[simp] theorem measure_nil : measure [] = (0, ⟨none, .plain⟩) := rfl

@[simp] theorem measure_cons (c : Char) (s : List Char) :
    measure (c :: s) = ((add c (measure s).2).1 + (measure s).1, (add c (measure s).2).2) := rfl

end Width

/-- **The columns of a character alone.** A control takes none. -/
def charWidth (c : Char) : Nat := if Width.isControl c then 0 else Width.columns c

/-- **The columns of a text.** A control takes one. -/
def width (s : List Char) : Nat := (Width.measure s).1.toNat

/-- **How a terminal shows texts.** -/
def Measure.unicode : Measure := ⟨Text.width, Text.charWidth⟩

end TemplateShare.Text
