/-! # White space and lines

White space is what Unicode calls `White_Space`. Texts are trimmed by it, and cut into lines at
line feeds:

* **`isSpace`**: the property.
* **`trimEnd`**, **`trim`**: a text without white space at its ends.
* **`lines`**: the lines of a text; a line feed ends a line, and a carriage return before it
  belongs to the line end. -/

namespace TemplateShare.Text

/-- A property of the characters of a text is decided by going through the text, and not by going
through all characters. -/
instance (priority := 1100) decidableForallMem (p : Char → Prop) [DecidablePred p] (s : List Char) :
    Decidable (∀ c ∈ s, p c) :=
  s.decidableBAll p

/-! ## White space -/

/-- The characters with the property `White_Space`. -/
def isSpace (c : Char) : Bool :=
  let n := c.toNat
  (0x09 ≤ n && n ≤ 0x0D) || n == 0x20 || n == 0x85 || n == 0xA0 || n == 0x1680 ||
    (0x2000 ≤ n && n ≤ 0x200A) || n == 0x2028 || n == 0x2029 || n == 0x202F || n == 0x205F ||
    n == 0x3000

/-! ## Trimming -/

/-- The characters without the white space in front. -/
def dropSpace (s : List Char) : List Char := s.dropWhile isSpace

/-- The characters without the white space at the end. -/
def dropSpaceEnd (s : List Char) : List Char := (s.reverse.dropWhile isSpace).reverse

@[simp] theorem dropSpace_nil : dropSpace [] = [] := rfl

@[simp] theorem dropSpaceEnd_nil : dropSpaceEnd [] = [] := rfl

/-- Dropping twice is dropping once. -/
@[simp] theorem dropSpace_dropSpace (s : List Char) : dropSpace (dropSpace s) = dropSpace s := by
  induction s with
  | nil => rfl
  | cons c s ih =>
    by_cases h : isSpace c <;> simp_all [dropSpace]

/-- Trimming the end twice is trimming it once. -/
@[simp] theorem dropSpaceEnd_dropSpaceEnd (s : List Char) :
    dropSpaceEnd (dropSpaceEnd s) = dropSpaceEnd s := by
  simpa [dropSpaceEnd, dropSpace] using congrArg List.reverse (dropSpace_dropSpace s.reverse)

/-- A text without the white space at its end. -/
def trimEnd (s : String) : String := String.ofList (dropSpaceEnd s.toList)

/-- A text without the white space at both ends. -/
def trim (s : String) : String := String.ofList (dropSpaceEnd (dropSpace s.toList))

/-- The characters without those in front and at the end that are `c`. -/
def stripChar (c : Char) (s : List Char) : List Char :=
  ((s.dropWhile (· == c)).reverse.dropWhile (· == c)).reverse

/-- Whether a text holds nothing but white space. -/
def isBlank (s : String) : Bool := s.toList.all isSpace

@[simp] theorem trimEnd_trimEnd (s : String) : trimEnd (trimEnd s) = trimEnd s := by
  simp [trimEnd]

/-! ## Lines -/

/-- The pieces between line feeds. The text behind the last line feed is a piece even if empty. -/
def splitLineFeeds : List Char → List (List Char)
  | [] => [[]]
  | c :: s =>
    if c = '\n' then [] :: splitLineFeeds s
    else
      match splitLineFeeds s with
      | [] => [[c]]
      | l :: ls => (c :: l) :: ls

/-- A line without the carriage return at its end. -/
def dropReturn (l : List Char) : List Char :=
  if l.getLast? = some '\r' then l.dropLast else l

/-- **The lines of a text.** Each ends with a line feed, or a carriage return and a line feed;
behind the last line feed there is a line only if there is text. -/
def charLines (s : List Char) : List (List Char) :=
  let pieces := splitLineFeeds s
  let last := pieces.getLast?.getD []
  pieces.dropLast.map dropReturn ++ (if last.isEmpty then [] else [last])

/-- The lines of a text. -/
def lines (s : String) : List String := (charLines s.toList).map String.ofList

/-! ## Searching and replacing -/

/-- Whether a text begins with another. -/
def startsWith (s p : String) : Bool := p.toList.isPrefixOf s.toList

/-- Whether some end of the characters begins with `p`. -/
def hasInfix (p : List Char) : List Char → Bool
  | [] => p.isEmpty
  | c :: s => p.isPrefixOf (c :: s) || hasInfix p s

/-- Whether a text contains another. -/
def contains (s p : String) : Bool := hasInfix p.toList s.toList

/-- The characters with the first part of them that is `old` replaced. -/
def replaceFirst (old new : List Char) : List Char → List Char
  | [] => if old.isEmpty then new else []
  | c :: s =>
    if old.isPrefixOf (c :: s) then new ++ (c :: s).drop old.length else c :: replaceFirst old new s

/-- A text with one character replaced by a text wherever it stands. -/
def replaceChar (c : Char) (new : String) (s : String) : String :=
  String.ofList (s.toList.flatMap fun x => if x = c then new.toList else [x])

end TemplateShare.Text
