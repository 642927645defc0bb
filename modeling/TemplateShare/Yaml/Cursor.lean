/-! # Positions in YAML text

The character classes that YAML's grammar is written in, and a cursor that walks over text while
it counts characters, lines and columns:

* **`isBreak`**, **`isBlank`**, **`isAdmissible`**: line breaks, blanks, and the characters that
  may stand in a YAML stream at all.
* **`Cursor`**: the text still to be read and where it starts.
* **`Cursor.advance`**, **`Cursor.skipWhile`**, **`Cursor.skipBreak`**: the only ways to move. -/

namespace TemplateShare.Yaml

/-! ## Character classes -/

/-- A line break: line feed, carriage return, next line, line or paragraph separator. -/
def isBreak (c : Char) : Bool :=
  c == '\n' || c == '\r' || c == '\u0085' || c == '\u2028' || c == '\u2029'

/-- A blank inside a line: space or tab. -/
def isBlank (c : Char) : Bool := c == ' ' || c == '\t'

/-- A blank or a line break. -/
def isSpacing (c : Char) : Bool := isBlank c || isBreak c

/-- A character of anchors, directive names and tag handles. -/
def isWord (c : Char) : Bool := c.isAlphanum || c == '_' || c == '-'

/-- **Admissible characters.** Tab, the line breaks and every printable character; all other
control characters, surrogates and the last two code points of the basic plane are refused. -/
def isAdmissible (c : Char) : Bool :=
  let n := c.toNat
  n == 0x09 || n == 0x0A || n == 0x0D || (0x20 ≤ n && n ≤ 0x7E) || n == 0x85 ||
    (0xA0 ≤ n && n ≤ 0xD7FF) || (0xE000 ≤ n && n ≤ 0xFFFD) || 0x10000 ≤ n

/-- Whether the text ends here or goes on with a blank or a line break. -/
def endsWord : List Char → Bool
  | [] => true
  | c :: _ => isSpacing c

@[simp] theorem endsWord_nil : endsWord [] = true := rfl

@[simp] theorem endsWord_cons (c : Char) (s : List Char) : endsWord (c :: s) = isSpacing c := rfl

/-- Whether the text ends here or goes on with a line break. -/
def endsLine : List Char → Bool
  | [] => true
  | c :: _ => isBreak c

@[simp] theorem endsLine_nil : endsLine [] = true := rfl

@[simp] theorem endsLine_cons (c : Char) (s : List Char) : endsLine (c :: s) = isBreak c := rfl

/-- **The text of a line break.** Every break that ends a line reads as a line feed, except the
line and paragraph separators, which stand for themselves. -/
def breakText : List Char → List Char
  | '\n' :: _ => ['\n']
  | '\r' :: _ => ['\n']
  | '\u0085' :: _ => ['\n']
  | '\u2028' :: _ => ['\u2028']
  | '\u2029' :: _ => ['\u2029']
  | _ => []

/-- The number of characters of a line break: a carriage return with its line feed are two. -/
def breakWidth : List Char → Nat
  | '\r' :: '\n' :: _ => 2
  | c :: _ => if isBreak c then 1 else 0
  | [] => 0

/-! ## Cursors -/

/-- **A cursor** in a text: what is still to be read, the number of characters before it, and the
line and column where it starts, each counted from zero. -/
structure Cursor where
  /-- The text still to be read. -/
  rest : List Char
  /-- The number of characters already read. -/
  index : Nat := 0
  /-- The line of the next character. -/
  line : Nat := 0
  /-- The column of the next character. -/
  column : Nat := 0

namespace Cursor

/-- Move over `n` characters of one line. -/
def advance (c : Cursor) (n : Nat) : Cursor :=
  { c with rest := c.rest.drop n, index := c.index + n, column := c.column + n }

/-- Move over the leading characters that satisfy `p`, none of which may be a line break. -/
def skipWhile (p : Char → Bool) (c : Cursor) : Cursor :=
  { c with
    rest := c.rest.dropWhile p
    index := c.index + (c.rest.takeWhile p).length
    column := c.column + (c.rest.takeWhile p).length }

/-- Move over a line break, to the start of the next line. -/
def skipBreak (c : Cursor) : Cursor :=
  { rest := c.rest.drop (breakWidth c.rest)
    index := c.index + breakWidth c.rest
    line := c.line + 1
    column := 0 }

/-- Whether the next character is `x`. -/
def at? (c : Cursor) (x : Char) : Bool := c.rest.head? == some x

/-- Whether the next character is a blank. -/
def atBlank (c : Cursor) : Bool :=
  match c.rest with
  | [] => false
  | x :: _ => isBlank x

/-- Whether the next character is a line break. -/
def atBreak (c : Cursor) : Bool :=
  match c.rest with
  | [] => false
  | x :: _ => isBreak x

/-- Whether a document indicator (`---` or `...`) stands here, at the start of a line. -/
def atDocumentIndicator (c : Cursor) : Bool :=
  c.column == 0 &&
    match c.rest with
    | '-' :: '-' :: '-' :: r => endsWord r
    | '.' :: '.' :: '.' :: r => endsWord r
    | _ => false

@[simp] theorem advance_rest (c : Cursor) (n : Nat) : (c.advance n).rest = c.rest.drop n := rfl

@[simp] theorem skipWhile_rest (c : Cursor) (p : Char → Bool) :
    (c.skipWhile p).rest = c.rest.dropWhile p := rfl

end Cursor

end TemplateShare.Yaml
