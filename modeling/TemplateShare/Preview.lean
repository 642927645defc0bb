import TemplateShare.Text.Blank
import TemplateShare.Text.WordChar

/-! # Data as a table

Tabular data has a header line and rows. Blank lines and comments are dropped, the header decides
between commas and white space as the delimiter, and every row is cut with that delimiter. A row
with another number of fields than the header is shown, and marked.

* **`Preview.dataLines`**: the lines that count.
* **`Delimiter.sniff`**, **`Delimiter.split`**: choose a delimiter and cut a line.
* **`Preview.ofData`**: the table of a text, if it has a header and a row. -/

namespace TemplateShare

/-! ## Lines of data -/

namespace Preview

/-- **Lines that do not count**: blank ones, and comments, which start with `#`. -/
def isIgnored (line : List Char) : Bool :=
  match Text.dropSpace line with
  | [] => true
  | c :: _ => c == '#'

/-- The lines that count, in order. -/
def dataLines (data : List Char) : List (List Char) :=
  (Text.charLines data).filter (!isIgnored ·)

/-- The text without its blank lines and comments. -/
def filterLines (data : List Char) : List Char := List.intercalate ['\n'] (dataLines data)

/-- The text without its blank lines and comments. -/
def filterRows (data : String) : String := String.ofList (filterLines data.toList)

end Preview

/-! ## Delimiters -/

/-- What separates the fields of a line. -/
inductive Delimiter where
  /-- A comma, with blanks around it. -/
  | comma
  /-- A run of blanks. -/
  | whitespace
deriving DecidableEq, Repr

namespace Delimiter

/-- Blanks inside a line: space and tab. -/
def isBlank (c : Char) : Bool := c == ' ' || c == '\t'

/-- **Choose the delimiter** of a header: the comma if there are more commas than tabs. -/
def sniff (header : List Char) : Delimiter :=
  if header.count '\t' < header.count ',' then .comma else .whitespace

/-- Put a character in front of the first of some pieces. -/
def consFirst (c : Char) : List (List Char) → List (List Char)
  | [] => [[c]]
  | p :: ps => (c :: p) :: ps

/-- **Cut a line at commas** with the blanks around each. `gap` holds the blanks read last, which
belong to the piece only if no comma follows. -/
def splitCommas (gap : List Char) : List Char → List (List Char)
  | [] => [gap]
  | c :: s =>
    if c = ',' then [] :: splitCommas [] (s.dropWhile isBlank)
    else if isBlank c then splitCommas (gap ++ [c]) s
    else (gap ++ [c]).foldr consFirst (splitCommas [] s)
termination_by s => s.length
decreasing_by
  · have := (List.dropWhile_sublist isBlank (l := s)).length_le
    simp only [List.length_cons]; omega
  · simp
  · simp

/-- **Cut a line at runs of blanks.** -/
def splitBlanks : List Char → List (List Char)
  | [] => [[]]
  | c :: s =>
    if isBlank c then [] :: splitBlanks (s.dropWhile isBlank) else consFirst c (splitBlanks s)
termination_by s => s.length
decreasing_by
  · have := (List.dropWhile_sublist isBlank (l := s)).length_le
    simp only [List.length_cons]; omega
  · simp

/-- **The fields of a line**, which is trimmed first. -/
def split (d : Delimiter) (line : List Char) : List (List Char) :=
  let s := Text.dropSpaceEnd (Text.dropSpace line)
  match d with
  | .comma => splitCommas [] s
  | .whitespace => splitBlanks s

end Delimiter

/-! ## Tables -/

/-- **A row**: its cells, as many as the header has, and how many fields it really has. -/
structure PreviewRow where
  cells : List (List Char)
  fieldCount : Nat
  mismatched : Bool
deriving DecidableEq, Repr

/-- **A table.** -/
structure Preview where
  delimiter : Delimiter
  header : List (List Char)
  rows : List PreviewRow
deriving DecidableEq, Repr

namespace Preview

/-- The number of rows that do not match the header. -/
def mismatchedRows (p : Preview) : Nat := (p.rows.filter PreviewRow.mismatched).length

/-- A line break of the row pattern: line feed or carriage return. -/
def isBreak (c : Char) : Bool := c == '\n' || c == '\r'

/-- Whether a word character stands in the characters before the first line feed. -/
def wordInLine (s : List Char) : Bool := (s.takeWhile (· != '\n')).any Text.isWordChar

/-- Behind one break: more breaks, or a word character in the line that follows. -/
def wordFollows : List Char → Bool
  | [] => false
  | c :: s => wordInLine (c :: s) || (isBreak c && wordFollows s)

/-- Behind a word character: a break before the line feed, and a word character behind it. -/
def rowFollows : List Char → Bool
  | [] => false
  | c :: s => (isBreak c && wordFollows s) || (c != '\n' && rowFollows s)

/-- **Whether a text has more than one row**: a word character, anything up to the end of its line,
a run of line breaks, and a word character in the line behind them. -/
def hasRows : List Char → Bool
  | [] => false
  | c :: s => (Text.isWordChar c && rowFollows s) || hasRows s

/-- The row of a line. -/
def row (d : Delimiter) (columns : Nat) (line : List Char) : PreviewRow :=
  let fields := d.split line
  { cells := (List.range columns).map fun i => fields.getD i []
    fieldCount := fields.length
    mismatched := fields.length != columns }

/-- **The table of a text**, if it has a header and at least one row. -/
def ofData (data : List Char) : Option Preview :=
  let text := filterLines data
  if !hasRows text then none
  else
    match Text.charLines text with
    | [] => none
    | line :: lines =>
      let d := Delimiter.sniff line
      let header := d.split line
      some ⟨d, header, lines.map (row d header.length)⟩

end Preview

end TemplateShare
