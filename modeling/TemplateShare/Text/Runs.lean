import TemplateShare.Text.Hex

/-! # Tables of characters

Tables that give each code point a value, as runs of code points with the same value. They are
written in words: the length of a run in hexadecimal digits, a colon and the value, or the value
alone for a run of one.

* **`Text.Runs.at?`**: the value of a code point.
* **`Text.Runs.read`**: a table from its words. -/

namespace TemplateShare.Text

/-- **Runs of code points**, each with its length and its value. -/
abbrev Runs (α : Type) := List (Nat × α)

/-- The words of some lines. -/
def words (lines : List String) : List (List Char) :=
  lines.flatMap fun line => (line.splitOn " ").map String.toList

/-- A number in hexadecimal digits. -/
def hexNumber (s : List Char) : Nat := (Hex.number? s).getD 0

/-- The numbers between full stops. -/
def hexNumbers (s : List Char) : List Nat :=
  ((String.ofList s).splitOn ".").map fun word => hexNumber word.toList

namespace Runs

variable {α : Type}

/-- The value of a code point, counted from the start of the runs, if they reach it. -/
def at? : Runs α → Nat → Option α
  | [], _ => none
  | (length, a) :: rs, n => if n < length then some a else at? rs (n - length)

/-- A run as a word. -/
def readWord (value : List Char → α) (word : List Char) : Nat × α :=
  match word.span (· != ':') with
  | (length, _ :: text) => (hexNumber length, value text)
  | (text, []) => (1, value text)

/-- **A table from lines of words.** -/
def read (value : List Char → α) (lines : List String) : Runs α :=
  (words lines).map (readWord value)

end Runs

end TemplateShare.Text
