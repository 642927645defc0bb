import Mathlib.Data.List.Forall2
import TemplateShare.Proofs.Preview.Lines

/-! # Tables show every row

A table has the first line that counts as its header and one row for each line behind it. Whether
there is a table at all is decided by a pattern over the text of these lines, which looks for word
characters on both sides of line breaks. So two neighbours without a word character are no table,
however many rows there are, and a carriage return between two words makes a table of one line.

* **`Preview.hasRows_iff`**, **`Preview.hasRows_append_break`** — the pattern, line by line.
* **`Preview.LooksTabular`**, **`Preview.hasRows_filterLines_iff`** — when it finds rows.
* **`Preview.Shows`** — a table that shows each line.
* **`Preview.ofData_eq_some_iff`** — the table of a text.
* **`Preview.exists_hidden_rows`** — lines that count and are not shown. -/

namespace TemplateShare

namespace Preview

open Text

/-! ## The pattern of rows -/

/-- Whether a line has a word character. -/
def hasWord (l : List Char) : Bool := l.any isWordChar

/-- A line has a word character in front, or behind its first character. -/
theorem hasWord_cons (c : Char) (l : List Char) :
    hasWord (c :: l) = (isWordChar c || hasWord l) := rfl

/-- **A line that the pattern takes for two**: there are word characters on both sides of a carriage
return. -/
def IsParted (l : List Char) : Prop := ∃ a b, l = a ++ '\r' :: b ∧ hasWord a ∧ hasWord b

/-- **Lines that the pattern takes for a table**: one of them is taken for two, or two neighbours
have word characters. -/
def LooksTabular (lines : List (List Char)) : Prop :=
  (∃ l ∈ lines, IsParted l) ∨ ∃ l m, [l, m] <:+: lines ∧ hasWord l ∧ hasWord m

section Line

variable {l : List Char}

/-- The word characters of a line stand in front of its line feed. -/
theorem wordInLine_append_break (hl : '\n' ∉ l) (t : List Char) :
    wordInLine (l ++ '\n' :: t) = hasWord l := by
  rw [wordInLine, List.takeWhile_append_of_pos fun c hc => by
      simpa using ne_of_mem_of_not_mem hc hl, List.takeWhile_cons_of_neg (by simp), List.append_nil]
  rfl

/-- A line without a line feed is looked through to its end. -/
theorem wordInLine_of_notMem (hl : '\n' ∉ l) : wordInLine l = hasWord l := by
  rw [wordInLine, List.takeWhile_eq_self_iff.2 fun c hc => by simpa using ne_of_mem_of_not_mem hc hl]
  rfl

/-- **Behind a break**, the line has a word character, or it is made of breaks alone and one follows
behind its line feed. -/
theorem wordFollows_append_break (hl : '\n' ∉ l) (t : List Char) :
    wordFollows (l ++ '\n' :: t) = (hasWord l || (l.all isBreak && wordFollows t)) := by
  induction l with
  | nil =>
    rw [List.nil_append, wordFollows, show '\n' :: t = [] ++ '\n' :: t from rfl,
      wordInLine_append_break hl]
    rfl
  | cons c l ih =>
    have hrest : '\n' ∉ l := fun h => hl (List.mem_cons_of_mem c h)
    rw [List.cons_append, wordFollows, ← List.cons_append, wordInLine_append_break hl, ih hrest,
      List.all_cons, hasWord_cons]
    cases isWordChar c <;> cases hasWord l <;> simp [Bool.and_assoc]

/-- Behind a break in the last line, it has a word character. -/
theorem wordFollows_of_notMem (hl : '\n' ∉ l) : wordFollows l = hasWord l := by
  induction l with
  | nil => rfl
  | cons c l ih =>
    have hrest : '\n' ∉ l := fun h => hl (List.mem_cons_of_mem c h)
    rw [wordFollows, wordInLine_of_notMem hl, ih hrest, hasWord_cons]
    cases isWordChar c <;> cases hasWord l <;> simp

/-- **Behind a word character**, a row follows within the line or behind its line feed. -/
theorem rowFollows_append_break (hl : '\n' ∉ l) (t : List Char) :
    rowFollows (l ++ '\n' :: t) = (rowFollows l || wordFollows t) := by
  induction l with
  | nil => simp [rowFollows, isBreak]
  | cons c l ih =>
    have hc : c ≠ '\n' := fun h => hl (by rw [h]; exact List.mem_cons_self)
    have hrest : '\n' ∉ l := fun h => hl (List.mem_cons_of_mem c h)
    have hne : (c != '\n') = true := by simpa using hc
    rw [List.cons_append, rowFollows, rowFollows, ih hrest, wordFollows_append_break hrest,
      wordFollows_of_notMem hrest, hne]
    cases isBreak c <;> cases hasWord l <;> cases rowFollows l <;> cases wordFollows t <;> simp

/-- **The pattern, line by line**: it is found in the first line, from the first line into the next,
or behind the first line. -/
theorem hasRows_append_break (hl : '\n' ∉ l) (t : List Char) :
    hasRows (l ++ '\n' :: t) = (hasRows l || (hasWord l && wordFollows t) || hasRows t) := by
  induction l with
  | nil =>
    have hbreak : isWordChar '\n' = false := by decide
    simp [hasRows, hasWord, hbreak]
  | cons c l ih =>
    have hrest : '\n' ∉ l := fun h => hl (List.mem_cons_of_mem c h)
    rw [List.cons_append, hasRows, hasRows, ih hrest, rowFollows_append_break hrest, hasWord_cons]
    cases isWordChar c <;> cases rowFollows l <;> cases hasRows l <;> cases wordFollows t <;> simp

/-- Behind a word character of the last line, a row follows where a word character stands behind a
carriage return. -/
theorem rowFollows_iff (hl : '\n' ∉ l) :
    rowFollows l = true ↔ ∃ a b, l = a ++ '\r' :: b ∧ hasWord b := by
  induction l with
  | nil => simp [rowFollows]
  | cons c l ih =>
    have hc : c ≠ '\n' := fun h => hl (by rw [h]; exact List.mem_cons_self)
    have hrest : '\n' ∉ l := fun h => hl (List.mem_cons_of_mem c h)
    have hreturn : isBreak c = true ↔ c = '\r' := by simp [isBreak, hc]
    rw [rowFollows, wordFollows_of_notMem hrest, Bool.or_eq_true, Bool.and_eq_true,
      Bool.and_eq_true, hreturn, ih hrest]
    constructor
    · rintro (⟨rfl, hword⟩ | ⟨-, a, b, rfl, hword⟩)
      · exact ⟨[], l, rfl, hword⟩
      · exact ⟨c :: a, b, rfl, hword⟩
    · rintro ⟨a, b, heq, hword⟩
      cases a with
      | nil =>
        obtain ⟨rfl, rfl⟩ := List.cons.inj heq
        exact .inl ⟨rfl, hword⟩
      | cons x a =>
        obtain ⟨rfl, rfl⟩ := List.cons.inj heq
        exact .inr ⟨by simpa using hc, a, b, rfl, hword⟩

/-- **The pattern is found within a line** if and only if the line is taken for two. -/
theorem hasRows_iff (hl : '\n' ∉ l) : hasRows l = true ↔ IsParted l := by
  induction l with
  | nil => simp [hasRows, IsParted]
  | cons c l ih =>
    have hrest : '\n' ∉ l := fun h => hl (List.mem_cons_of_mem c h)
    rw [hasRows, Bool.or_eq_true, Bool.and_eq_true, rowFollows_iff hrest, ih hrest]
    constructor
    · rintro (⟨hc, a, b, rfl, hword⟩ | ⟨a, b, rfl, hfront, hword⟩)
      · exact ⟨c :: a, b, rfl, by rw [hasWord_cons, hc, Bool.true_or], hword⟩
      · exact ⟨c :: a, b, rfl, by rw [hasWord_cons, hfront, Bool.or_true], hword⟩
    · rintro ⟨a, b, heq, hfront, hword⟩
      cases a with
      | nil => cases hfront
      | cons x a =>
        obtain ⟨rfl, rfl⟩ := List.cons.inj heq
        rw [hasWord_cons, Bool.or_eq_true] at hfront
        rcases hfront with hc | hfront
        · exact .inl ⟨hc, a, b, rfl, hword⟩
        · exact .inr ⟨a, b, rfl, hfront, hword⟩

end Line

/-! ## The pattern over lines -/

/-- Behind a line break, the next line has to have the word character if it is not all breaks. -/
theorem wordFollows_intercalate {l : List Char} {ls : List (List Char)} (hl : '\n' ∉ l)
    (hsolid : l.all isBreak = false) : wordFollows (['\n'].intercalate (l :: ls)) = hasWord l := by
  cases ls with
  | nil => rw [List.intercalate_singleton, wordFollows_of_notMem hl]
  | cons m ms =>
    rw [List.intercalate_cons_cons, List.append_assoc, List.singleton_append,
      wordFollows_append_break hl, hsolid, Bool.false_and, Bool.or_false]

/-- **The pattern over lines**, none of which is all breaks. -/
theorem hasRows_intercalate_iff {ls : List (List Char)} (hls : ∀ l ∈ ls, '\n' ∉ l)
    (hsolid : ∀ l ∈ ls, l.all isBreak = false) :
    hasRows (['\n'].intercalate ls) = true ↔ LooksTabular ls := by
  induction ls with
  | nil => simp [hasRows, LooksTabular]
  | cons l ls ih =>
    have hl := hls l List.mem_cons_self
    cases ls with
    | nil =>
      have hshort {a b : List Char} : ¬ [a, b] <:+: [l] :=
        fun h => absurd h.length_le (by simp)
      simp [List.intercalate_singleton, hasRows_iff hl, LooksTabular, hshort]
    | cons m ms =>
      have hm := hls m (List.mem_cons_of_mem l List.mem_cons_self)
      have hrest := ih (fun x hx => hls x (List.mem_cons_of_mem l hx))
        fun x hx => hsolid x (List.mem_cons_of_mem l hx)
      -- Two neighbours are the first two lines, or both stand among the lines behind the first.
      have hpair {a b : List Char} : [a, b] <+: l :: m :: ms ↔ a = l ∧ b = m := by
        simp [List.cons_prefix_cons]
      rw [List.intercalate_cons_cons, List.append_assoc, List.singleton_append,
        hasRows_append_break hl, wordFollows_intercalate hm
          (hsolid m (List.mem_cons_of_mem l List.mem_cons_self)), Bool.or_eq_true,
        Bool.or_eq_true, Bool.and_eq_true, hrest, hasRows_iff hl, LooksTabular, LooksTabular]
      constructor
      · rintro ((hparted | hwords) | ⟨x, hx, hparted⟩ | ⟨a, b, hab, hwords⟩)
        · exact .inl ⟨l, List.mem_cons_self, hparted⟩
        · exact .inr ⟨l, m, List.infix_cons_iff.2 (.inl (hpair.2 ⟨rfl, rfl⟩)), hwords⟩
        · exact .inl ⟨x, List.mem_cons_of_mem l hx, hparted⟩
        · exact .inr ⟨a, b, List.infix_cons_iff.2 (.inr hab), hwords⟩
      · rintro (⟨x, hx, hparted⟩ | ⟨a, b, hab, hwords⟩)
        · rcases List.mem_cons.1 hx with rfl | hx
          · exact .inl (.inl hparted)
          · exact .inr (.inl ⟨x, hx, hparted⟩)
        · rcases List.infix_cons_iff.1 hab with hab | hab
          · obtain ⟨rfl, rfl⟩ := hpair.1 hab
            exact .inl (.inr hwords)
          · exact .inr (.inr ⟨a, b, hab, hwords⟩)

/-- A line that counts is not all breaks. -/
theorem not_all_isBreak {l : List Char} (h : isIgnored l = false) : l.all isBreak = false := by
  rw [List.all_eq_false]
  rw [isIgnored] at h
  split at h
  · cases h
  · next c s hdrop =>
    have hmem : c ∈ l := (List.dropWhile_sublist isSpace).mem (by
      rw [show l.dropWhile isSpace = dropSpace l from rfl, hdrop]
      exact List.mem_cons_self)
    have hspace : isSpace c = false := by
      have hhead := List.head?_dropWhile_not isSpace l
      rw [show l.dropWhile isSpace = dropSpace l from rfl, hdrop] at hhead
      simpa using hhead
    refine ⟨c, hmem, fun hbreak => ?_⟩
    simp only [isBreak, Bool.or_eq_true, beq_iff_eq] at hbreak
    rcases hbreak with rfl | rfl <;> cases hspace

/-- **When the pattern finds rows** in a text. -/
theorem hasRows_filterLines_iff (data : List Char) :
    hasRows (filterLines data) = true ↔ LooksTabular (dataLines data) := by
  refine hasRows_intercalate_iff (fun _ => notMem_of_mem_dataLines) fun l hl => ?_
  exact not_all_isBreak (by simpa using (List.mem_filter.1 hl).2)

end Preview

/-! ## Rows -/

/-- **A row that shows a line**: a cell for each column, with the first fields of the line and empty
texts behind them; the real number of fields; and a mark if that is not the number of columns. -/
structure PreviewRow.Shows (r : PreviewRow) (d : Delimiter) (columns : Nat) (line : List Char) :
    Prop where
  length : r.cells.length = columns
  cells : r.cells = (d.split line ++ List.replicate columns []).take columns
  fieldCount : r.fieldCount = (d.split line).length
  mismatched : r.mismatched = true ↔ r.fieldCount ≠ columns

namespace Preview

open Text

/-- The row of a line shows it, and no other row does. -/
theorem shows_row_iff {d : Delimiter} {columns : Nat} {line : List Char} {r : PreviewRow} :
    r.Shows d columns line ↔ r = row d columns line := by
  have hcells : (List.range columns).map (fun i => (d.split line).getD i []) =
      (d.split line ++ List.replicate columns []).take columns := by
    refine List.ext_getElem (by simp) fun i hi _ => ?_
    rw [List.length_map, List.length_range] at hi
    by_cases hfield : i < (d.split line).length
    · simp [hfield]
    · simp [hfield, List.getElem_append_right (Nat.le_of_not_lt hfield)]
  constructor
  · rintro ⟨-, hshown, hcount, hmark⟩
    obtain ⟨cells, fieldCount, mismatched⟩ := r
    obtain rfl : mismatched = (fieldCount != columns) := by
      rw [Bool.eq_iff_iff, hmark, bne_iff_ne]
    rw [row, hcells, ← hshown, ← hcount]
  · rintro rfl
    exact ⟨by simp [row], hcells, rfl, by simp [row]⟩

/-! ## Tables -/

/-- **A table that shows a header and lines**: the delimiter is that of the header, the columns are the
fields of the header, and the rows show the lines one by one. -/
structure Shows (p : Preview) (header : List Char) (lines : List (List Char)) : Prop where
  delimiter : p.delimiter = Delimiter.sniff header
  header : p.header = p.delimiter.split header
  rows : List.Forall₂ (fun line r => r.Shows p.delimiter p.header.length line) lines p.rows

/-- The table of a header and lines. -/
def ofLines (header : List Char) (lines : List (List Char)) : Preview :=
  let d := Delimiter.sniff header
  ⟨d, d.split header, lines.map (row d (d.split header).length)⟩

/-- The table of a header and lines shows them, and no other table does. -/
theorem shows_iff {p : Preview} {header : List Char} {lines : List (List Char)} :
    p.Shows header lines ↔ p = ofLines header lines := by
  have hrows {d : Delimiter} {columns : Nat} {rows : List PreviewRow} :
      List.Forall₂ (fun line r => r.Shows d columns line) lines rows ↔
        rows = lines.map (row d columns) := by
    simp only [shows_row_iff, eq_comm (a := rows)]
    rw [← List.forall₂_eq_eq_eq, List.forall₂_map_left_iff]
    simp only [eq_comm]
  constructor
  · rintro ⟨hdelimiter, hheader, hshown⟩
    obtain ⟨d, columns, rows⟩ := p
    obtain rfl : d = Delimiter.sniff header := hdelimiter
    obtain rfl : columns = (Delimiter.sniff header).split header := hheader
    have hlines : rows =
        lines.map (row (Delimiter.sniff header) ((Delimiter.sniff header).split header).length) :=
      hrows.1 hshown
    rw [hlines, ofLines]
  · rintro rfl
    exact ⟨rfl, rfl, hrows.2 rfl⟩

/-- **The table of a text** is that of the lines that count, if the pattern finds rows in them. -/
theorem ofData_eq (data : List Char) : ofData data =
    match dataLines data with
    | [] => none
    | header :: lines =>
      if hasRows (filterLines data) then some (ofLines header lines) else none := by
  have hlines := map_dropReturns_charLines data
  unfold ofData
  cases h : dataLines data with
  | nil =>
    rw [filterLines, h]
    rfl
  | cons header lines =>
    rw [h, List.map_cons] at hlines
    obtain ⟨first, rest, hcut⟩ : ∃ first rest, charLines (filterLines data) = first :: rest := by
      cases hcut : charLines (filterLines data) with
      | nil => rw [hcut] at hlines; cases hlines
      | cons first rest => exact ⟨first, rest, rfl⟩
    rw [hcut, List.map_cons] at hlines
    obtain ⟨hfirst, hrest⟩ := List.cons.inj hlines
    have hsniff : Delimiter.sniff first = Delimiter.sniff header := by
      rw [← sniff_dropReturns, hfirst, sniff_dropReturns]
    have hsplit (d : Delimiter) : d.split first = d.split header := by
      rw [← split_dropReturns, hfirst, split_dropReturns]
    have hrows (d : Delimiter) (columns : Nat) :
        rest.map (row d columns) = lines.map (row d columns) :=
      map_eq_of_dropReturns (row_dropReturns d columns) hrest
    simp only [hcut, hsniff, hsplit, hrows, ofLines]
    cases hasRows (filterLines data) <;> rfl

/-- **A table shows every line that counts.** The lines have to be ones that the pattern takes for a
table: a carriage return stands between two words of one of them, or two neighbours have word
characters. -/
theorem ofData_eq_some_iff (data : List Char) (p : Preview) : ofData data = some p ↔
    LooksTabular (dataLines data) ∧
      ∃ header lines, dataLines data = header :: lines ∧ p.Shows header lines := by
  rw [ofData_eq, ← hasRows_filterLines_iff]
  cases h : dataLines data with
  | nil => simp
  | cons header lines =>
    by_cases hrows : hasRows (filterLines data) = true
    · simp [hrows, shows_iff, eq_comm]
    · simp [hrows]

/-- **Lines that are hidden**: a header and two rows, of which the first has no word character, are no
table; and a header alone is one, where a carriage return stands in it. -/
theorem exists_hidden_rows :
    (∃ data, 2 ≤ (dataLines data).length ∧ ofData data = none) ∧
    ∃ data, (dataLines data).length < 2 ∧ ofData data ≠ none :=
  ⟨⟨"a,b\n-,-\n1,2".toList, by decide, by decide⟩,
    "a\rb".toList, by decide, by decide +kernel⟩

end Preview

end TemplateShare
