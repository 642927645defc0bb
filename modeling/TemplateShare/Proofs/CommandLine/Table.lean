import Mathlib.Data.List.Forall2
import TemplateShare.CommandLine.Table
import TemplateShare.Proofs.Text.Width

/-! # Rows that are aligned

The titles and every row of data are printed in the same columns, one cell for each column. No cell
is printed narrower than its column. One is printed wider exactly if it overflows: it is cut by the
widths of its characters, and what is kept of it is wider as a text than the characters are
together, so that the ellipsis has no room. Controls and what asks for a wider form do that; a cell
without them never overflows. All this holds by any lawful measure.

* **`Table.IsColumnWidth`** — how wide a column is.
* **`Table.Overflows`** — cells that are wider than the limit, and stay so when they are cut.
* **`Table.isAligned_iff`** — a row is aligned if and only if none of its cells overflows. -/

namespace TemplateShare.Table

open Text (Measure isSteady)

variable {m : Measure} {p : Preview} {cells : List (List Char)} {cell : List Char} {i w : Nat}

/-! ## Rows and columns -/

/-- **The rows that are printed in columns**: the titles and the data. -/
def rows (p : Preview) : List (List (List Char)) := p.header :: p.rows.map PreviewRow.cells

/-- The cell of a row in a column. A missing one is empty. -/
def cellAt (cells : List (List Char)) (i : Nat) : List Char := cells[i]?.getD []

/-- **The cells of a row as they are printed**, one for each column. -/
def printed (m : Measure) (widths : List Nat) (cells : List (List Char)) : List (List Char) :=
  widths.zipIdx.map fun (w, i) => padCell m w (cellAt cells i)

/-- A row is its printed cells with separators between them. -/
theorem row_eq (m : Measure) (widths : List Nat) (cells : List (List Char)) :
    row m widths cells = separator.intercalate (printed m widths cells) := rfl

theorem length_printed (m : Measure) (widths : List Nat) (cells : List (List Char)) :
    (printed m widths cells).length = widths.length := by
  simp [printed]

/-- The printed cell of a column. -/
theorem getElem?_printed (m : Measure) (widths : List Nat) (cells : List (List Char)) (i : Nat) :
    (printed m widths cells)[i]? = widths[i]?.map fun w => padCell m w (cellAt cells i) := by
  simp [printed, List.getElem?_zipIdx, Function.comp_def]

/-! ## The widths of columns -/

/-- **How wide a column is**: as wide as the widest of its cells, up to the limit. -/
structure IsColumnWidth (m : Measure) (p : Preview) (i w : Nat) : Prop where
  bound : ∀ cells ∈ rows p, min (m.width (cellAt cells i)) widest ≤ w
  attained : ∃ cells ∈ rows p, w = min (m.width (cellAt cells i)) widest

/-- **Every column has its width.** -/
theorem isColumnWidth (h : (widths m p)[i]? = some w) : IsColumnWidth m p i w := by
  have hcolumn : p.header[i]?.map (fun title =>
      min ((p.rows.map fun r => m.width (cellAt r.cells i)).foldl max (m.width title))
        widest) = some w := by
    rw [← h]
    simp [widths, List.getElem?_zipIdx, cellAt, Function.comp_def]
  obtain ⟨title, htitle, rfl⟩ := Option.map_eq_some_iff.1 hcolumn
  have hcells : m.width title :: (p.rows.map fun r => m.width (cellAt r.cells i)) =
      (rows p).map fun cells => m.width (cellAt cells i) := by
    simp [rows, cellAt, htitle, Function.comp_def]
  have hmax : ((rows p).map fun cells => m.width (cellAt cells i)).max? =
      some ((p.rows.map fun r => m.width (cellAt r.cells i)).foldl max (m.width title)) := by
    rw [← hcells, List.max?_cons']
  rw [List.max?_eq_some_iff] at hmax
  obtain ⟨hmem, hbound⟩ := hmax
  constructor
  · intro cells hcells
    have hle := hbound _ (List.mem_map_of_mem hcells)
    omega
  · obtain ⟨cells, hcells, hwidth⟩ := List.mem_map.1 hmem
    exact ⟨cells, hcells, by rw [← hwidth]⟩

/-! ## Cells that are cut -/

/-- **What is kept of a cell that is cut**: the longest start of it whose characters are together
narrower than the limit. -/
structure IsKept (m : Measure) (cell s : List Char) : Prop where
  start : s <+: cell
  narrow : (s.map m.charWidth).sum < widest
  longest : ∀ t, t <+: cell → (t.map m.charWidth).sum < widest → t <+: s

/-- **Cells that overflow**: they are wider than the limit, and what is kept of them leaves no room
for the ellipsis. -/
def Overflows (m : Measure) (cell : List Char) : Prop :=
  widest < m.width cell ∧ ∃ s, IsKept m cell s ∧ widest ≤ m.width s

/-- A cell is cut to a start of it that has room. -/
theorem fitting_prefix (m : Measure) (room : Nat) (cell : List Char) :
    fitting m room cell <+: cell ∧ ((fitting m room cell).map m.charWidth).sum ≤ room := by
  induction cell generalizing room with
  | nil => simp [fitting]
  | cons c cell ih =>
    rw [fitting]
    split
    · next hroom =>
      obtain ⟨hstart, hsum⟩ := ih (room - m.charWidth c)
      refine ⟨List.cons_prefix_cons.2 ⟨rfl, hstart⟩, ?_⟩
      rw [List.map_cons, List.sum_cons]
      omega
    · simp

/-- Every start of it that has room is part of that one. -/
theorem prefix_fitting {room : Nat} {cell t : List Char} (ht : t <+: cell)
    (hroom : (t.map m.charWidth).sum ≤ room) : t <+: fitting m room cell := by
  induction cell generalizing room t with
  | nil => rwa [fitting]
  | cons c cell ih =>
    cases t with
    | nil => exact List.nil_prefix
    | cons d t =>
      obtain ⟨rfl, hstart⟩ := List.cons_prefix_cons.1 ht
      rw [List.map_cons, List.sum_cons] at hroom
      rw [fitting, if_pos (by omega)]
      exact List.cons_prefix_cons.2 ⟨rfl, ih hstart (by omega)⟩

/-- **What is kept of a cell** is what fits in front of the ellipsis. -/
theorem isKept_iff {s : List Char} : IsKept m cell s ↔ s = fitting m (widest - 1) cell := by
  have hwidest : 0 < widest := by decide
  obtain ⟨hstart, hsum⟩ := fitting_prefix m (widest - 1) cell
  constructor
  · intro h
    have hlonger := h.longest _ hstart (by omega)
    have hnarrow := h.narrow
    have hshorter : s <+: fitting m (widest - 1) cell := prefix_fitting h.start (by omega)
    exact hshorter.eq_of_length_le hlonger.length_le
  · rintro rfl
    exact ⟨hstart, by omega, fun t ht hnarrow => prefix_fitting ht (by omega)⟩

/-- A cell overflows by what fits in front of the ellipsis. -/
theorem overflows_iff : Overflows m cell ↔
    widest < m.width cell ∧ widest ≤ m.width (fitting m (widest - 1) cell) := by
  simp [Overflows, isKept_iff]

instance (m : Measure) : DecidablePred (Overflows m) := fun _ => decidable_of_iff' _ overflows_iff

/-- **A cell of steady characters does not overflow.** -/
theorem not_overflows (hm : m.Lawful) (hcell : ∀ c ∈ cell, isSteady c = true) :
    ¬Overflows m cell := by
  rintro ⟨-, s, hkept, hwide⟩
  have hwidth := hm.steady s fun c hc => hcell c (hkept.start.subset hc)
  have hnarrow := hkept.narrow
  omega

/-- Quotation marks of which a wider form is asked for take twice the columns of their characters,
and overflow. -/
example : Overflows .unicode (List.replicate 17 ['“', '\ufe01']).flatten := by decide +kernel

/-! ## Cells in columns -/

section Cells

variable (hm : m.Lawful)

include hm

/-- **A printed cell is as wide as its column**, or as what is left of the cell where that is
wider. -/
theorem width_padCell (w : Nat) (cell : List Char) :
    m.width (padCell m w cell) = max w (m.width (cutCell m w cell)) := by
  rw [padCell, hm.width_append_blanks]
  omega

/-- An ellipsis takes one column more. -/
theorem width_append_ellipsis (s : List Char) : m.width (s ++ [ellipsis]) = m.width s + 1 := by
  rw [hm.parts ellipsis (by decide), hm.nil]

/-- **A cell is printed as wide as its column** unless it overflows. -/
theorem width_padCell_iff (hw : IsColumnWidth m p i w) (hcells : cells ∈ rows p) :
    m.width (padCell m w (cellAt cells i)) = w ↔ ¬Overflows m (cellAt cells i) := by
  have hbound := hw.bound cells hcells
  rw [width_padCell hm, overflows_iff]
  generalize cellAt cells i = cell at hbound ⊢
  by_cases hfits : m.width cell ≤ w
  · -- Such a cell is not cut.
    have hlimit : w ≤ widest := by
      obtain ⟨_, -, rfl⟩ := hw.attained
      exact Nat.min_le_right _ _
    rw [cutCell_of_le m hfits]
    omega
  · obtain rfl : w = widest := by
      obtain ⟨_, -, rfl⟩ := hw.attained
      omega
    have hwidest : 0 < widest := by decide
    rw [cutCell, if_neg hfits, width_append_ellipsis hm]
    omega

end Cells

/-! ## Rows -/

/-- **A row that is aligned**: there is one cell for each column, exactly as wide as the column. -/
def IsAligned (m : Measure) (p : Preview) (cells : List (List Char)) : Prop :=
  (printed m (widths m p) cells).map m.width = widths m p

/-- How wide cells are with separators between them. -/
def lineWidth (widths : List Nat) : Nat := widths.sum + separator.length * (widths.length - 1)

/-- Numbers that are together no more than others, each of which is at least as great, are the
same. -/
theorem sum_of_forall₂ {l m : List Nat} (h : List.Forall₂ (· ≤ ·) l m) :
    l.sum ≤ m.sum ∧ (m.sum ≤ l.sum → l = m) := by
  induction h with
  | nil => simp
  | @cons a b l m hab _ ih =>
    obtain ⟨hle, heq⟩ := ih
    simp only [List.sum_cons]
    refine ⟨Nat.add_le_add hab hle, fun hsum => ?_⟩
    obtain rfl : a = b := by omega
    rw [heq (by omega)]

section Rows

variable (hm : m.Lawful)

include hm

/-- **The width of cells with separators between them.** -/
theorem width_intercalate (cells : List (List Char)) :
    m.width (separator.intercalate cells) = lineWidth (cells.map m.width) := by
  induction cells with
  | nil => exact hm.nil
  | cons cell cells ih =>
    cases cells with
    | nil => simp [lineWidth]
    | cons next cells =>
      have hseparator (t : List Char) : separator ++ t = ' ' :: '|' :: ' ' :: t := rfl
      have hbar := hm.parts '|' (by decide) [] (' ' :: separator.intercalate (next :: cells))
      have hblank := hm.parts ' ' (by decide) [] (separator.intercalate (next :: cells))
      rw [hm.nil, List.nil_append] at hbar hblank
      rw [List.intercalate_cons_cons, List.append_assoc, hseparator, hm.parts ' ' (by decide), hbar,
        hblank, ih]
      simp [lineWidth, separator]
      omega

/-- No cell is printed narrower than its column. -/
theorem forall₂_printed (widths : List Nat) (cells : List (List Char)) :
    List.Forall₂ (· ≤ ·) widths ((printed m widths cells).map m.width) := by
  suffices h : List.Forall₂ (· ≤ ·) (widths.zipIdx.map Prod.fst)
      ((printed m widths cells).map m.width) by rwa [List.zipIdx_map_fst] at h
  rw [printed, List.map_map, List.forall₂_map_left_iff, List.forall₂_map_right_iff,
    List.forall₂_same]
  rintro ⟨w, i⟩ -
  show w ≤ m.width (padCell m w (cellAt cells i))
  rw [width_padCell hm]
  exact Nat.le_max_left _ _

/-- **An aligned row is as wide as its columns** with separators between them, and no other row
is. -/
theorem isAligned_iff_width (p : Preview) (cells : List (List Char)) :
    IsAligned m p cells ↔ m.width (row m (widths m p) cells) = lineWidth (widths m p) := by
  have hlength : ((printed m (widths m p) cells).map m.width).length = (widths m p).length := by
    rw [List.length_map, length_printed]
  obtain ⟨-, heq⟩ := sum_of_forall₂ (forall₂_printed hm (widths m p) cells)
  rw [row_eq, width_intercalate hm, lineWidth, lineWidth, hlength]
  constructor
  · intro haligned
    rw [show (printed m (widths m p) cells).map m.width = widths m p from haligned]
  · intro hwidth
    exact (heq (by omega)).symm

/-- A cell of a row stands in the row, or it is missing and does not overflow. -/
theorem mem_or_not_overflows {n : Nat} (hi : i < n) (cells : List (List Char)) :
    cellAt cells i ∈ cells.take n ∨ ¬Overflows m (cellAt cells i) := by
  unfold cellAt
  cases hcell : cells[i]? with
  | none => exact .inr (not_overflows hm fun c hc => nomatch hc)
  | some cell =>
    refine .inl (List.mem_iff_getElem?.2 ⟨i, ?_⟩)
    rw [List.getElem?_take, if_pos hi, hcell, Option.getD_some]

/-- **A row is aligned where no cell overflows.** -/
theorem isAligned_iff_not_overflows (hcells : cells ∈ rows p) :
    IsAligned m p cells ↔ ∀ cell ∈ cells.take p.header.length, ¬Overflows m cell := by
  have hcolumns : IsAligned m p cells ↔
      ∀ i w, (widths m p)[i]? = some w → m.width (padCell m w (cellAt cells i)) = w := by
    rw [IsAligned, List.ext_getElem?_iff]
    refine forall_congr' fun i => ?_
    rw [List.getElem?_map, getElem?_printed]
    cases (widths m p)[i]? <;> simp
  rw [hcolumns]
  constructor
  · intro hwidth cell hcell
    obtain ⟨i, hi, rfl⟩ := List.mem_take_iff_getElem.1 hcell
    have hlt : i < (widths m p).length := by
      rw [length_widths]
      omega
    have hw := List.getElem?_eq_getElem hlt
    have hcellAt : cellAt cells i = cells[i] := by
      rw [cellAt, List.getElem?_eq_getElem, Option.getD_some]
    rw [← hcellAt]
    exact (width_padCell_iff hm (isColumnWidth hw) hcells).1 (hwidth i _ hw)
  · intro hflow i w hw
    have hlt : i < p.header.length := by
      rw [← length_widths m p]
      exact (List.getElem?_eq_some_iff.1 hw).1
    exact (width_padCell_iff hm (isColumnWidth hw) hcells).2
      ((mem_or_not_overflows hm hlt cells).elim (hflow _) id)

end Rows

/-- **A row is aligned if and only if none of its cells overflows**, and if and only if it is as
wide as the columns with separators between them, by any lawful measure. It has one cell for each
column, whether or not it is aligned. A cell of steady characters does not overflow. -/
theorem isAligned_iff (hm : m.Lawful) (p : Preview) :
    (∀ i w, (widths m p)[i]? = some w → IsColumnWidth m p i w) ∧
    (∀ cells ∈ rows p,
      row m (widths m p) cells = separator.intercalate (printed m (widths m p) cells) ∧
      (printed m (widths m p) cells).length = p.header.length ∧
      (IsAligned m p cells ↔ ∀ cell ∈ cells.take p.header.length, ¬Overflows m cell) ∧
      (IsAligned m p cells ↔ m.width (row m (widths m p) cells) = lineWidth (widths m p))) ∧
    ∀ cell : List Char, (∀ c ∈ cell, isSteady c = true) → ¬Overflows m cell :=
  ⟨fun _ _ => isColumnWidth,
    fun cells hcells => ⟨row_eq m _ cells, (length_printed m _ cells).trans (length_widths m p),
      isAligned_iff_not_overflows hm hcells, isAligned_iff_width hm p cells⟩,
    fun _ => not_overflows hm⟩

/-- Names of two columns a character, wider than the limit. -/
def wideNames : Preview :=
  ⟨.comma, ["name".toList, "n".toList], [⟨[List.replicate 17 '漢', ['1']], 2, false⟩]⟩

/-- In a table with names that are cut, the row with such a name is aligned in its two columns. -/
theorem isAligned_iff_wideNames : Measure.unicode.Lawful ∧
    (widths .unicode wideNames)[0]? = some 32 ∧ IsColumnWidth .unicode wideNames 0 32 ∧
      [List.replicate 17 '漢', ['1']] ∈ rows wideNames ∧
      IsAligned .unicode wideNames [List.replicate 17 '漢', ['1']] ∧
      Measure.unicode.width
        (row .unicode (widths .unicode wideNames) [List.replicate 17 '漢', ['1']]) = 36 := by
  obtain ⟨hcolumns, hrows, hsteady⟩ := isAligned_iff Measure.lawful_unicode wideNames
  have hwidth : (widths .unicode wideNames)[0]? = some 32 := by decide +kernel
  have hmem : [List.replicate 17 '漢', ['1']] ∈ rows wideNames := by decide
  obtain ⟨-, -, hflow, hline⟩ := hrows _ hmem
  have haligned : IsAligned .unicode wideNames [List.replicate 17 '漢', ['1']] := by
    refine hflow.2 fun cell hcell => hsteady cell ?_
    revert cell
    decide
  refine ⟨Measure.lawful_unicode, hwidth, hcolumns 0 32 hwidth, hmem, haligned,
    (hline.1 haligned).trans ?_⟩
  decide +kernel

/-- **A table with a cell that overflows**: every other one of its characters is a tab, and all of
them are kept. It is printed wider than its column, and its row wider than the titles. -/
theorem exists_overflow :
    ∃ p, Preview.ofData
        "k,v\na\tb\tc\td\te\tf\tg\th\ti\tj\tk\tl\tm\tn\to\tp\tq\tr\ts\tt,1".toList = some p ∧
      ∃ cells ∈ rows p, widths .unicode p = [32, 1] ∧
        (printed .unicode (widths .unicode p) cells).map Measure.unicode.width = [40, 1] ∧
        Measure.unicode.width (row .unicode (widths .unicode p) p.header) = 36 ∧
        Measure.unicode.width (row .unicode (widths .unicode p) cells) = 44 := by
  refine ⟨_, rfl, ?_⟩
  decide +kernel

end TemplateShare.Table
