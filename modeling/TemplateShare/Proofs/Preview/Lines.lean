import TemplateShare.Proofs.Preview.Delimiter

/-! # The lines that count

Blank lines and comments do not count. The lines that do are joined and cut into lines again before
a table is made of them or a payload is built, and nothing happens to them on the way but that a
carriage return at the end of a line may be taken for a part of its line end. None of what is read
off a line depends on such carriage returns.

* **`Text.dropReturns`** — a line without the carriage returns at its end.
* **`Preview.map_dropReturns_dataLines`** — the lines that count, of lines that have been joined.
* **`Preview.map_dropReturns_charLines`** — the lines of a text without the others.
* **`Preview.row_dropReturns`** — what a row shows of its line. -/

namespace TemplateShare

/-! ## Carriage returns -/

namespace Text

/-- **A line without the carriage returns at its end.** -/
def dropReturns (l : List Char) : List Char := l.rdropWhile (· == '\r')

/-- A line is what is left of it, and white space. -/
theorem exists_dropReturns (l : List Char) :
    ∃ w, l = dropReturns l ++ w ∧ ∀ c ∈ w, isSpace c = true := by
  refine ⟨l.rtakeWhile (· == '\r'), List.rdropWhile_append_rtakeWhile.symm, fun c hc => ?_⟩
  obtain rfl : c = '\r' := by simpa using List.mem_rtakeWhile_imp hc
  rfl

/-- One carriage return less makes no difference. -/
@[simp] theorem dropReturns_dropReturn (l : List Char) :
    dropReturns (dropReturn l) = dropReturns l := by
  unfold dropReturn
  split
  · next h =>
    obtain ⟨m, rfl⟩ := List.getLast?_eq_some_iff.1 h
    rw [List.dropLast_concat, dropReturns, dropReturns, List.rdropWhile_concat_pos _ _ _ (by decide)]
  · rfl

/-- **Lines that are joined and cut again** keep their characters, the last of them not if it is
empty; behind the others a carriage return is part of the line end. -/
theorem charLines_intercalate {ls : List (List Char)} (h : ∀ l ∈ ls, '\n' ∉ l) :
    charLines (['\n'].intercalate ls) =
      ls.dropLast.map dropReturn ++ (ls.getLast?.filter (!·.isEmpty)).toList := by
  rcases List.eq_nil_or_concat' ls with rfl | ⟨init, last, rfl⟩
  · rfl
  · rw [charLines, splitLineFeeds_intercalate (by simp) h]
    cases last <;> simp [Option.filter]

end Text

namespace Preview

open Text

/-! ## Lines that do not count -/

/-- White space behind a line does not make it count, or not count. -/
theorem isIgnored_append {w : List Char} (hw : ∀ c ∈ w, isSpace c = true) (l : List Char) :
    isIgnored (l ++ w) = isIgnored l := by
  rw [isIgnored, isIgnored, dropSpace, dropSpace, List.dropWhile_append]
  cases h : l.dropWhile isSpace with
  | nil => rw [List.isEmpty_nil, if_pos rfl, List.dropWhile_eq_nil_iff.2 hw]
  | cons c s => rfl

/-- Carriage returns at its end do not make a line count, or not count. -/
theorem isIgnored_dropReturns (l : List Char) : isIgnored (dropReturns l) = isIgnored l := by
  obtain ⟨w, hl, hw⟩ := exists_dropReturns l
  conv_rhs => rw [hl]
  exact (isIgnored_append hw _).symm

/-- A line counts with a carriage return at its end if it counts without. -/
@[simp] theorem isIgnored_dropReturn (l : List Char) : isIgnored (dropReturn l) = isIgnored l := by
  rw [← isIgnored_dropReturns, dropReturns_dropReturn, isIgnored_dropReturns]

/-- The lines that count have no line feeds. -/
theorem notMem_of_mem_dataLines {data l : List Char} (h : l ∈ dataLines data) : '\n' ∉ l :=
  notMem_of_mem_charLines (List.mem_of_mem_filter h)

/-! ## Joining -/

variable {ls : List (List Char)}

/-- **The lines that count, of lines that have been joined**, are those of the lines that do. -/
theorem map_dropReturns_dataLines (h : ∀ l ∈ ls, '\n' ∉ l) :
    (dataLines (['\n'].intercalate ls)).map dropReturns =
      (ls.filter (!isIgnored ·)).map dropReturns := by
  rw [dataLines, charLines_intercalate h]
  rcases List.eq_nil_or_concat' ls with rfl | ⟨init, last, rfl⟩
  · rfl
  · have hinit : ((init.map dropReturn).filter (!isIgnored ·)).map dropReturns =
        (init.filter (!isIgnored ·)).map dropReturns := by
      rw [List.filter_map, List.map_map]
      simp only [Function.comp_def, isIgnored_dropReturn, dropReturns_dropReturn]
    -- An empty line at the end is lost, and would not have counted.
    have hlast : ([last].getLast?.filter (!·.isEmpty)).toList.filter (!isIgnored ·) =
        [last].filter (!isIgnored ·) := by
      cases last <;> rfl
    rw [List.dropLast_concat, List.getLast?_concat, List.filter_append, List.filter_append,
      List.map_append, List.map_append, hinit]
    exact congrArg _ (congrArg (List.map dropReturns) hlast)

/-- **The lines of a text without those that do not count** are the lines that count. -/
theorem map_dropReturns_charLines (data : List Char) :
    (charLines (filterLines data)).map dropReturns = (dataLines data).map dropReturns := by
  have hmem {l : List Char} (hl : l ∈ dataLines data) : (!isIgnored l) = true :=
    (List.mem_filter.1 hl).2
  have hall : ∀ l ∈ charLines (filterLines data), (!isIgnored l) = true := by
    intro l hl
    rw [filterLines, charLines_intercalate fun _ => notMem_of_mem_dataLines] at hl
    rcases List.mem_append.1 hl with hl | hl
    · obtain ⟨m, hm, rfl⟩ := List.mem_map.1 hl
      rw [isIgnored_dropReturn]
      exact hmem (List.dropLast_subset _ hm)
    · rw [Option.mem_toList, Option.filter_eq_some_iff] at hl
      exact hmem (List.mem_of_getLast? hl.1)
  have hkept : (dataLines data).filter (!isIgnored ·) = dataLines data :=
    List.filter_eq_self.2 fun l hl => hmem hl
  calc (charLines (filterLines data)).map dropReturns
      = (dataLines (filterLines data)).map dropReturns :=
        congrArg (List.map dropReturns) (List.filter_eq_self.2 hall).symm
    _ = ((dataLines data).filter (!isIgnored ·)).map dropReturns :=
        map_dropReturns_dataLines fun _ => notMem_of_mem_dataLines
    _ = (dataLines data).map dropReturns := by rw [hkept]

/-- What is read off lines without regard to carriage returns at their ends is the same for lines
that differ in nothing else. -/
theorem map_eq_of_dropReturns {α : Type} {f : List Char → α} {ms : List (List Char)}
    (hf : ∀ l, f (dropReturns l) = f l) (h : ls.map dropReturns = ms.map dropReturns) :
    ls.map f = ms.map f := by
  have hmap (ns : List (List Char)) : ns.map f = (ns.map dropReturns).map f := by
    rw [List.map_map]
    exact List.map_congr_left fun l _ => (hf l).symm
  rw [hmap ls, hmap ms, h]

/-! ## What is read off a line -/

/-- The fields of a line are those without the carriage returns at its end. -/
theorem split_dropReturns (d : Delimiter) (l : List Char) : d.split (dropReturns l) = d.split l := by
  obtain ⟨w, hl, hw⟩ := exists_dropReturns l
  have htrimmed : Delimiter.trimmed (dropReturns l) = Delimiter.trimmed l := by
    conv_rhs => rw [hl]
    exact (Delimiter.trimmed_append hw _).symm
  cases d with
  | comma => exact congrArg (Delimiter.splitCommas []) htrimmed
  | whitespace => exact congrArg Delimiter.splitBlanks htrimmed

/-- The delimiter of a header is that without the carriage returns at its end. -/
theorem sniff_dropReturns (l : List Char) :
    Delimiter.sniff (dropReturns l) = Delimiter.sniff l := by
  have hcount {x : Char} (hx : x ≠ '\r') : (dropReturns l).count x = l.count x := by
    conv_rhs => rw [← List.rdropWhile_append_rtakeWhile (p := (· == '\r')) (l := l)]
    have hnone : (l.rtakeWhile (· == '\r')).count x = 0 :=
      List.count_eq_zero.2 fun hmem => hx (by simpa using List.mem_rtakeWhile_imp hmem)
    rw [List.count_append, hnone, Nat.add_zero]
    rfl
  rw [Delimiter.sniff, Delimiter.sniff, hcount (by decide), hcount (by decide)]

/-- The row of a line is that without the carriage returns at its end. -/
theorem row_dropReturns (d : Delimiter) (columns : Nat) (l : List Char) :
    row d columns (dropReturns l) = row d columns l := by
  rw [row, row, split_dropReturns]

end Preview

end TemplateShare
