import TemplateShare.Text.Blank

/-! # Trimmed texts and lines

Trimming takes white space from the ends of a text and nothing else, and the pieces between line
feeds are the text again.

* **`Text.exists_dropSpaceEnd`** — what trimming the end takes away.
* **`Text.mem_splitLineFeeds`**, **`Text.getLast?_splitLineFeeds`** — the pieces between line feeds.
* **`Text.splitLineFeeds_intercalate`** — lines that are joined are cut again.
* **`Text.charLines_eq`** — when the pieces are the lines of the text.
* **`Text.charLines_ended`** — lines that are ended come first.
* **`Text.replaceFirst_ended`** — the first part that is replaced, behind such lines. -/

namespace TemplateShare.Text

/-! ## White space at the ends -/

/-- White space behind a text is dropped with the white space at its end. -/
theorem dropSpaceEnd_append {s w : List Char} (hw : ∀ c ∈ w, isSpace c = true) :
    dropSpaceEnd (s ++ w) = dropSpaceEnd s := by
  have hall : ∀ c ∈ w.reverse, isSpace c = true := fun c hc => hw c (List.mem_reverse.1 hc)
  rw [dropSpaceEnd, List.reverse_append, List.dropWhile_append_of_pos hall, dropSpaceEnd]

/-- A text is what is left of it, and white space. -/
theorem exists_dropSpaceEnd (s : List Char) :
    ∃ w, s = dropSpaceEnd s ++ w ∧ ∀ c ∈ w, isSpace c = true := by
  refine ⟨(s.reverse.takeWhile isSpace).reverse, ?_, fun c hc => ?_⟩
  · rw [dropSpaceEnd, ← List.reverse_append, List.takeWhile_append_dropWhile, List.reverse_reverse]
  · exact List.all_eq_true.1 List.all_takeWhile c (List.mem_reverse.1 hc)

/-- The white space at the end is gone. -/
theorem getLast?_dropSpaceEnd {s : List Char} {x : Char} (h : (dropSpaceEnd s).getLast? = some x) :
    isSpace x = false := by
  rw [dropSpaceEnd, List.getLast?_reverse] at h
  have hhead := List.head?_dropWhile_not isSpace s.reverse
  rw [h] at hhead
  simpa using hhead

/-! ## Pieces between line feeds -/

/-- There always is a line. -/
theorem splitLineFeeds_ne_nil (s : List Char) : splitLineFeeds s ≠ [] := by
  cases s with
  | nil => exact List.cons_ne_nil _ _
  | cons c s =>
    rw [splitLineFeeds]
    split
    · exact List.cons_ne_nil _ _
    · split <;> exact List.cons_ne_nil _ _

/-- What a text begins with is put in front of its first line. -/
theorem splitLineFeeds_cons {c : Char} (hc : c ≠ '\n') (s : List Char) :
    ∃ l ls, splitLineFeeds s = l :: ls ∧ splitLineFeeds (c :: s) = (c :: l) :: ls := by
  obtain ⟨l, ls, h⟩ := List.exists_cons_of_ne_nil (splitLineFeeds_ne_nil s)
  refine ⟨l, ls, h, ?_⟩
  rw [splitLineFeeds, if_neg hc, h]

/-- A line feed starts a line. -/
theorem splitLineFeeds_break (s : List Char) :
    splitLineFeeds ('\n' :: s) = [] :: splitLineFeeds s := by
  rw [splitLineFeeds, if_pos rfl]

/-- Lines are made of the characters of the text, without line feeds. -/
theorem mem_splitLineFeeds {s l : List Char} {x : Char} (hl : l ∈ splitLineFeeds s) (hx : x ∈ l) :
    x ∈ s ∧ x ≠ '\n' := by
  induction s generalizing l with
  | nil =>
    obtain rfl := List.mem_singleton.1 hl
    cases hx
  | cons c s ih =>
    by_cases hc : c = '\n'
    · rw [hc, splitLineFeeds_break, List.mem_cons] at hl
      rcases hl with rfl | hl
      · cases hx
      · exact ⟨List.mem_cons_of_mem c (ih hl hx).1, (ih hl hx).2⟩
    · obtain ⟨m, ls, h, h'⟩ := splitLineFeeds_cons hc s
      rw [h', List.mem_cons] at hl
      rcases hl with rfl | hl
      · rcases List.mem_cons.1 hx with rfl | hx
        · exact ⟨List.mem_cons_self, hc⟩
        · have hm := ih (by rw [h]; exact List.mem_cons_self) hx
          exact ⟨List.mem_cons_of_mem c hm.1, hm.2⟩
      · have hm := ih (by rw [h]; exact List.mem_cons_of_mem m hl) hx
        exact ⟨List.mem_cons_of_mem c hm.1, hm.2⟩

/-- The last line is empty only behind a line feed, or where there is no text. -/
theorem getLast?_splitLineFeeds {s : List Char} (h : (splitLineFeeds s).getLast? = some []) :
    s = [] ∨ s.getLast? = some '\n' := by
  induction s with
  | nil => exact .inl rfl
  | cons c s ih =>
    right
    obtain ⟨l, ls, hs⟩ := List.exists_cons_of_ne_nil (splitLineFeeds_ne_nil s)
    -- The last piece is that of the rest, or the rest is one piece and the character joins it.
    have hlast : (splitLineFeeds s).getLast? = some [] ∨ (ls = [] ∧ c ≠ '\n') := by
      by_cases hc : c = '\n'
      · rw [hc, splitLineFeeds_break, hs, List.getLast?_cons_cons, ← hs] at h
        exact .inl h
      · obtain ⟨m, ms, hm, hm'⟩ := splitLineFeeds_cons hc s
        obtain ⟨rfl, rfl⟩ := List.cons.inj (hs.symm.trans hm)
        cases ls with
        | nil => exact .inr ⟨rfl, hc⟩
        | cons l' ls =>
          rw [hm', List.getLast?_cons_cons] at h
          left
          rw [hm, List.getLast?_cons_cons]
          exact h
    rcases hlast with hlast | ⟨hnil, hc⟩
    · rcases ih hlast with rfl | hbreak
      · by_cases hc : c = '\n'
        · rw [hc]
          rfl
        · obtain ⟨m, ms, hm, hm'⟩ := splitLineFeeds_cons hc []
          obtain ⟨rfl, rfl⟩ := List.cons.inj hm
          rw [hm'] at h
          cases h
      · obtain ⟨y, s', rfl⟩ : ∃ y s', s = y :: s' := by
          cases s with
          | nil => cases hbreak
          | cons y s' => exact ⟨y, s', rfl⟩
        rw [List.getLast?_cons_cons]
        exact hbreak
    · obtain ⟨m, ms, hm, hm'⟩ := splitLineFeeds_cons hc s
      obtain ⟨rfl, rfl⟩ := List.cons.inj (hs.symm.trans hm)
      rw [hm', hnil] at h
      cases h

/-- A line feed parts lines, wherever it stands. -/
theorem splitLineFeeds_append_break (s t : List Char) :
    splitLineFeeds (s ++ '\n' :: t) = splitLineFeeds s ++ splitLineFeeds t := by
  induction s with
  | nil => exact splitLineFeeds_break t
  | cons c s ih =>
    rw [List.cons_append]
    by_cases hc : c = '\n'
    · rw [hc, splitLineFeeds_break, splitLineFeeds_break, ih, List.cons_append]
    · obtain ⟨l, ls, h, hcons⟩ := splitLineFeeds_cons hc s
      obtain ⟨m, ms, h', hcons'⟩ := splitLineFeeds_cons hc (s ++ '\n' :: t)
      rw [ih, h, List.cons_append] at h'
      obtain ⟨rfl, rfl⟩ := List.cons.inj h'
      rw [hcons, hcons', List.cons_append]

/-- Without line feeds there is one line. -/
theorem splitLineFeeds_of_notMem {l : List Char} (h : '\n' ∉ l) : splitLineFeeds l = [l] := by
  induction l with
  | nil => rfl
  | cons c l ih =>
    have hc : c ≠ '\n' := fun hc => h (by rw [hc]; exact List.mem_cons_self)
    rw [splitLineFeeds, if_neg hc, ih fun hl => h (List.mem_cons_of_mem c hl)]

/-- **Lines that are joined with line feeds** are cut at them. -/
theorem splitLineFeeds_intercalate {ls : List (List Char)} (hne : ls ≠ [])
    (h : ∀ l ∈ ls, '\n' ∉ l) : splitLineFeeds (['\n'].intercalate ls) = ls := by
  induction ls with
  | nil => exact absurd rfl hne
  | cons l ls ih =>
    have hl := h l List.mem_cons_self
    cases ls with
    | nil => rw [List.intercalate_singleton, splitLineFeeds_of_notMem hl]
    | cons m ms =>
      rw [List.intercalate_cons_cons, List.append_assoc, List.singleton_append,
        splitLineFeeds_append_break, splitLineFeeds_of_notMem hl,
        ih (List.cons_ne_nil m ms) fun x hx => h x (List.mem_cons_of_mem l hx),
        List.singleton_append]

/-! ## Lines -/

/-- Lines have no line feeds. -/
theorem notMem_of_mem_charLines {s l : List Char} (h : l ∈ charLines s) : '\n' ∉ l := by
  have hpiece {p : List Char} (hp : p ∈ splitLineFeeds s) : '\n' ∉ p :=
    fun hmem => (mem_splitLineFeeds hp hmem).2 rfl
  unfold charLines at h
  rcases List.mem_append.1 h with h | h
  · obtain ⟨p, hp, rfl⟩ := List.mem_map.1 h
    intro hmem
    refine hpiece (List.dropLast_subset _ hp) ?_
    unfold dropReturn at hmem
    split at hmem
    · exact List.dropLast_subset _ hmem
    · exact hmem
  · split at h
    · cases h
    · rw [List.mem_singleton.1 h, List.getLast?_eq_some_getLast (splitLineFeeds_ne_nil s)]
      exact hpiece (List.getLast_mem _)

/-- Without carriage returns, and with text behind the last line feed, the lines of a text are its
pieces between line feeds. -/
theorem charLines_eq {s : List Char} (hne : s ≠ []) (hlast : s.getLast? ≠ some '\n')
    (hreturn : '\r' ∉ s) : charLines s = splitLineFeeds s := by
  have hpieces := splitLineFeeds_ne_nil s
  have hl : (splitLineFeeds s).getLast? = some ((splitLineFeeds s).getLast hpieces) :=
    List.getLast?_eq_some_getLast hpieces
  have hfull : ((splitLineFeeds s).getLast hpieces).isEmpty = false := by
    rw [List.isEmpty_eq_false_iff]
    intro hempty
    rw [hempty] at hl
    rcases getLast?_splitLineFeeds hl with h | h
    · exact hne h
    · exact hlast h
  have hsame : ∀ x ∈ (splitLineFeeds s).dropLast, dropReturn x = x := by
    intro x hx
    refine if_neg fun h => hreturn ?_
    exact (mem_splitLineFeeds (List.dropLast_subset _ hx) (List.mem_of_getLast? h)).1
  unfold charLines
  dsimp only
  rw [List.map_congr_left hsame, List.map_id', hl]
  simp only [Option.getD_some, hfull, Bool.false_eq_true, if_false]
  exact List.dropLast_concat_getLast hpieces

/-- What stands in front of the first line feed is the first line. -/
theorem charLines_line {l : List Char} (h : '\n' ∉ l) (s : List Char) :
    charLines (l ++ '\n' :: s) = dropReturn l :: charLines s := by
  obtain ⟨p, ps, hs⟩ := List.exists_cons_of_ne_nil (splitLineFeeds_ne_nil s)
  rw [charLines, charLines, splitLineFeeds_append_break, splitLineFeeds_of_notMem h, hs]
  rfl

/-- **Lines that are ended come first.** -/
theorem charLines_ended {ls : List (List Char)} (h : ∀ l ∈ ls, '\n' ∉ l) (s : List Char) :
    charLines (ls.flatMap (· ++ ['\n']) ++ s) = ls.map dropReturn ++ charLines s := by
  induction ls with
  | nil => rfl
  | cons l ls ih =>
    rw [List.flatMap_cons, List.append_assoc, List.append_assoc, List.singleton_append,
      charLines_line (h l List.mem_cons_self), ih fun x hx => h x (List.mem_cons_of_mem l hx)]
    rfl

/-! ## Replacing -/

/-- **A part that comes first is replaced.** -/
theorem replaceFirst_append {old : List Char} (h : old ≠ []) (new s : List Char) :
    replaceFirst old new (old ++ s) = new ++ s := by
  obtain ⟨c, p, rfl⟩ := List.exists_cons_of_ne_nil h
  rw [List.cons_append, replaceFirst, if_pos]
  · rw [← List.cons_append, List.drop_left]
  · rw [List.isPrefixOf_iff_prefix, ← List.cons_append]
    exact List.prefix_append ..

/-- A line is passed over, if what begins with its line feed is not to be replaced. -/
theorem replaceFirst_line {l p s : List Char} (h : '\n' ∉ l) (hs : p.isPrefixOf s = false)
    (new : List Char) :
    replaceFirst ('\n' :: p) new (l ++ '\n' :: s) = l ++ '\n' :: replaceFirst ('\n' :: p) new s := by
  induction l with
  | nil =>
    rw [List.nil_append, replaceFirst, if_neg]
    · rfl
    · simp [List.isPrefixOf, hs]
  | cons c l ih =>
    have hc : '\n' ≠ c := fun hc => h (hc ▸ List.mem_cons_self)
    rw [List.cons_append, replaceFirst, if_neg]
    · rw [ih fun hl => h (List.mem_cons_of_mem c hl)]
      rfl
    · simp [List.isPrefixOf, hc]

/-- **Behind lines that begin with other characters**, the first part is the one that is replaced. -/
theorem replaceFirst_ended {ls : List (List Char)} {c : Char} (hc : c ≠ '\n')
    (h : ∀ l ∈ ls, '\n' ∉ l ∧ l.head? ≠ some c) (p new s : List Char) :
    replaceFirst ('\n' :: c :: p) new (ls.flatMap (· ++ ['\n']) ++ ('\n' :: c :: p ++ s)) =
      ls.flatMap (· ++ ['\n']) ++ (new ++ s) := by
  induction ls with
  | nil => exact replaceFirst_append (List.cons_ne_nil _ _) new s
  | cons l ls ih =>
    obtain ⟨hl, -⟩ := h l List.mem_cons_self
    have hls := fun x hx => h x (List.mem_cons_of_mem l hx)
    -- The next line, or the line feed behind the last one, begins with another character.
    have hnext :
        (c :: p).isPrefixOf (ls.flatMap (· ++ ['\n']) ++ ('\n' :: c :: p ++ s)) = false := by
      cases ls with
      | nil => simp [List.isPrefixOf, hc]
      | cons m ms =>
        obtain ⟨-, hm⟩ := hls m List.mem_cons_self
        cases m with
        | nil => simp [List.isPrefixOf, hc]
        | cons x m =>
          have hx : c ≠ x := fun hx => hm (congrArg some hx.symm)
          simp [List.isPrefixOf, hx]
    rw [List.flatMap_cons, List.append_assoc, List.append_assoc, List.singleton_append,
      replaceFirst_line hl hnext, ih hls, List.append_assoc, List.append_assoc,
      List.singleton_append]

end TemplateShare.Text
