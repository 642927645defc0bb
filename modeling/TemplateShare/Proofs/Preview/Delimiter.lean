import Mathlib.Data.List.DropRight
import Mathlib.Data.List.SplitBy
import TemplateShare.Preview
import TemplateShare.Proofs.Text.Lines

/-! # The fields of a line

What the fields of a line are can be said without a scanner. Between commas they are the pieces of
the trimmed line without the blanks around each; between blanks they are its maximal runs of other
characters. The scanners, which go through the line once, find the same fields.

* **`Delimiter.fields`** — the fields of a trimmed line, by each delimiter.
* **`Delimiter.splitCommas_eq`**, **`Delimiter.splitBlanks_eq`** — what the scanners find.
* **`Delimiter.split_eq_fields`** — they cut a line into its fields. -/

namespace TemplateShare.Delimiter

/-! ## Plain fields -/

/-- A line without the white space at its ends. -/
def trimmed (line : List Char) : List Char := Text.dropSpaceEnd (Text.dropSpace line)

/-- A text without the blanks at its ends. -/
def stripBlanks (s : List Char) : List Char := (s.dropWhile isBlank).rdropWhile isBlank

/-- **The maximal runs** of characters that are no blanks, in order: a text is cut wherever blanks
begin or end, and the parts without blanks are kept. -/
def runs (s : List Char) : List (List Char) :=
  (s.splitBy fun a b => isBlank a == isBlank b).filter (·.all (!isBlank ·))

/-- **The fields of a trimmed line.** Between blanks a line without text has one empty field. -/
def fields : Delimiter → List Char → List (List Char)
  | .comma, s => (s.splitOn ',').map stripBlanks
  | .whitespace, s => if s = [] then [[]] else runs s

/-! ## Blanks -/

/-- Blanks are white space. -/
theorem isSpace_of_isBlank {c : Char} (h : isBlank c = true) : Text.isSpace c = true := by
  simp only [isBlank, Bool.or_eq_true, beq_iff_eq] at h
  rcases h with rfl | rfl <;> rfl

/-- What is no white space is no blank. -/
theorem isBlank_of_not_isSpace {c : Char} (h : Text.isSpace c = false) : isBlank c = false := by
  by_contra hblank
  rw [isSpace_of_isBlank (by simpa using hblank)] at h
  cases h

/-- **A text that ends with no blank**, or is empty. -/
def EndsSolid (s : List Char) : Prop := ∀ c ∈ s.getLast?, isBlank c = false

/-- **A text that starts with no blank**, or is empty. -/
def StartsSolid (s : List Char) : Prop := ∀ c ∈ s.head?, isBlank c = false

/-- What a text ends with ends as the text. -/
theorem EndsSolid.of_suffix {s t : List Char} (hs : EndsSolid s) (h : t <:+ s) : EndsSolid t := by
  obtain ⟨a, rfl⟩ := h
  intro c hc
  refine hs c ?_
  rw [Option.mem_def] at hc ⊢
  rw [List.getLast?_append, hc, Option.some_or]

/-- What a text starts with starts as the text. -/
theorem StartsSolid.of_start {s t : List Char} (hs : StartsSolid s) (h : t <+: s) :
    StartsSolid t := by
  obtain ⟨a, rfl⟩ := h
  intro c hc
  refine hs c ?_
  rw [Option.mem_def] at hc ⊢
  rw [List.head?_append, hc, Option.some_or]

/-- Behind blanks that have been dropped there is no blank. -/
theorem startsSolid_dropWhile (s : List Char) : StartsSolid (s.dropWhile isBlank) := by
  intro c hc
  have hhead := List.head?_dropWhile_not isBlank s
  rw [Option.mem_def.1 hc] at hhead
  simpa using hhead

/-- A text with a blank in front that does not end with one has more than blanks. -/
theorem dropWhile_ne_nil {c : Char} {s : List Char} (hc : isBlank c = true)
    (hs : EndsSolid (c :: s)) : s.dropWhile isBlank ≠ [] := by
  intro hnil
  have hall : ∀ x ∈ c :: s, isBlank x = true := by
    intro x hx
    rcases List.mem_cons.1 hx with rfl | hx
    · exact hc
    · exact List.dropWhile_eq_nil_iff.1 hnil x hx
  have hlast := hs _ (List.getLast?_eq_some_getLast (List.cons_ne_nil c s))
  rw [hall _ (List.getLast_mem _)] at hlast
  cases hlast

/-! ## Trimmed lines -/

/-- A trimmed line ends with no blank. -/
theorem endsSolid_trimmed (line : List Char) : EndsSolid (trimmed line) :=
  fun _ hc => isBlank_of_not_isSpace (Text.getLast?_dropSpaceEnd hc)

/-- A trimmed line starts with no blank. -/
theorem startsSolid_trimmed (line : List Char) : StartsSolid (trimmed line) := by
  have hstart : StartsSolid (Text.dropSpace line) := by
    intro c hc
    have hhead := List.head?_dropWhile_not Text.isSpace line
    rw [show line.dropWhile Text.isSpace = Text.dropSpace line from rfl, Option.mem_def.1 hc] at hhead
    exact isBlank_of_not_isSpace (by simpa using hhead)
  exact hstart.of_start (List.rdropWhile_prefix Text.isSpace _)

/-- White space behind a line is trimmed with the line. -/
theorem trimmed_append {w : List Char} (hw : ∀ c ∈ w, Text.isSpace c = true) (line : List Char) :
    trimmed (line ++ w) = trimmed line := by
  rw [trimmed, Text.dropSpace, List.dropWhile_append]
  split
  · next hnil =>
    rw [List.dropWhile_eq_nil_iff.2 hw, trimmed, Text.dropSpace, List.isEmpty_iff.1 hnil]
  · rw [Text.dropSpaceEnd_append hw]
    rfl

/-- Trimming takes away white space only. -/
theorem count_trimmed {x : Char} (hx : Text.isSpace x = false) (line : List Char) :
    (trimmed line).count x = line.count x := by
  have hnone {w : List Char} (hw : ∀ c ∈ w, Text.isSpace c = true) : w.count x = 0 :=
    List.count_eq_zero.2 fun hmem => by rw [hw x hmem] at hx; cases hx
  have hstart : (Text.dropSpace line).count x = line.count x := by
    conv_rhs => rw [← List.takeWhile_append_dropWhile (p := Text.isSpace) (l := line)]
    rw [List.count_append, hnone (List.all_eq_true.1 List.all_takeWhile), Nat.zero_add]
    rfl
  obtain ⟨w, hsplit, hw⟩ := Text.exists_dropSpaceEnd (Text.dropSpace line)
  have hend := congrArg (List.count x) hsplit
  rw [List.count_append, hnone hw, Nat.add_zero] at hend
  exact hend.symm.trans hstart

/-! ## Commas -/

/-- The pieces between commas, of a text without the blanks in front of it. -/
theorem splitOn_dropWhile (s : List Char) :
    (s.dropWhile isBlank).splitOn ',' = (s.splitOn ',').modifyHead (·.dropWhile isBlank) := by
  induction s with
  | nil => simp
  | cons c s ih =>
    obtain ⟨p, ps, hs⟩ := List.exists_cons_of_ne_nil (List.splitOn_ne_nil ',' s)
    by_cases hc : isBlank c = true
    · have hcomma : (c == ',') = false := by
        rw [beq_eq_false_iff_ne]
        rintro rfl
        cases hc
      rw [List.dropWhile_cons_of_pos hc, ih, List.splitOn_cons_eq_if_modifyHead, hcomma, hs]
      simp [List.dropWhile_cons_of_pos hc]
    · rw [List.dropWhile_cons_of_neg hc, List.splitOn_cons_eq_if_modifyHead, hs]
      split
      · rfl
      · simp [List.dropWhile_cons_of_neg hc]

/-- Blanks are dropped from the end of a text up to the last other character. -/
theorem rdropWhile_append_cons {c : Char} (hc : isBlank c = false) (s t : List Char) :
    (s ++ c :: t).rdropWhile isBlank = s ++ c :: t.rdropWhile isBlank := by
  unfold List.rdropWhile
  rw [List.reverse_append, List.reverse_cons, List.append_assoc, List.dropWhile_append]
  split
  · next hnil =>
    rw [List.isEmpty_iff.1 hnil, List.singleton_append, List.dropWhile_cons_of_neg (by simp [hc])]
    simp
  · simp

/-- What is put in front of the first piece one character after the other. -/
theorem foldr_consFirst (w p : List Char) (ps : List (List Char)) :
    w.foldr consFirst (p :: ps) = (w ++ p) :: ps := by
  induction w with
  | nil => rfl
  | cons c w ih => rw [List.foldr_cons, ih]; rfl

/-- **What the scanner of commas finds** with some blanks in hand: the pieces between commas without
the blanks around each. The first piece begins with the blanks in hand. -/
theorem splitCommas_eq {gap s p : List Char} {ps : List (List Char)}
    (hgap : ∀ c ∈ gap, isBlank c = true) (hmore : gap = [] ∨ s ≠ []) (hs : EndsSolid s)
    (hpieces : s.splitOn ',' = p :: ps) :
    splitCommas gap s = (gap ++ p).rdropWhile isBlank :: ps.map stripBlanks := by
  induction gap, s using splitCommas.induct generalizing p ps with
  | case1 gap =>
    obtain rfl : gap = [] := hmore.resolve_right (fun h => h rfl)
    rw [List.splitOn_nil] at hpieces
    obtain ⟨rfl, rfl⟩ := List.cons.inj hpieces
    rw [splitCommas]
    rfl
  | case2 gap s ih =>
    obtain ⟨q, qs, hq⟩ := List.exists_cons_of_ne_nil (List.splitOn_ne_nil ',' s)
    rw [List.splitOn_cons_eq_if_modifyHead, if_pos (beq_self_eq_true _), hq] at hpieces
    obtain ⟨rfl, rfl⟩ := List.cons.inj hpieces
    have hrest : (s.dropWhile isBlank).splitOn ',' = q.dropWhile isBlank :: qs := by
      rw [splitOn_dropWhile, hq, List.modifyHead_cons]
    have hsuffix : s.dropWhile isBlank <:+ ',' :: s :=
      (List.dropWhile_suffix _).trans (List.suffix_cons _ _)
    rw [splitCommas, if_pos rfl, ih (fun c hc => nomatch hc) (.inl rfl) (hs.of_suffix hsuffix) hrest,
      List.append_nil, List.rdropWhile_eq_nil_iff.2 hgap]
    rfl
  | case3 gap c s hcomma hblank ih =>
    obtain ⟨q, qs, hq⟩ := List.exists_cons_of_ne_nil (List.splitOn_ne_nil ',' s)
    rw [List.splitOn_cons_eq_if_modifyHead, if_neg (by simpa using hcomma), hq] at hpieces
    obtain ⟨rfl, rfl⟩ := List.cons.inj hpieces
    -- The blank is taken in hand. More follows it, as the text ends with none.
    have hne : s ≠ [] := by
      rintro rfl
      exact dropWhile_ne_nil hblank hs rfl
    have hgap' : ∀ x ∈ gap ++ [c], isBlank x = true := by
      intro x hx
      rcases List.mem_append.1 hx with hx | hx
      · exact hgap x hx
      · rwa [List.mem_singleton.1 hx]
    rw [splitCommas, if_neg hcomma, if_pos hblank,
      ih hgap' (.inr hne) (hs.of_suffix (List.suffix_cons _ _)) hq, List.append_assoc]
    rfl
  | case4 gap c s hcomma hblank ih =>
    obtain ⟨q, qs, hq⟩ := List.exists_cons_of_ne_nil (List.splitOn_ne_nil ',' s)
    rw [List.splitOn_cons_eq_if_modifyHead, if_neg (by simpa using hcomma), hq] at hpieces
    obtain ⟨rfl, rfl⟩ := List.cons.inj hpieces
    rw [splitCommas, if_neg hcomma, if_neg hblank,
      ih (fun c hc => nomatch hc) (.inl rfl) (hs.of_suffix (List.suffix_cons _ _)) hq,
      foldr_consFirst, rdropWhile_append_cons (by simpa using hblank), List.append_assoc]
    rfl

/-- The first piece of a text stands at its start. -/
theorem prefix_of_splitOn {s p : List Char} {ps : List (List Char)} (h : s.splitOn ',' = p :: ps) :
    p <+: s := by
  have hjoined : [','].intercalate (s.splitOn ',') = s := List.intercalate_splitOn ','
  rw [h] at hjoined
  cases ps with
  | nil => exact ⟨[], by simpa using hjoined⟩
  | cons q qs =>
    rw [List.intercalate_cons_cons, List.append_assoc] at hjoined
    exact ⟨_, hjoined⟩

/-- **Cutting at commas** gives the pieces of the trimmed line without the blanks around each. -/
theorem split_comma (line : List Char) :
    Delimiter.comma.split line = ((trimmed line).splitOn ',').map stripBlanks := by
  obtain ⟨p, ps, hpieces⟩ := List.exists_cons_of_ne_nil (List.splitOn_ne_nil ',' (trimmed line))
  have hstart : p.dropWhile isBlank = p := by
    have hp := (startsSolid_trimmed line).of_start (prefix_of_splitOn hpieces)
    cases p with
    | nil => rfl
    | cons c p => exact List.dropWhile_cons_of_neg (by simp [hp c rfl])
  have hscan : splitCommas [] (trimmed line) = p.rdropWhile isBlank :: ps.map stripBlanks :=
    splitCommas_eq (fun c hc => nomatch hc) (.inl rfl) (endsSolid_trimmed line) hpieces
  rw [hpieces, List.map_cons, stripBlanks, hstart]
  exact hscan

/-- There is one piece more than there are commas. -/
theorem length_splitOn (s : List Char) : (s.splitOn ',').length = s.count ',' + 1 := by
  induction s with
  | nil => simp
  | cons c s ih =>
    rw [List.splitOn_cons_eq_if_modifyHead]
    by_cases hc : c = ','
    · rw [if_pos (by simpa using hc), hc, List.length_cons, ih, List.count_cons_self]
    · rw [if_neg (by simpa using hc), List.length_modifyHead, ih, List.count_cons_of_ne hc]

/-- No piece has a comma. -/
theorem notMem_of_mem_splitOn {s p : List Char} (h : p ∈ s.splitOn ',') : ',' ∉ p := by
  induction s generalizing p with
  | nil =>
    obtain rfl : p = [] := by simpa using h
    exact List.not_mem_nil
  | cons c s ih =>
    obtain ⟨q, qs, hq⟩ := List.exists_cons_of_ne_nil (List.splitOn_ne_nil ',' s)
    rw [List.splitOn_cons_eq_if_modifyHead] at h
    split at h
    · rcases List.mem_cons.1 h with rfl | h
      · exact List.not_mem_nil
      · exact ih h
    · next hc =>
      rw [hq, List.modifyHead_cons, List.mem_cons] at h
      rcases h with rfl | h
      · rw [List.mem_cons, not_or]
        exact ⟨fun h => hc (by simp [← h]), ih (by rw [hq]; exact List.mem_cons_self)⟩
      · exact ih (by rw [hq]; exact List.mem_cons_of_mem q h)

/-- Stripping adds nothing. -/
theorem mem_of_mem_stripBlanks {s : List Char} {x : Char} (h : x ∈ stripBlanks s) : x ∈ s :=
  (List.dropWhile_sublist isBlank).mem ((List.rdropWhile_prefix isBlank _).mem h)

/-! ## Runs -/

/-- Blanks in front of other characters are in no run. -/
theorem runs_append_blanks {b t : List Char} (hb : ∀ c ∈ b, isBlank c = true)
    (ht : StartsSolid t) : runs (b ++ t) = runs t := by
  have hcut : ∀ x ∈ b.getLast?, ∀ y ∈ t.head?, (isBlank x == isBlank y) = false := by
    intro x hx y hy
    rw [hb x (List.mem_of_getLast? hx), ht y hy]
    rfl
  -- The blanks are one part of the cut, or none, and it is not kept.
  have hnone : (b.splitBy fun x y => isBlank x == isBlank y).filter (·.all (!isBlank ·)) = [] := by
    rw [List.filter_eq_nil_iff]
    intro m hm hall
    obtain ⟨x, hx⟩ := List.exists_mem_of_ne_nil m (List.ne_nil_of_mem_splitBy hm)
    have hblank : isBlank x = true := by
      refine hb x ?_
      rw [← List.flatten_splitBy (fun x y => isBlank x == isBlank y) b]
      exact List.mem_flatten_of_mem hm hx
    simpa [hblank] using List.all_eq_true.1 hall x hx
  rw [runs, List.splitBy_append hcut, List.filter_append, hnone, List.nil_append]
  rfl

/-- Other characters in front of a blank are one run. -/
theorem runs_append_solid {w t : List Char} (hne : w ≠ []) (hw : ∀ c ∈ w, isBlank c = false)
    (ht : ∀ c ∈ t.head?, isBlank c = true) : runs (w ++ t) = w :: runs t := by
  have hcut : ∀ x ∈ w.getLast?, ∀ y ∈ t.head?, (isBlank x == isBlank y) = false := by
    intro x hx y hy
    rw [hw x (List.mem_of_getLast? hx), ht y hy]
    rfl
  have hchain : w.IsChain fun x y => (isBlank x == isBlank y) = true := by
    refine List.Pairwise.isChain (List.pairwise_of_forall_mem_list fun x hx y hy => ?_)
    rw [hw x hx, hw y hy]
    rfl
  have hkept : w.all (!isBlank ·) = true := by
    rw [List.all_eq_true]
    intro x hx
    rw [hw x hx]
    rfl
  rw [runs, List.splitBy_append hcut, List.splitBy_of_isChain hne hchain, List.singleton_append,
    List.filter_cons_of_pos (p := fun r : List Char => r.all (!isBlank ·)) hkept]
  rfl

/-- **The runs of a text** are what it starts with up to a blank, and the runs of the rest. -/
theorem runs_eq {s : List Char} (hne : s ≠ []) (hs : StartsSolid s) :
    runs s = s.takeWhile (!isBlank ·) :: runs (s.dropWhile (!isBlank ·)) := by
  have hsolid : ∀ c ∈ s.takeWhile (!isBlank ·), isBlank c = false := by
    intro c hc
    simpa using List.all_eq_true.1 List.all_takeWhile c hc
  have hfirst : s.takeWhile (!isBlank ·) ≠ [] := by
    obtain ⟨c, t, rfl⟩ := List.exists_cons_of_ne_nil hne
    rw [List.takeWhile_cons_of_pos (by simp [hs c rfl])]
    exact List.cons_ne_nil _ _
  have hrest : ∀ c ∈ (s.dropWhile (!isBlank ·)).head?, isBlank c = true := by
    intro c hc
    have hhead := List.head?_dropWhile_not (!isBlank ·) s
    rw [Option.mem_def.1 hc] at hhead
    simpa using hhead
  conv_lhs => rw [← List.takeWhile_append_dropWhile (p := (!isBlank ·)) (l := s)]
  exact runs_append_solid hfirst hsolid hrest

/-- **What the scanner of blanks finds**: what stands in front of the first blank, and the runs of the
rest. -/
theorem splitBlanks_eq {s : List Char} (hs : EndsSolid s) :
    splitBlanks s = s.takeWhile (!isBlank ·) :: runs (s.dropWhile (!isBlank ·)) := by
  induction s using splitBlanks.induct with
  | case1 => rw [splitBlanks]; rfl
  | case2 c s hblank ih =>
    have hrest := dropWhile_ne_nil hblank hs
    have hsuffix : s.dropWhile isBlank <:+ c :: s :=
      (List.dropWhile_suffix _).trans (List.suffix_cons _ _)
    have hruns : runs (c :: s) = runs (s.dropWhile isBlank) := by
      have hblanks : ∀ x ∈ c :: s.takeWhile isBlank, isBlank x = true := by
        intro x hx
        rcases List.mem_cons.1 hx with rfl | hx
        · exact hblank
        · exact List.all_eq_true.1 List.all_takeWhile x hx
      conv_lhs => rw [← List.takeWhile_append_dropWhile (p := isBlank) (l := s)]
      exact runs_append_blanks hblanks (startsSolid_dropWhile s)
    rw [splitBlanks, if_pos hblank, ih (hs.of_suffix hsuffix),
      ← runs_eq hrest (startsSolid_dropWhile s), List.takeWhile_cons_of_neg (by simp [hblank]),
      List.dropWhile_cons_of_neg (by simp [hblank]), hruns]
  | case3 c s hblank ih =>
    have hsolid : (!isBlank c) = true := by simpa using hblank
    rw [splitBlanks, if_neg hblank, ih (hs.of_suffix (List.suffix_cons _ _)),
      List.takeWhile_cons_of_pos (p := (!isBlank ·)) hsolid,
      List.dropWhile_cons_of_pos (p := (!isBlank ·)) hsolid]
    rfl

/-- **Cutting at blanks** gives the runs of the trimmed line. -/
theorem split_whitespace (line : List Char) : Delimiter.whitespace.split line =
    if trimmed line = [] then [[]] else runs (trimmed line) := by
  have hscan : Delimiter.whitespace.split line = splitBlanks (trimmed line) := rfl
  rw [hscan, splitBlanks_eq (endsSolid_trimmed line)]
  split
  · next hnil =>
    rw [hnil]
    rfl
  · next hne => rw [runs_eq hne (startsSolid_trimmed line)]

/-! ## Fields -/

/-- **A line is cut into its fields.** Between commas there is one field more than there are commas,
and none of them has a comma. -/
theorem split_eq_fields (line : List Char) :
    (∀ d : Delimiter, d.split line = d.fields (trimmed line)) ∧
    (Delimiter.comma.split line).length = line.count ',' + 1 ∧
    ∀ field ∈ Delimiter.comma.split line, ',' ∉ field := by
  refine ⟨fun d => ?_, ?_, fun field hfield => ?_⟩
  · cases d with
    | comma => exact split_comma line
    | whitespace => exact split_whitespace line
  · rw [split_comma, List.length_map, length_splitOn, count_trimmed (by decide)]
  · rw [split_comma] at hfield
    obtain ⟨p, hp, rfl⟩ := List.mem_map.1 hfield
    exact fun hcomma => notMem_of_mem_splitOn hp (mem_of_mem_stripBlanks hcomma)

/-- A blank inside a field stays, and nothing between two commas is a field. -/
example : Delimiter.comma.split "a \t, b c ,,d".toList =
    ["a".toList, "b c".toList, [], "d".toList] := by cbv

end TemplateShare.Delimiter
