import TemplateShare.Proofs.Portable.Reading

/-! # Documents that can be read back

A document that was written can be read back unless one of its texts has one of the last two code
points of the basic plane, which YAML refuses and the printer does not escape, or it has more than the
default dataset and a name that is too long for a YAML key.

* **`Portable.isRefused`** — the two characters.
* **`Portable.all_isAdmissible_quotedChar`**, **`Portable.all_isAdmissible_field`** — what the printer
  writes is admissible but for them.
* **`Portable.isReadable_iff`** — the documents that can be read back. -/

namespace TemplateShare.Portable

open Yaml Scanner

/-! ## Characters -/

/-- **The characters that YAML refuses and the printer does not escape**: the last two code points of
the basic plane. -/
def isRefused (c : Char) : Bool := c == '\uFFFE' || c == '\uFFFF'

/-- Whether a text has none of them. -/
def isClean (s : String) : Bool := s.toList.all (!isRefused ·)

/-- Equal characters have equal code points. -/
theorem eq_iff_toNat {c d : Char} : c = d ↔ c.toNat = d.toNat :=
  ⟨fun h => h ▸ rfl, fun h => Char.ext (UInt32.toNat_inj.1 h)⟩

/-- **Of the characters that need no escape**, YAML refuses exactly these. -/
theorem isAdmissible_of_not_needsEscape {c : Char} (h : needsEscape c = false) :
    isAdmissible c = !isRefused c := by
  have hvalid : c.toNat < 0xD800 ∨ 0xDFFF < c.toNat ∧ c.toNat < 0x110000 := c.valid
  have hplain : (0x20 ≤ c.toNat ∧ ¬(0x7F ≤ c.toNat ∧ c.toNat ≤ 0x9F)) ∨ c.toNat = 0x0A ∨
      c.toNat = 0x09 := by
    simp only [needsEscape, isControl, Bool.or_eq_false_iff, Bool.and_eq_false_iff,
      decide_eq_false_iff_not, bne_eq_false_iff_eq, beq_eq_false_iff_ne, eq_iff_toNat] at h
    have hfeed : '\n'.toNat = 0x0A := rfl
    have htab : '\t'.toNat = 0x09 := rfl
    omega
  have hrefused : isRefused c = true ↔ c.toNat = 0xFFFE ∨ c.toNat = 0xFFFF := by
    simp only [isRefused, Bool.or_eq_true, beq_iff_eq, eq_iff_toNat]
    exact Iff.rfl
  rw [Bool.eq_iff_iff, Bool.not_eq_true', ← Bool.not_eq_true, hrefused]
  simp only [isAdmissible, Bool.or_eq_true, Bool.and_eq_true, beq_iff_eq, decide_eq_true_eq]
  omega

/-- A character that needs an escape is not one of them. -/
theorem not_isRefused_of_needsEscape {c : Char} (h : needsEscape c = true) : isRefused c = false := by
  by_cases hc : isRefused c = true
  · simp only [isRefused, Bool.or_eq_true, beq_iff_eq] at hc
    rcases hc with rfl | rfl <;> cases h
  · simpa using hc

/-- The digits of an escape are admissible. -/
theorem all_isAdmissible_hex (width n : Nat) : (Hex.upper width n).all isAdmissible = true := by
  have hdigit : ∀ k < 16, isAdmissible (Hex.upperDigit k) = true := by decide
  induction width generalizing n with
  | zero => rfl
  | succ width ih =>
    rw [Hex.upper, List.all_append, ih, Bool.true_and, List.all_cons,
      hdigit _ (Nat.mod_lt n (by decide))]
    rfl

/-- **Between quotes, every character is admissible** but these. -/
theorem all_isAdmissible_quotedChar (c : Char) :
    (quotedChar c).all isAdmissible = !isRefused c := by
  obtain ⟨x, hx, hquoted, hletter⟩ | ⟨hescape, hquoted⟩ | ⟨hplain, -, hquoted⟩ :=
    quotedChar_cases c
  · rw [hquoted]
    simp only [List.mem_cons, List.not_mem_nil, or_false] at hx
    rcases hx with rfl | rfl | rfl | rfl | rfl <;>
    · obtain rfl := Option.some.inj hletter
      rfl
  · rw [hquoted, not_isRefused_of_needsEscape hescape]
    exact all_isAdmissible_hex 4 c.toNat
  · rw [hquoted, List.all_cons, List.all_nil, Bool.and_true, isAdmissible_of_not_needsEscape hplain]

/-! ## Texts -/

/-- White space at the end has no influence on what all white space has. -/
theorem all_dropSpaceEnd {p : Char → Bool} (hp : ∀ c, Text.isSpace c = true → p c = true)
    (s : List Char) : (Text.dropSpaceEnd s).all p = s.all p := by
  have hdrop (t : List Char) : (t.dropWhile Text.isSpace).all p = t.all p := by
    induction t with
    | nil => rfl
    | cons c t ih =>
      rw [List.dropWhile_cons]
      split
      · next hc => rw [ih, List.all_cons, hp c hc, Bool.true_and]
      · rfl
  rw [Text.dropSpaceEnd, List.all_reverse, hdrop, List.all_reverse]

/-- White space is none of the refused characters. -/
theorem not_isRefused_of_isSpace {c : Char} (h : Text.isSpace c = true) : (!isRefused c) = true := by
  by_cases hc : isRefused c = true
  · simp only [isRefused, Bool.or_eq_true, beq_iff_eq] at hc
    rcases hc with rfl | rfl <;> cases h
  · simpa using hc

/-- Lines of a block are admissible if and only if their text is. -/
theorem all_isAdmissible_hanging (indent : Nat) (ls : List (List Char)) :
    (hanging indent ls).all isAdmissible = (joined ls).all isAdmissible := by
  have hblanks : (List.replicate indent ' ').all isAdmissible = true := by
    rw [List.all_eq_true]
    intro x hx
    rw [(List.mem_replicate.1 hx).2]
    rfl
  have hbroken (ls : List (List Char)) :
      (hanging indent ls).all isAdmissible = (broken ls).all isAdmissible := by
    induction ls with
    | nil => rfl
    | cons l ls ih =>
      simp only [hanging_cons, broken_cons, List.all_append, List.all_cons, ih, hblanks,
        Bool.true_and]
  cases ls with
  | nil => rfl
  | cons l ls =>
    have hfeed : isAdmissible '\n' = true := rfl
    simp only [hanging_cons, joined, List.all_append, List.all_cons, hblanks, hfeed, hbroken,
      Bool.true_and]

/-- **A text is written with admissible characters** if and only if it has none of the refused
ones. -/
theorem all_isAdmissible_fieldValue (indent : Nat) (text : String) :
    (fieldValue indent text).chars.all isAdmissible = isClean text := by
  have hclean : (Text.dropSpaceEnd text.toList).all (!isRefused ·) = isClean text :=
    all_dropSpaceEnd (fun _ => not_isRefused_of_isSpace) text.toList
  unfold fieldValue
  dsimp only
  by_cases hempty : (Text.dropSpaceEnd text.toList).isEmpty = true
  · rw [if_pos hempty, ← hclean, List.isEmpty_iff.1 hempty]
    rfl
  rw [if_neg hempty, ← hclean]
  by_cases hescape : (Text.dropSpaceEnd text.toList).any needsEscape = true
  · rw [if_pos hescape]
    show (quoted _).all isAdmissible = _
    have hquote : isAdmissible '"' = true := rfl
    simp only [quoted, List.all_append, List.all_cons, List.all_nil, List.all_flatMap, hquote,
      all_isAdmissible_quotedChar, Bool.true_and, Bool.and_true]
  · rw [if_neg hescape]
    have hplain : (Text.dropSpaceEnd text.toList).any needsEscape = false := by simpa using hescape
    have hjoined := (areLines_charLines (by simpa using hempty) (getLast?_ne_break text) hplain).2
    have hbar : isAdmissible '|' = true := rfl
    have htwo : isAdmissible '2' = true := rfl
    show ('|' :: '2' :: hanging _ _).all isAdmissible = _
    rw [List.all_cons, List.all_cons, all_isAdmissible_hanging, hjoined, hbar, htwo, Bool.true_and,
      Bool.true_and]
    -- Nothing in such a text needs an escape.
    have hself : ∀ c ∈ Text.dropSpaceEnd text.toList, isAdmissible c = !isRefused c := fun c hc =>
      isAdmissible_of_not_needsEscape (by simpa using List.any_eq_false.1 hplain c hc)
    rw [Bool.eq_iff_iff, List.all_eq_true, List.all_eq_true]
    exact forall₂_congr fun c hc => by rw [hself c hc]

/-- The line of a text is admissible if and only if the text is. -/
theorem all_isAdmissible_field {key : List Char} (hkey : key.all isAdmissible = true) (indent : Nat)
    (text : String) : (field .plain key indent text).all isAdmissible = isClean text := by
  have hblanks : (blanks indent).all isAdmissible = true := by
    rw [List.all_eq_true]
    intro x hx
    rw [(List.mem_replicate.1 hx).2]
    rfl
  have hcolon : isAdmissible ':' = true := rfl
  have hblank : isAdmissible ' ' = true := rfl
  have hfeed : isAdmissible '\n' = true := rfl
  rw [field_eq]
  simp only [List.all_append, List.all_cons, List.all_nil, hblanks, hkey, hcolon, hblank, hfeed,
    all_isAdmissible_fieldValue, Bool.true_and, Bool.and_true]

/-! ## Documents -/

/-- **Documents whose texts have none of the refused characters.** -/
def HasCleanTexts (dt : DataTemplate) : Prop :=
  isClean dt.template = true ∧
    ∀ d ∈ dt.datasets, isClean d.buffers.data = true ∧ isClean d.buffers.vars = true

/-- **Documents whose names are short enough for YAML keys**, with their quotes. -/
def HasShortNames (dt : DataTemplate) : Prop := ∀ d ∈ dt.datasets, d.name.toList.length ≤ 1022

instance (dt : DataTemplate) : Decidable (HasCleanTexts dt) := by
  unfold HasCleanTexts
  infer_instance

instance (dt : DataTemplate) : Decidable (HasShortNames dt) := by
  unfold HasShortNames
  infer_instance

/-- The texts of a dataset are admissible if and only if they have none of the refused characters. -/
theorem all_isAdmissible_buffers (indent : Nat) (b : Buffers) :
    (buffers .plain indent b).all isAdmissible = (isClean b.data && isClean b.vars) := by
  have hdata : (field .plain "data".toList indent b.data).all isAdmissible = isClean b.data :=
    all_isAdmissible_field (by decide) indent b.data
  have hvars : (field .plain "vars".toList indent b.vars).all isAdmissible = isClean b.vars :=
    all_isAdmissible_field (by decide) indent b.vars
  have hfeed : isAdmissible '\n' = true := rfl
  simp only [buffers, List.all_append, List.all_cons, List.all_nil, hdata, hvars, hfeed,
    Bool.and_true]

/-- A valid name is admissible. -/
theorem all_isAdmissible_name {name : String} (h : Dataset.isValidName name = true) :
    name.toList.all isAdmissible = true := by
  rw [List.all_eq_true]
  intro x hx
  rcases mem_of_isValidName h x hx with h | rfl | rfl | rfl
  · exact IsNameChar.isAdmissible (.inl h)
  · rfl
  · rfl
  · rfl

/-- **A dataset is admissible** if and only if its texts have none of the refused characters. -/
theorem all_isAdmissible_dataset {d : Dataset} (h : Dataset.isValidName d.name = true) :
    (dataset .plain d).all isAdmissible = (isClean d.buffers.data && isClean d.buffers.vars) := by
  have hblanks : (blanks 4).all isAdmissible = true := by decide
  have hquote : isAdmissible '"' = true := rfl
  have hcolon : isAdmissible ':' = true := rfl
  have hfeed : isAdmissible '\n' = true := rfl
  simp only [dataset, List.all_append, List.all_cons, List.all_nil, hblanks, hquote, hcolon, hfeed,
    all_isAdmissible_name h, all_isAdmissible_buffers, Bool.true_and]

variable {dt : DataTemplate}

/-- **A document is admissible** if and only if its texts have none of the refused characters. -/
theorem all_isAdmissible_body (h : dt.registry.WellFormed) :
    (body .plain dt).all isAdmissible = true ↔ HasCleanTexts dt := by
  have hmarker : marker.toList.all isAdmissible = true := by decide
  have htemplate : (field .plain "template".toList 2 dt.template).all isAdmissible =
      isClean dt.template := all_isAdmissible_field (by decide) 2 dt.template
  have hvalid : ∀ d ∈ dt.datasets, Dataset.isValidName d.name = true := fun d hd =>
    h.1 d.name (List.mem_map_of_mem hd)
  have hdatasets : (if dt.isSingle then buffers .plain 2 dt.activeBuffers
      else "  datasets:\n".toList ++ dt.datasets.flatMap (dataset .plain)).all isAdmissible = true ↔
        ∀ d ∈ dt.datasets, isClean d.buffers.data = true ∧ isClean d.buffers.vars = true := by
    by_cases hsingle : dt.isSingle = true
    · rw [if_pos hsingle, all_isAdmissible_buffers, DataTemplate.datasets_of_isSingle hsingle,
        Bool.and_eq_true, List.forall_mem_singleton]
    · have hkey : "  datasets:\n".toList.all isAdmissible = true := by decide
      rw [if_neg hsingle, List.all_append, hkey, Bool.true_and, List.all_flatMap, List.all_eq_true]
      refine forall₂_congr fun d hd => ?_
      rw [all_isAdmissible_dataset (hvalid d hd), Bool.and_eq_true]
  rw [body, List.all_append, List.all_append, hmarker, Bool.true_and, htemplate, Bool.and_eq_true,
    hdatasets, HasCleanTexts]
  exact and_comm

/-- The keys of datasets are short if and only if their names are. -/
theorem datasetEntries_short (ds : List Dataset) :
    (datasetEntries ds).Short ↔ ∀ d ∈ ds, d.name.toList.length ≤ 1022 := by
  have hbuffers (b : Buffers) : (buffersEntries 6 b .nil).Short := by
    rw [buffersEntries, textEntry_short (by decide), textEntry_short (by decide), Entries.Short]
    trivial
  induction ds with
  | nil =>
    rw [datasetEntries, Entries.Short]
    exact iff_of_true trivial (List.forall_mem_nil _)
  | cons d ds ih =>
    have hlength : (nameKey d.name).chars.length = d.name.toList.length + 2 := by simp [nameKey]
    rw [datasetEntries, Entries.short_cons, Layout.Short, hlength, List.forall_mem_cons]
    constructor
    · rintro ⟨hd, _, hds⟩
      exact ⟨by omega, ih.1 hds⟩
    · rintro ⟨hd, hds⟩
      exact ⟨by omega, hbuffers _, ih.2 hds⟩

/-- **The keys of a document are short** if and only if its names are. -/
theorem templateEntries_short_iff : (templateEntries dt 0).Short ↔ HasShortNames dt := by
  by_cases hsingle : dt.isSingle = true
  · refine iff_of_true (templateEntries_short hsingle 0) ?_
    have hdefault : Dataset.defaultName.toList.length ≤ 1022 := by decide
    rw [HasShortNames, DataTemplate.datasets_of_isSingle hsingle, List.forall_mem_singleton]
    exact hdefault
  · have hlength : (Written.word "datasets").chars.length ≤ 1024 := by decide
    have htemplate : (textEntry "template" 2 dt.template 0 .nil).Short :=
      (textEntry_short (by decide) _ _ _ _).2 (by rw [Entries.Short]; trivial)
    rw [templateEntries, if_neg hsingle, Entries.short_cons, Layout.Short, datasetEntries_short]
    exact ⟨fun h => h.2.1, fun h => ⟨hlength, h, htemplate⟩⟩

/-- **The documents that can be read back**: no text has a refused character, and all names are short
enough for keys. -/
theorem isReadable_iff (h : dt.registry.WellFormed) :
    IsReadable dt ↔ HasCleanTexts dt ∧ HasShortNames dt := by
  rw [← all_isAdmissible_body h, ← templateEntries_short_iff]
  exact ⟨fun h => ⟨h.admissible, h.short⟩, fun h => ⟨h.1, h.2⟩⟩

end TemplateShare.Portable
