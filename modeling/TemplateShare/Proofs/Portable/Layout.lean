import TemplateShare.Portable.Parser
import TemplateShare.Proofs.Text.Lines
import TemplateShare.Proofs.Yaml.Record

/-! # The layout of portable documents

The printed form of a document as a laid out mapping, so that the scanner's theory says what is read
back from it. A text loses the white space at its end and nothing else.

* **`Portable.fieldValue`** — how the printer writes a text, and what it reads as.
* **`Portable.entries`** — the entries of a document.
* **`Portable.body_chars`** — the printer writes those entries.
* **`Portable.entries_fits`** — they read as they are said to.
* **`Portable.IsReadable`** — documents that can be read back at all. -/

namespace TemplateShare

/-! ## Lines -/

namespace Text

open Yaml.Scanner in
/-- **A text is its lines** with line feeds between them. -/
theorem joined_splitLineFeeds (s : List Char) : joined (splitLineFeeds s) = s := by
  induction s with
  | nil => rfl
  | cons c s ih =>
    by_cases hc : c = '\n'
    · obtain ⟨l, ls, h⟩ := List.exists_cons_of_ne_nil (splitLineFeeds_ne_nil s)
      rw [hc, splitLineFeeds_break, h]
      rw [h] at ih
      show '\n' :: (l ++ broken ls) = _
      rw [← ih]
      rfl
    · obtain ⟨l, ls, h, h'⟩ := splitLineFeeds_cons hc s
      rw [h]  at ih
      rw [h', ← ih]
      rfl

end Text

namespace Portable

open Yaml Scanner

/-! ## Texts -/

/-- **How a text is written** under a key at a column, and what it reads as: without the white space
at its end, and as a block with a line feed behind it. -/
def fieldValue (indent : Nat) (text : String) : Written :=
  let s := Text.dropSpaceEnd text.toList
  if s.isEmpty then ⟨['"', '"'], .doubleQuoted, []⟩
  else if s.any needsEscape then ⟨quoted s, .doubleQuoted, s⟩
  else ⟨'|' :: '2' :: hanging (indent + 2) (Text.charLines s), .literal, s ++ ['\n']⟩

/-- Characters that need no escape are no line breaks but line feeds. -/
theorem not_isBreak {c : Char} (h : needsEscape c = false) (hc : c ≠ '\n') : isBreak c = false := by
  by_cases hbreak : isBreak c = true
  · simp only [isBreak, Bool.or_eq_true, beq_iff_eq] at hbreak
    rcases hbreak with (((rfl | rfl) | rfl) | rfl) | rfl
    · exact absurd rfl hc
    all_goals exact absurd h (by decide)
  · simpa using hbreak

/-- **The ways to write a character between quotes**: as a letter behind a backslash, as its code, or
as it is. -/
theorem quotedChar_cases (c : Char) :
    (∃ x ∈ ['"', '\\', 'n', 'r', 't'], quotedChar c = ['\\', x] ∧ escapeLetter? x = some c) ∨
      (needsEscape c = true ∧ quotedChar c = '\\' :: 'u' :: Hex.upper 4 c.toNat) ∨
      (needsEscape c = false ∧ c ∉ ['"', '\\', '\n', '\t'] ∧ quotedChar c = [c]) := by
  unfold quotedChar
  by_cases h₁ : c = '"'
  · exact .inl ⟨'"', by decide, if_pos h₁, by rw [h₁]; rfl⟩
  by_cases h₂ : c = '\\'
  · exact .inl ⟨'\\', by decide, by rw [if_neg h₁, if_pos h₂], by rw [h₂]; rfl⟩
  by_cases h₃ : c = '\n'
  · exact .inl ⟨'n', by decide, by rw [if_neg h₁, if_neg h₂, if_pos h₃], by rw [h₃]; rfl⟩
  by_cases h₄ : c = '\r'
  · exact .inl ⟨'r', by decide, by rw [if_neg h₁, if_neg h₂, if_neg h₃, if_pos h₄], by rw [h₄]; rfl⟩
  by_cases h₅ : c = '\t'
  · exact .inl ⟨'t', by decide, by rw [if_neg h₁, if_neg h₂, if_neg h₃, if_neg h₄, if_pos h₅],
      by rw [h₅]; rfl⟩
  rw [if_neg h₁, if_neg h₂, if_neg h₃, if_neg h₄, if_neg h₅]
  right
  by_cases hescape : needsEscape c = true
  · exact .inl ⟨hescape, if_pos (by rw [hescape, Bool.or_true])⟩
  · -- What is left of the control characters needs an escape.
    have hcontrol : isControl c = false := by
      rw [needsEscape] at hescape
      simp_all
    rw [Bool.not_eq_true] at hescape
    refine .inr ⟨hescape, by simp [h₁, h₂, h₃, h₅], if_neg ?_⟩
    rw [hcontrol, hescape]
    exact Bool.false_ne_true

/-- **Every character between quotes is read back.** -/
theorem isSpelled_quotedChar {c : Char} (hc : c ≠ ' ') : IsSpelled true (quotedChar c) c := by
  obtain ⟨x, hx, hquoted, hletter⟩ | ⟨hescape, hquoted⟩ | ⟨hplain, hspecial, hquoted⟩ :=
    quotedChar_cases c
  · have hbreak : ∀ x ∈ ['"', '\\', 'n', 'r', 't'], isBreak x = false := by decide
    rw [hquoted]
    exact isSpelled_letter hletter (hbreak x hx)
  · rw [hquoted]
    refine isSpelled_hex ?_
    simp only [needsEscape, isControl, Bool.or_eq_true, Bool.and_eq_true, decide_eq_true_eq,
      beq_iff_eq] at hescape
    rcases hescape with ((⟨⟨h | h, -⟩, -⟩ | rfl) | rfl) | rfl <;> first | omega | decide
  · simp only [List.mem_cons, List.not_mem_nil, or_false, not_or] at hspecial
    obtain ⟨hquote, hbackslash, hbreak, htab⟩ := hspecial
    rw [hquoted]
    refine isSpelled_self ?_ hquote fun _ => hbackslash
    rw [isSpacing, isBlank, not_isBreak hplain hbreak]
    simp [hc, htab]

/-- The lines of a text that a block can carry are lines of a block. -/
theorem areLines_charLines {s : List Char} (hne : s ≠ []) (hlast : s.getLast? ≠ some '\n')
    (h : s.any needsEscape = false) :
    AreLines (Text.charLines s) ∧ joined (Text.charLines s) = s := by
  have hescape : ∀ x ∈ s, needsEscape x = false := by simpa using h
  have hreturn : '\r' ∉ s := fun hmem => absurd (hescape _ hmem) (by decide)
  rw [Text.charLines_eq hne hlast hreturn]
  refine ⟨⟨fun l hl x hx => ?_, ?_⟩, Text.joined_splitLineFeeds s⟩
  · obtain ⟨hmem, hbreak⟩ := Text.mem_splitLineFeeds hl hx
    exact not_isBreak (hescape x hmem) hbreak
  · have hpieces := Text.splitLineFeeds_ne_nil s
    refine ⟨_, List.getLast?_eq_some_getLast hpieces, fun hempty => ?_⟩
    rcases Text.getLast?_splitLineFeeds
      (by rw [List.getLast?_eq_some_getLast hpieces, hempty]) with hnil | hbreak
    · exact hne hnil
    · exact hlast hbreak

/-- A text has no line feed at its end when its white space there is gone. -/
theorem getLast?_ne_break (text : String) :
    (Text.dropSpaceEnd text.toList).getLast? ≠ some '\n' := by
  intro h
  have := Text.getLast?_dropSpaceEnd h
  exact absurd this (by decide)

/-- **A text is read as it is said to.** -/
theorem isValue_fieldValue (indent : Nat) (text : String) :
    IsValue indent (fieldValue indent text).chars (fieldValue indent text).style
      (fieldValue indent text).text := by
  unfold fieldValue
  dsimp only
  -- The printer has three ways: nothing between quotes, quotes with escapes, or a block.
  by_cases hempty : (Text.dropSpaceEnd text.toList).isEmpty = true
  · rw [if_pos hempty]
    exact isValue_doubleQuoted (show quotedChar ' ' = [' '] from rfl)
      (show ∀ x ∈ ([] : List Char), _ from fun x hx => nomatch hx) indent
  rw [if_neg hempty]
  by_cases hescape : (Text.dropSpaceEnd text.toList).any needsEscape = true
  · rw [if_pos hescape]
    exact isValue_doubleQuoted rfl (fun x _ hx => isSpelled_quotedChar hx) indent
  · rw [if_neg hescape]
    have hne : Text.dropSpaceEnd text.toList ≠ [] := by simpa using hempty
    obtain ⟨hlines, hjoined⟩ :=
      areLines_charLines hne (getLast?_ne_break text) (by simpa using hescape)
    obtain ⟨l, ls, h⟩ : ∃ l ls, Text.charLines (Text.dropSpaceEnd text.toList) = l :: ls := by
      obtain ⟨l, hl, -⟩ := hlines.last
      exact List.exists_cons_of_ne_nil fun hnil => by rw [hnil] at hl; cases hl
    rw [h] at hlines hjoined ⊢
    have hvalue := isValue_literal hlines indent
    rw [hjoined] at hvalue
    exact hvalue

/-- A text is never written plainly. -/
theorem style_fieldValue (indent : Nat) (text : String) :
    (fieldValue indent text).style ≠ .plain := by
  unfold fieldValue
  dsimp only
  split
  · exact fun h => nomatch h
  · split <;> exact fun h => nomatch h

/-- **A text is read back** without the white space at its end. -/
theorem unclip_fieldValue (indent : Nat) (text : String) :
    unclip (some (String.ofList (fieldValue indent text).text)) = Text.trimEnd text := by
  have hlast := getLast?_ne_break text
  unfold unclip fieldValue Text.trimEnd
  dsimp only
  split
  · next h =>
    rw [List.isEmpty_iff.1 h]
    rfl
  · split
    · rw [String.toList_ofList, if_neg hlast]
    · rw [String.toList_ofList, List.getLast?_concat, if_pos rfl, List.dropLast_concat]

/-- The printer writes a text that way. -/
theorem field_eq (key : List Char) (indent : Nat) (text : String) :
    field .plain key indent text =
      blanks indent ++ (key ++ ':' :: (' ' :: (fieldValue indent text).chars ++ ['\n'])) := by
  unfold field fieldValue
  dsimp only
  split
  · simp
  · split
    · simp
    · have hlines (ls : List (List Char)) :
          '\n' :: ls.flatMap (blockLine .plain (indent + 2)) = hanging (indent + 2) ls ++ ['\n'] := by
        induction ls with
        | nil => rfl
        | cons l ls ih =>
          rw [List.flatMap_cons, hanging_cons, List.append_assoc, ← ih]
          simp [blockLine, blanks]
      have h := hlines (Text.charLines (Text.dropSpaceEnd text.toList))
      simp only [List.append_assoc, List.cons_append, List.nil_append, h]

/-- **The two layouts of a text**: between quotes, as an empty text is as well, or as a block of
lines that make up the text. -/
theorem field_layout (key : List Char) (indent : Nat) (text : String) :
    let s := Text.dropSpaceEnd text.toList
    let lead := blanks indent ++ key ++ [':', ' ']
    field .plain key indent text = lead ++ (quoted s ++ ['\n']) ∨
      (AreLines (Text.charLines s) ∧ joined (Text.charLines s) = s ∧
        field .plain key indent text = lead ++ ('|' :: '2' :: '\n' ::
          (Text.charLines s).flatMap (blockLine .plain (indent + 2)))) := by
  intro s lead
  unfold field
  dsimp only
  by_cases hempty : s.isEmpty = true
  · left
    have hs : s = [] := List.isEmpty_iff.1 hempty
    rw [if_pos hempty, hs]
    rfl
  by_cases hescape : s.any needsEscape = true
  · left
    rw [if_neg hempty, if_pos hescape, Style.show_plain, List.append_assoc]
  · right
    have hne : s ≠ [] := by simpa using hempty
    obtain ⟨hlines, hjoined⟩ :=
      areLines_charLines hne (getLast?_ne_break text) (by simpa using hescape)
    refine ⟨hlines, hjoined, ?_⟩
    rw [if_neg hempty, if_neg hescape, List.append_assoc]
    rfl

/-! ## Entries -/

/-- The entry of a text, in front of more entries. -/
def textEntry (key : String) (indent : Nat) (text : String) (emptyLines : Nat) (more : Entries) :
    Entries :=
  .cons (.word key) (.scalar (fieldValue indent text)) emptyLines more

/-- The entries of the data and variables of a dataset, in front of more entries. -/
def buffersEntries (indent : Nat) (b : Buffers) (more : Entries) : Entries :=
  textEntry "data" indent b.data 1 (textEntry "vars" indent b.vars 1 more)

/-- The name of a dataset as it is written. -/
def nameKey (name : String) : Written := ⟨'"' :: (name.toList ++ ['"']), .doubleQuoted, name.toList⟩

/-- The entries of datasets. -/
def datasetEntries : List Dataset → Entries
  | [] => .nil
  | d :: ds => .cons (nameKey d.name) (.block 6 (buffersEntries 6 d.buffers .nil)) 0 (datasetEntries ds)

/-- **The entries of a document** with empty lines behind it. -/
def templateEntries (dt : DataTemplate) (emptyLines : Nat) : Entries :=
  let template := textEntry "template" 2 dt.template emptyLines .nil
  if dt.isSingle then buffersEntries 2 dt.activeBuffers template
  else .cons (.word "datasets") (.block 4 (datasetEntries dt.datasets)) 0 template

/-- **The entry of a document**, in front of more entries. -/
def entries (dt : DataTemplate) (emptyLines : Nat) (more : Entries) : Entries :=
  .cons (.word "dt") (.block 2 (templateEntries dt emptyLines)) 0 more

/-! ## The printer writes entries -/

/-- Without entries nothing is written. -/
theorem nil_chars (column : Nat) (r : List Char) :
    '\n' :: r = Entries.nil.chars column ++ '\n' :: r := by
  rw [Entries.chars]
  rfl

/-- A text of the printer is an entry. -/
theorem field_chars (key : String) (indent : Nat) (text : String) (emptyLines : Nat) {more : Entries}
    {r t : List Char} (h : '\n' :: r = more.chars indent ++ t) :
    '\n' :: (field .plain key.toList indent text ++ (List.replicate emptyLines '\n' ++ r)) =
      (textEntry key indent text emptyLines more).chars indent ++ t := by
  have hbreaks := replicate_append_cons emptyLines '\n' r
  rw [field_eq, textEntry, Entries.chars, Layout.chars]
  simp only [List.append_assoc, List.cons_append, List.nil_append, blanks, Written.word]
  rw [← h, hbreaks]

/-- The data and variables of the printer are entries. -/
theorem buffers_chars (indent : Nat) (b : Buffers) {more : Entries} {r t : List Char}
    (h : '\n' :: r = more.chars indent ++ t) :
    '\n' :: (buffers .plain indent b ++ r) = (buffersEntries indent b more).chars indent ++ t := by
  have hvars := field_chars "vars" indent b.vars 1 h
  have hdata := field_chars "data" indent b.data 1 hvars
  rw [buffersEntries, ← hdata]
  simp [buffers]

/-- The datasets of the printer are entries. -/
theorem datasets_chars (ds : List Dataset) (r : List Char) :
    '\n' :: (ds.flatMap (dataset .plain) ++ r) = (datasetEntries ds).chars 4 ++ '\n' :: r := by
  induction ds with
  | nil =>
    rw [datasetEntries, Entries.chars]
    rfl
  | cons d ds ih =>
    have hbuffers := buffers_chars 6 d.buffers (nil_chars 6 (ds.flatMap (dataset .plain) ++ r))
    rw [datasetEntries, Entries.chars, Layout.chars]
    simp only [List.append_assoc, List.cons_append, List.replicate_zero, List.nil_append]
    rw [← ih, ← hbuffers]
    simp [dataset, nameKey, blanks]

/-- **The printer writes the entry of the document.** -/
theorem body_chars (dt : DataTemplate) (emptyLines : Nat) {more : Entries} {r t : List Char}
    (h : '\n' :: r = more.chars 0 ++ t) :
    body .plain dt ++ (List.replicate emptyLines '\n' ++ r) =
      startLine ++ ((entries dt emptyLines more).chars 0 ++ t) := by
  have htemplate := field_chars "template" 2 dt.template emptyLines (nil_chars 2 r)
  -- The part below `dt` is the same text in both forms, up to where the datasets stand.
  have hinner : '\n' :: ((if dt.isSingle then buffers .plain 2 dt.activeBuffers
      else "  datasets:\n".toList ++ dt.datasets.flatMap (dataset .plain)) ++
        (field .plain "template".toList 2 dt.template ++ (List.replicate emptyLines '\n' ++ r))) =
      (templateEntries dt emptyLines).chars 2 ++ '\n' :: r := by
    unfold templateEntries
    by_cases hsingle : dt.isSingle = true
    · rw [if_pos hsingle, if_pos hsingle]
      exact buffers_chars 2 dt.activeBuffers htemplate
    · rw [if_neg hsingle, if_neg hsingle, Entries.chars, Layout.chars]
      have hdatasets := datasets_chars dt.datasets
        (field .plain "template".toList 2 dt.template ++ (List.replicate emptyLines '\n' ++ r))
      simp only [List.append_assoc, List.replicate_zero, List.nil_append, List.cons_append]
      rw [← htemplate, ← hdatasets]
      rfl
  rw [entries, Entries.chars, Layout.chars]
  simp only [List.append_assoc, List.cons_append, List.replicate_zero, List.nil_append]
  rw [← h, ← hinner]
  simp only [body, List.append_assoc]
  rfl

/-! ## Entries read as they are said to -/

/-- The entry of a text reads as it is said to. -/
theorem textEntry_fits {key : String} (hne : key.toList ≠ []) (h : ∀ x ∈ key.toList, IsNameChar x)
    (indent : Nat) (text : String) (emptyLines : Nat) {more : Entries} (hmore : more.Fits indent) :
    (textEntry key indent text emptyLines more).Fits indent := by
  rw [textEntry, Entries.Fits, Layout.Fits]
  exact ⟨isKey_name hne h indent, isValue_fieldValue indent text, hmore⟩

/-- The data and variables read as they are said to. -/
theorem buffersEntries_fits (indent : Nat) (b : Buffers) {more : Entries}
    (hmore : more.Fits indent) : (buffersEntries indent b more).Fits indent :=
  textEntry_fits (by decide) (by decide) indent b.data 1
    (textEntry_fits (by decide) (by decide) indent b.vars 1 hmore)

/-- The characters of a valid name. -/
theorem mem_of_isValidName {name : String} (h : Dataset.isValidName name = true) :
    ∀ x ∈ name.toList, x.isAlphanum = true ∨ x = '_' ∨ x = ' ' ∨ x = '-' := by
  intro x hx
  unfold Dataset.isValidName at h
  cases hs : name.toList with
  | nil =>
    rw [hs] at hx
    cases hx
  | cons c cs =>
    rw [hs] at h hx
    simp only [Bool.and_eq_true, List.all_eq_true, Bool.or_eq_true, beq_iff_eq] at h
    rcases List.mem_cons.1 hx with rfl | hx
    · left
      rw [Char.isAlphanum, h.1, Bool.true_or]
    · rcases h.2 x hx with ((h | h) | h) | h
      · exact .inl h
      · exact .inr (.inl h)
      · exact .inr (.inr (.inl h))
      · exact .inr (.inr (.inr h))

/-- **A valid name is a key** in its quotes. -/
theorem isKey_nameKey {name : String} (h : Dataset.isValidName name = true) (column : Nat) :
    IsKey column (nameKey name).chars (nameKey name).style (nameKey name).text := by
  have hchars := mem_of_isValidName h
  have hself : ∀ x ∈ name.toList, x ≠ ' ' → IsSpelled true [x] x := by
    intro x hx hblank
    have hname : IsNameChar x ∨ x = '-' := by
      rcases hchars x hx with h | h | h | h
      · exact .inl (.inl h)
      · exact .inl (.inr h)
      · exact absurd h hblank
      · exact .inr h
    rcases hname with hname | rfl
    · exact hname.isSpelled true
    · exact isSpelled_self rfl (by decide) fun _ => by decide
  have hkey := isKey_quoted (show (fun c : Char => [c]) ' ' = [' '] from rfl) hself column
  rwa [List.flatMap_singleton'] at hkey

/-- Datasets with valid names read as they are said to. -/
theorem datasetEntries_fits {ds : List Dataset} (h : ∀ d ∈ ds, Dataset.isValidName d.name = true) :
    (datasetEntries ds).Fits 4 := by
  induction ds with
  | nil =>
    rw [datasetEntries, Entries.Fits]
    trivial
  | cons d ds ih =>
    rw [datasetEntries, Entries.Fits, Layout.Fits]
    refine ⟨isKey_nameKey (h d List.mem_cons_self) 4, ⟨by decide, fun hnil => (nomatch hnil), ?_⟩,
      ih fun x hx => h x (List.mem_cons_of_mem d hx)⟩
    exact buffersEntries_fits 6 d.buffers (by rw [Entries.Fits]; trivial)

/-- **A document with valid names reads as it is said to.** -/
theorem entries_fits {dt : DataTemplate} (h : dt.registry.WellFormed) (emptyLines : Nat)
    {more : Entries} (hmore : more.Fits 0) : (entries dt emptyLines more).Fits 0 := by
  have hnames : ∀ d ∈ dt.datasets, Dataset.isValidName d.name = true := fun d hd =>
    h.1 d.name (List.mem_map_of_mem hd)
  have htemplate : (textEntry "template" 2 dt.template emptyLines .nil).Fits 2 :=
    textEntry_fits (by decide) (by decide) 2 dt.template emptyLines (by rw [Entries.Fits]; trivial)
  have hinner : templateEntries dt emptyLines ≠ .nil ∧ (templateEntries dt emptyLines).Fits 2 := by
    unfold templateEntries
    by_cases hsingle : dt.isSingle = true
    · rw [if_pos hsingle]
      exact ⟨fun hnil => (nomatch hnil), buffersEntries_fits 2 dt.activeBuffers htemplate⟩
    · rw [if_neg hsingle]
      refine ⟨fun hnil => (nomatch hnil), ?_⟩
      rw [Entries.Fits, Layout.Fits]
      refine ⟨isKey_name (by decide) (by decide) 2, ⟨by decide, fun hnil => ?_,
        datasetEntries_fits hnames⟩, htemplate⟩
      obtain ⟨d, ds, hds⟩ := List.exists_cons_of_ne_nil dt.registry.datasets_ne_nil
      rw [DataTemplate.datasets, hds] at hnil
      cases hnil
  rw [entries, Entries.Fits, Layout.Fits]
  exact ⟨isKey_name (by decide) (by decide) 0, ⟨by decide, hinner⟩, hmore⟩

/-! ## Readable documents -/

/-- **Documents that can be read back**: YAML admits all characters of their texts, and no name is
too long for a key. -/
structure IsReadable (dt : DataTemplate) : Prop where
  admissible : (body .plain dt).all isAdmissible = true
  short : (templateEntries dt 0).Short

/-- The entry of a text has a short key. -/
theorem textEntry_short {key : String} (h : key.toList.length ≤ 1024) (indent : Nat) (text : String)
    (emptyLines : Nat) (more : Entries) :
    (textEntry key indent text emptyLines more).Short ↔ more.Short := by
  rw [textEntry, Entries.short_cons, Layout.Short]
  exact ⟨fun h' => h'.2.2, fun h' => ⟨h, trivial, h'⟩⟩

/-- **A document of the short form has only short keys.** -/
theorem templateEntries_short {dt : DataTemplate} (h : dt.isSingle = true) (emptyLines : Nat) :
    (templateEntries dt emptyLines).Short := by
  rw [templateEntries, if_pos h, buffersEntries, textEntry_short (by decide),
    textEntry_short (by decide), textEntry_short (by decide), Entries.Short]
  trivial

/-- **The keys of a document are short** if and only if its names are, whatever follows it. -/
theorem entries_short (dt : DataTemplate) (emptyLines : Nat) (more : Entries) :
    (entries dt emptyLines more).Short ↔ (templateEntries dt 0).Short ∧ more.Short := by
  have hlength : (Written.word "dt").chars.length ≤ 1024 := by decide
  have htemplate (n : Nat) : (textEntry "template" 2 dt.template n .nil).Short :=
    (textEntry_short (by decide) _ _ _ _).2 (by rw [Entries.Short]; trivial)
  have hsame : (templateEntries dt emptyLines).Short ↔ (templateEntries dt 0).Short := by
    by_cases hsingle : dt.isSingle = true
    · exact iff_of_true (templateEntries_short hsingle _) (templateEntries_short hsingle _)
    · simp only [templateEntries, if_neg hsingle, Entries.short_cons, htemplate]
  rw [entries, Entries.short_cons, Layout.Short, hsame]
  exact ⟨fun h => h.2, fun h => ⟨hlength, h⟩⟩

end Portable

end TemplateShare
