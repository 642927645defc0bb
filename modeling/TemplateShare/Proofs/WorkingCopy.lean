import TemplateShare.Proofs.WorkingCopy.Link

/-! # Reading working copies back

What is read from a working copy that has been written: the document, without the white space at the
ends of its texts, and what the file remembers of the copy in the store.

* **`WorkingCopy.Sound`**, **`WorkingCopy.Legible`** — working copies with links that a store gives, and
  with links that can be written.
* **`WorkingCopy.render_eq`** — the text of a working copy as a laid out document.
* **`WorkingCopy.parse_template_render`**, **`WorkingCopy.parse_render`** — what is read back, whenever
  anything is. -/

namespace TemplateShare

open Yaml Scanner

/-- A text is found in a text that it stands in. -/
theorem hasInfix_append (a p b : List Char) : Text.hasInfix p (a ++ (p ++ b)) = true := by
  have hprefix : p.isPrefixOf (p ++ b) = true := List.isPrefixOf_iff_prefix.2 (List.prefix_append p b)
  induction a with
  | nil =>
    rw [List.nil_append]
    cases hs : p ++ b with
    | nil =>
      obtain ⟨rfl, -⟩ := List.append_eq_nil_iff.1 hs
      rfl
    | cons c s => rw [Text.hasInfix, ← hs, hprefix, Bool.true_or]
  | cons c a ih => rw [List.cons_append, Text.hasInfix, ih, Bool.or_true]

namespace WorkingCopy

/-! ## Working copies that can be written -/

/-- **A working copy of a well-formed document**, with a hash for its checksum. -/
structure Sound (c : WorkingCopy) : Prop where
  template : c.template.registry.WellFormed
  record : ∀ r ∈ c.record, r.Sound
  synced : ∀ s ∈ c.synced, IsHashText s

/-- **A working copy of a well-formed document whose link can be written.** -/
structure Legible (c : WorkingCopy) : Prop where
  template : c.template.registry.WellFormed
  record : ∀ r ∈ c.record, r.Legible
  synced : ∀ s ∈ c.synced, Scalar.ReadsBack s

/-- The link of a working copy that a store gives can be written. -/
theorem Sound.legible {c : WorkingCopy} (h : c.Sound) : c.Legible where
  template := h.template
  record r hr := (h.record r hr).legible
  synced s hs := (h.synced s hs).readsBack

/-- The checksum of a session that is taken over is that of its document, or the one before. -/
theorem mem_synced_updateFrom {c : WorkingCopy} {s : Session} {t : String}
    (h : t ∈ (c.updateFrom s).synced) : t ∈ c.synced ∨ t = s.snapshot.checksum := by
  unfold updateFrom at h
  dsimp only at h
  split at h
  · cases h
  · split at h
    · exact .inl h
    · exact .inr (Option.some.inj h).symm

/-- A working copy without a link can be written. -/
theorem legible_of_wellFormed {dt : DataTemplate} (h : dt.registry.WellFormed) :
    ({ template := dt } : WorkingCopy).Legible :=
  ⟨h, fun _ hr => (nomatch hr), fun _ hs => (nomatch hs)⟩

/-! ## The layout of a working copy -/

/-- **The entries of a working copy.** The link is written only with a checksum. -/
def entries (c : WorkingCopy) : Entries :=
  match c.record, c.synced with
  | some r, some s =>
    Portable.entries c.template 1 (.cons (.word "link") (.block 2 (linkEntries r s)) 0 .nil)
  | _, _ => Portable.entries c.template 0 .nil

/-- **What a reader makes of the link** of a working copy, if it can be read. -/
def rereadLink (c : WorkingCopy) : Option (Option (SyncRecord × String)) :=
  match c.record, c.synced with
  | some r, some s => (rereadTime r.updated).map fun t => some ({ r with updated := t }, s)
  | _, _ => some none

variable {c : WorkingCopy}

/-- **A working copy is written in one of two forms**, without a link and with one, and its text, its
entries and what is read of the link are of the same form. -/
theorem written_cases (c : WorkingCopy) :
    (c.render = Portable.render .plain c.template ∧ c.entries = Portable.entries c.template 0 .nil ∧
      c.rereadLink = some none) ∨
    ∃ r ∈ c.record, ∃ s ∈ c.synced,
      c.render = Portable.render .plain c.template ++ "\n" ++ linkBlock r s ∧
      c.entries = Portable.entries c.template 1
        (.cons (.word "link") (.block 2 (linkEntries r s)) 0 .nil) ∧
      c.rereadLink = (rereadTime r.updated).map fun t => some ({ r with updated := t }, s) := by
  obtain ⟨dt, record, synced⟩ := c
  cases record with
  | none => exact .inl ⟨rfl, rfl, rfl⟩
  | some r =>
    cases synced with
    | none => exact .inl ⟨rfl, rfl, rfl⟩
    | some s => exact .inr ⟨r, rfl, s, rfl, rfl, rfl, rfl⟩

/-- **The text of a working copy is a laid out document.** -/
theorem render_eq (h : c.Legible) : c.render.toList = c.entries.document Portable.header.toList := by
  obtain ⟨hrender, hentries, -⟩ | ⟨r, hr, s, hs, hrender, hentries, -⟩ := c.written_cases
  · have hbody := Portable.body_chars c.template 0 (Portable.nil_chars 0 [])
    rw [hrender, hentries, Entries.document, Portable.render, String.toList_ofList]
    rw [List.replicate_zero, List.nil_append, List.append_nil] at hbody
    rw [hbody]
  · have hbody := Portable.body_chars c.template 1 (linkBlock_chars (h.record r hr) (h.synced s hs))
    rw [hrender, hentries]
    show (Portable.render .plain c.template ++ "\n" ++ linkBlock r s).toList =
      Portable.header.toList ++ (startLine ++ ((Portable.entries c.template 1 _).chars 0 ++ ['\n']))
    rw [← hbody, Portable.render, String.toList_append, String.toList_append,
      String.toList_ofList, List.append_assoc, List.append_assoc]
    rfl

/-- **The entries of a working copy read as they are said to.** -/
theorem entries_fits (h : c.Legible) : c.entries.Fits 0 := by
  obtain ⟨-, hentries, -⟩ | ⟨r, hr, s, hs, -, hentries, -⟩ := c.written_cases
  · rw [hentries]
    exact Portable.entries_fits h.template 0 (by rw [Entries.Fits]; trivial)
  · rw [hentries]
    refine Portable.entries_fits h.template 1 ?_
    rw [Entries.Fits, Layout.Fits, Entries.Fits]
    refine ⟨isKey_name (by decide) (by decide) 0, ⟨by decide, fun hnil => (nomatch hnil), ?_⟩,
      trivial⟩
    exact linkEntries_fits (h.record r hr) (h.synced s hs)

/-- **A working copy has only admissible characters** if its document has no others. -/
theorem all_isAdmissible_render (h : c.Legible) :
    c.render.toList.all isAdmissible = (Portable.body .plain c.template).all isAdmissible := by
  have hheader : Portable.header.toList.all isAdmissible = true := by decide
  have hbreak : "\n".toList.all isAdmissible = true := by decide
  have hbare : (Portable.render .plain c.template).toList.all isAdmissible =
      (Portable.body .plain c.template).all isAdmissible := by
    rw [Portable.render, String.toList_ofList, List.all_append, hheader, Bool.true_and]
  obtain ⟨hrender, -, -⟩ | ⟨r, hr, s, hs, hrender, -, -⟩ := c.written_cases
  · rw [hrender, hbare]
  · have hlink := all_isAdmissible_linkBlock (h.record r hr) (h.synced s hs)
    rw [hrender, String.toList_append, String.toList_append, List.all_append, List.all_append, hbare,
      hbreak, hlink, Bool.and_true, Bool.and_true]

/-- **The keys of a working copy are short** if those of its document are. -/
theorem entries_short (c : WorkingCopy) :
    c.entries.Short ↔ (Portable.templateEntries c.template 0).Short := by
  obtain ⟨-, hentries, -⟩ | ⟨r, -, s, -, -, hentries, -⟩ := c.written_cases
  · rw [hentries]
    exact (Portable.entries_short c.template 0 .nil).trans (and_iff_left (by rw [Entries.Short]; trivial))
  · rw [hentries]
    refine (Portable.entries_short c.template 1 _).trans (and_iff_left ?_)
    rw [Entries.short_cons, Layout.Short, Entries.Short]
    exact ⟨by decide, linkEntries_short r s, trivial⟩

/-! ## Reading it back -/

/-- **What a reader makes of a link** is the link, up to its time. -/
theorem rereadLink_eq_some {link : SyncRecord × String} (h : c.rereadLink = some (some link)) :
    ∃ r t, c.record = some r ∧ c.synced = some link.2 ∧ link.1 = { r with updated := t } := by
  obtain ⟨-, -, hreread⟩ | ⟨r, hr, s, hs, -, -, hreread⟩ := c.written_cases
  · cases hreread.symm.trans h
  · obtain ⟨t, -, heq⟩ := Option.map_eq_some_iff.1 (hreread.symm.trans h)
    obtain rfl := Option.some.inj heq
    exact ⟨r, t, hr, hs, rfl⟩

/-- **A working copy has the lines that every portable document has.** -/
theorem looksLike_render (c : WorkingCopy) : Portable.looksLike c.render = true := by
  have hbare (dt : DataTemplate) (more : List Char) : ∃ rest,
      (Portable.render .plain dt).toList ++ more =
        Portable.header.toList ++ (Portable.marker.toList ++ rest) :=
    ⟨_, by rw [Portable.render, String.toList_ofList, Portable.body, List.append_assoc,
      List.append_assoc, List.append_assoc]⟩
  have hrest : ∃ rest, c.render.toList =
      Portable.header.toList ++ (Portable.marker.toList ++ rest) := by
    obtain ⟨hrender, -, -⟩ | ⟨r, -, s, -, hrender, -, -⟩ := c.written_cases
    · rw [hrender, ← List.append_nil (String.toList _)]
      exact hbare _ _
    · rw [hrender, String.toList_append, String.toList_append, List.append_assoc]
      exact hbare _ _
  obtain ⟨rest, hrest⟩ := hrest
  rw [Portable.looksLike, Text.contains, hrest]
  exact hasInfix_append _ _ _

/-- What is in front of a working copy is skipped. -/
theorem isOpening_header : IsOpening Portable.header.toList :=
  .inr ⟨" dtlink DataTemplate".toList, by decide, rfl⟩

/-- A working copy has entries. -/
theorem entries_ne_nil (c : WorkingCopy) : c.entries ≠ .nil := by
  obtain ⟨-, hentries, -⟩ | ⟨r, -, s, -, -, hentries, -⟩ := c.written_cases <;>
    exact fun hnil => (nomatch hentries.symm.trans hnil)

/-- The document of a working copy is among its fields. -/
theorem field_entries (c : WorkingCopy) : ∃ n, field c.entries.fields "dt" =
    .ok (Layout.block 2 (Portable.templateEntries c.template n)).node := by
  obtain ⟨-, hentries, -⟩ | ⟨r, -, s, -, -, hentries, -⟩ := c.written_cases <;>
    exact ⟨_, by simp [hentries, Portable.entries, field, field?, bind, Except.bind]; rfl⟩

/-- The link of a working copy is read. -/
theorem optionalField_entries (d : Document) (h : c.Legible) :
    d.optionalField c.entries.fields "link" (readLink d) =
      match c.rereadLink with
      | some link => .ok link
      | none => .error .shape := by
  obtain ⟨-, hentries, hreread⟩ | ⟨r, hr, s, -, -, hentries, hreread⟩ := c.written_cases
  · simp [hentries, hreread, Portable.entries, Document.optionalField, field?, bind, Except.bind]
  · have hlink := readLink_linkEntries d (h.record r hr) s
    simp only [hentries, hreread, Portable.entries, Document.optionalField, Entries.fields_word,
      Entries.fields_nil, field?, bind, Except.bind, List.filter, String.reduceBEq,
      d.optional_block, hlink]
    cases rereadTime r.updated <;> rfl

/-- **A working copy is a YAML document** if and only if its document can be read back. -/
theorem exists_document_iff (h : c.Legible) :
    (∃ d, Document.parse c.render.toList = .ok d) ↔ Portable.IsReadable c.template := by
  have hdocument := Entries.parse_document isOpening_header c.entries_ne_nil (entries_fits h)
  rw [← render_eq h] at hdocument
  have hreadable : (c.render.toList.all isAdmissible = true ∧ c.entries.Short) ↔
      Portable.IsReadable c.template := by
    rw [all_isAdmissible_render h, entries_short]
    exact ⟨fun h => ⟨h.1, h.2⟩, fun h => ⟨h.1, h.2⟩⟩
  rw [← hreadable]
  exact ⟨fun ⟨d, hd⟩ => ((hdocument d).1 hd).1, fun h => ⟨_, (hdocument _).2 ⟨h, rfl⟩⟩⟩

/-- The YAML document has the entries of the working copy. -/
theorem entries_of_document (h : c.Legible) {d : Document}
    (hd : Document.parse c.render.toList = .ok d) : d.entries d.root = .ok c.entries.fields := by
  have hdocument := Entries.parse_document isOpening_header c.entries_ne_nil (entries_fits h)
  rw [← render_eq h] at hdocument
  rw [((hdocument d).1 hd).2]
  exact Document.entries_node _ 0 _

/-- **The document of a working copy is read back**, without the white space at the ends of its texts,
whether there is a link behind it or not. -/
theorem parse_template_render (h : c.Legible) (x : DataTemplate) :
    Portable.parse c.render = .ok x ↔ Portable.IsReadable c.template ∧ x = c.template.reloaded := by
  rw [Portable.parse, if_pos c.looksLike_render, ← exists_document_iff h]
  cases hd : Document.parse c.render.toList with
  | error e =>
    constructor
    · intro hx
      cases hx
    · rintro ⟨⟨d, hd⟩, _⟩
      cases hd
  | ok d =>
    -- A reader of the document does not look at the link behind it.
    obtain ⟨n, hfield⟩ := c.field_entries
    simp only [bind, Except.bind, entries_of_document h hd, hfield,
      Portable.read_templateEntries d h.template n, Portable.ofYaml,
      Portable.toTemplate_writtenFields h.template]
    constructor
    · intro hx
      exact ⟨⟨d, rfl⟩, (Except.ok.inj hx).symm⟩
    · rintro ⟨-, rfl⟩
      rfl

/-- **What a reader takes from a working copy**: the document, without the white space at the ends of
its texts, and the link. There is nothing to read where one of them cannot be read back. -/
theorem parse_render (h : c.Legible) (x : WorkingCopy) :
    parse c.render = .ok x ↔
      Portable.IsReadable c.template ∧ ∃ link, c.rereadLink = some link ∧
        x = ⟨c.template.reloaded, link.map (·.1), link.map (·.2)⟩ := by
  have hlink {d : Document} (hd : Document.parse c.render.toList = .ok d) :
      (do d.optionalField (← d.entries d.root) "link" (readLink d) : Except Yaml.Error _) =
        match c.rereadLink with
        | some link => .ok link
        | none => .error .shape := by
    simp only [bind, Except.bind, entries_of_document h hd, optionalField_entries d h]
  -- The text is read twice: for the document, and for the link.
  constructor
  · intro hparse
    obtain ⟨dt, hdt, hparse⟩ := Except.bind_eq_ok.1 hparse
    obtain ⟨hreadable, rfl⟩ := (parse_template_render h dt).1 hdt
    obtain ⟨link, hread, hparse⟩ := Except.bind_eq_ok.1 hparse
    obtain ⟨d, hd⟩ := (exists_document_iff h).2 hreadable
    rw [hd] at hread
    change Portable.ofYaml (do d.optionalField (← d.entries d.root) "link" (readLink d)) = _ at hread
    rw [hlink hd] at hread
    refine ⟨hreadable, link, ?_, (Except.ok.inj hparse).symm⟩
    cases hreread : c.rereadLink with
    | none =>
      rw [hreread] at hread
      cases hread
    | some link' =>
      rw [hreread] at hread
      exact congrArg some (Except.ok.inj hread)
  · rintro ⟨hreadable, link, hreread, rfl⟩
    obtain ⟨d, hd⟩ := (exists_document_iff h).2 hreadable
    have htemplate := (parse_template_render h _).2 ⟨hreadable, rfl⟩
    refine Except.bind_eq_ok.2 ⟨_, htemplate, Except.bind_eq_ok.2 ⟨link, ?_, rfl⟩⟩
    rw [hd]
    show Portable.ofYaml (do d.optionalField (← d.entries d.root) "link" (readLink d)) = _
    rw [hlink hd, hreread]
    rfl

/-- **What a reader takes from a document without a link**. -/
theorem parse_render_unlinked {dt : DataTemplate} (h : dt.registry.WellFormed) (x : WorkingCopy) :
    parse (Portable.render .plain dt) = .ok x ↔
      Portable.IsReadable dt ∧ x = { template := dt.reloaded } := by
  refine (parse_render (legible_of_wellFormed h) x).trans (and_congr_right fun _ => ?_)
  constructor
  · rintro ⟨link, hlink, rfl⟩
    obtain rfl := Option.some.inj hlink
    rfl
  · rintro rfl
    exact ⟨none, rfl, rfl⟩

end WorkingCopy

end TemplateShare
