import TemplateShare.Proofs.Portable.RoundTrip

/-! # Portable documents tell contents apart

A document is written as its names and its texts without the white space at their ends, and nothing
that a text holds makes it look like another one. Each part that is written says by itself where it
ends: quotes close a text on one line, and a block goes on for as long as lines are indented.

* **`Portable.field_append_inj`**, **`Portable.datasets_append_inj`** — the parts of a document.
* **`Portable.body_append_inj`** — documents that are written alike have the same content.
* **`Portable.render_eq_iff`** — two documents have one portable form, and one checksum, if and only
  if they have the same content. -/

namespace TemplateShare

/-! ## Contents -/

/-- **The content up to white space**: the datasets in order and the template, all texts without the
white space at their ends. Which dataset is active is not part of it. -/
def DataTemplate.trimmedContent (dt : DataTemplate) : List Dataset × String :=
  (dt.datasets.map Dataset.trimEnd, Text.trimEnd dt.template)

/-- What comes back of a document depends on its content alone. -/
theorem DataTemplate.reloaded_eq {a b : DataTemplate} (h : a.trimmedContent = b.trimmedContent) :
    a.reloaded = b.reloaded := by
  obtain ⟨hdatasets, htemplate⟩ := Prod.mk.inj h
  obtain ⟨d, ds, ha⟩ := a.exists_datasets
  obtain ⟨e, es, hb⟩ := b.exists_datasets
  rw [ha, hb, List.map_cons, List.map_cons] at hdatasets
  obtain ⟨hfirst, hrest⟩ := List.cons.inj hdatasets
  rw [reloaded, reloaded, rewritten_eq ha, rewritten_eq hb, hfirst, hrest, htemplate]

/-- **A collision**: two texts with one hash. -/
def Sha256.Collide (s t : String) : Prop := s ≠ t ∧ Sha256.hex s = Sha256.hex t

namespace Portable

open Yaml Scanner

/-! ## Texts -/

/-- **What stands behind a text** does not start with a blank, so it is no line of a block. -/
def Outside (r : List Char) : Prop := r.head? ≠ some ' '

/-- An empty line stands behind a text. -/
theorem outside_break (r : List Char) : Outside ('\n' :: r) := by simp [Outside]

/-- The end of a document does. -/
theorem outside_nil : Outside [] := by simp [Outside]

/-- What stands in front of a character ends where that character is first met. -/
theorem append_cons_inj {c : Char} {s s' r r' : List Char} (hs : c ∉ s) (hs' : c ∉ s')
    (h : s ++ c :: r = s' ++ c :: r') : s = s' ∧ r = r' := by
  have htake {t u : List Char} (ht : c ∉ t) : (t ++ c :: u).takeWhile (· != c) = t := by
    rw [List.takeWhile_append_of_pos fun x hx => by simpa using ne_of_mem_of_not_mem hx ht,
      List.takeWhile_cons_of_neg (by simp), List.append_nil]
  obtain rfl : s = s' := by rw [← htake (u := r) hs, h, htake hs']
  exact ⟨rfl, (List.cons.inj (List.append_cancel_left h)).2⟩

/-- **Quotes close a text**: what is read up to the closing quote is the text. -/
theorem quoted_append_inj {s s' r r' : List Char} (h : quoted s ++ r = quoted s' ++ r') :
    s = s' ∧ r = r' := by
  let c : Cursor := { rest := quoted s ++ r }
  have hread (t u : List Char) (ht : c.rest = quoted t ++ u) :
      quotedScalar true c = .ok (t, c.advance ((t.flatMap quotedChar).length + 2)) :=
    @quotedScalar_spelled true quotedChar u (fun hdouble => nomatch hdouble) t rfl
      (fun _ _ hx => isSpelled_quotedChar hx) c (by simp [ht, quoted])
  -- One reader stands at one place, so both texts are what it reads.
  obtain rfl : s = s' :=
    congrArg Prod.fst (Except.ok.inj ((hread s r rfl).symm.trans (hread s' r' h)))
  exact ⟨rfl, List.append_cancel_left h⟩

/-- A line ends at its line feed. -/
theorem blockLine_append_inj {n : Nat} {l l' r r' : List Char} (hl : '\n' ∉ l) (hl' : '\n' ∉ l')
    (h : blockLine .plain n l ++ r = blockLine .plain n l' ++ r') : l = l' ∧ r = r' := by
  simp only [blockLine, Style.show_plain, List.append_assoc, List.append_cancel_left_eq,
    List.singleton_append] at h
  exact append_cons_inj hl hl' h

/-- A line of a block starts with a blank. -/
theorem not_outside_blockLine (n : Nat) (l r : List Char) :
    ¬Outside (blockLine .plain (n + 1) l ++ r) := by
  simp [Outside, blockLine, blanks, List.replicate_succ]

/-- **A block goes on for as long as lines are indented.** -/
theorem block_append_inj {n : Nat} {ls ls' : List (List Char)} {r r' : List Char}
    (hls : ∀ l ∈ ls, '\n' ∉ l) (hls' : ∀ l ∈ ls', '\n' ∉ l) (hr : Outside r) (hr' : Outside r')
    (h : ls.flatMap (blockLine .plain (n + 1)) ++ r =
      ls'.flatMap (blockLine .plain (n + 1)) ++ r') : ls = ls' ∧ r = r' := by
  induction ls generalizing ls' with
  | nil =>
    cases ls' with
    | nil => exact ⟨rfl, h⟩
    | cons l' ls' =>
      rw [List.flatMap_nil, List.nil_append, List.flatMap_cons, List.append_assoc] at h
      exact absurd (h ▸ hr) (not_outside_blockLine n l' _)
  | cons l ls ih =>
    cases ls' with
    | nil =>
      rw [List.flatMap_nil, List.nil_append, List.flatMap_cons, List.append_assoc] at h
      exact absurd (h ▸ hr') (not_outside_blockLine n l _)
    | cons l' ls' =>
      rw [List.flatMap_cons, List.flatMap_cons, List.append_assoc, List.append_assoc] at h
      obtain ⟨hline, hmore⟩ := blockLine_append_inj (hls l List.mem_cons_self)
        (hls' l' List.mem_cons_self) h
      obtain ⟨hlines, hrest⟩ := ih (fun x hx => hls x (List.mem_cons_of_mem l hx))
        (fun x hx => hls' x (List.mem_cons_of_mem l' hx)) hmore
      exact ⟨by rw [hline, hlines], hrest⟩

/-- **A text is told from what is written**, up to the white space at its end. -/
theorem field_append_inj {key : List Char} {indent : Nat} {a b : String} {r r' : List Char}
    (hr : Outside r) (hr' : Outside r')
    (h : field .plain key indent a ++ r = field .plain key indent b ++ r') :
    Text.trimEnd a = Text.trimEnd b ∧ r = r' := by
  have hbreak {ls : List (List Char)} (hlines : AreLines ls) : ∀ l ∈ ls, '\n' ∉ l :=
    fun l hl hmem => absurd (hlines.line l hl _ hmem) (by decide)
  rcases field_layout key indent a with ha | ⟨hlines, hjoined, ha⟩ <;>
    rcases field_layout key indent b with hb | ⟨hlines', hjoined', hb⟩ <;>
    rw [ha, hb] at h <;>
    simp only [List.append_assoc, List.append_cancel_left_eq] at h
  · obtain ⟨htext, hrest⟩ := quoted_append_inj h
    exact ⟨congrArg String.ofList htext, (List.cons.inj hrest).2⟩
  · exact absurd (List.cons.inj h).1 (by decide)
  · exact absurd (List.cons.inj h).1 (by decide)
  · simp only [List.cons_append, List.cons.injEq, true_and] at h
    obtain ⟨hsame, hrest⟩ := block_append_inj (hbreak hlines) (hbreak hlines') hr hr' h
    refine ⟨?_, hrest⟩
    rw [Text.trimEnd, Text.trimEnd, ← hjoined, ← hjoined', hsame]

/-! ## Datasets -/

/-- The data and variables of a dataset are told from what is written. -/
theorem buffers_append_inj {indent : Nat} {a b : Buffers} {r r' : List Char}
    (h : buffers .plain indent a ++ r = buffers .plain indent b ++ r') :
    Text.trimEnd a.data = Text.trimEnd b.data ∧ Text.trimEnd a.vars = Text.trimEnd b.vars ∧
      r = r' := by
  simp only [buffers, List.append_assoc, List.singleton_append] at h
  obtain ⟨hdata, hmore⟩ := field_append_inj (outside_break _) (outside_break _) h
  obtain ⟨hvars, hrest⟩ :=
    field_append_inj (outside_break _) (outside_break _) (List.cons.inj hmore).2
  exact ⟨hdata, hvars, (List.cons.inj hrest).2⟩

/-- A dataset is told from what is written; its name ends at the quote. -/
theorem dataset_append_inj {a b : Dataset} {r r' : List Char} (ha : '"' ∉ a.name.toList)
    (hb : '"' ∉ b.name.toList) (h : dataset .plain a ++ r = dataset .plain b ++ r') :
    a.trimEnd = b.trimEnd ∧ r = r' := by
  simp only [dataset, List.append_assoc, List.append_cancel_left_eq, List.cons_append,
    List.nil_append, List.cons.injEq, true_and] at h
  obtain ⟨hname, hmore⟩ := append_cons_inj ha hb h
  simp only [List.cons.injEq, true_and] at hmore
  obtain ⟨hdata, hvars, hrest⟩ := buffers_append_inj hmore
  refine ⟨?_, hrest⟩
  rw [Dataset.trimEnd, Dataset.trimEnd, String.toList_inj.1 hname, hdata, hvars]

/-- **Datasets are told from what is written**: they go on for as long as there is a quote in the
fifth column. -/
theorem datasets_append_inj {ds es : List Dataset} {r r' : List Char}
    (hds : ∀ d ∈ ds, '"' ∉ d.name.toList) (hes : ∀ d ∈ es, '"' ∉ d.name.toList)
    (hr : r[4]? ≠ some '"') (hr' : r'[4]? ≠ some '"')
    (h : ds.flatMap (dataset .plain) ++ r = es.flatMap (dataset .plain) ++ r') :
    ds.map Dataset.trimEnd = es.map Dataset.trimEnd ∧ r = r' := by
  have hquote (d : Dataset) (t : List Char) : (dataset .plain d ++ t)[4]? = some '"' := by
    simp [dataset, blanks, List.replicate]
  induction ds generalizing es with
  | nil =>
    cases es with
    | nil => exact ⟨rfl, h⟩
    | cons e es =>
      rw [List.flatMap_nil, List.nil_append, List.flatMap_cons, List.append_assoc] at h
      exact absurd (h ▸ hquote e _) hr
  | cons d ds ih =>
    cases es with
    | nil =>
      rw [List.flatMap_nil, List.nil_append, List.flatMap_cons, List.append_assoc] at h
      exact absurd (h ▸ hquote d _) hr'
    | cons e es =>
      rw [List.flatMap_cons, List.flatMap_cons, List.append_assoc, List.append_assoc] at h
      obtain ⟨hfirst, hmore⟩ := dataset_append_inj (hds d List.mem_cons_self)
        (hes e List.mem_cons_self) h
      obtain ⟨hall, hrest⟩ := ih (fun x hx => hds x (List.mem_cons_of_mem d hx))
        (fun x hx => hes x (List.mem_cons_of_mem e hx)) hmore
      exact ⟨by rw [List.map_cons, List.map_cons, hfirst, hall], hrest⟩

/-! ## Documents -/

/-- No valid name has a quote. -/
theorem quote_notMem_name {dt : DataTemplate} (h : dt.registry.WellFormed) :
    ∀ d ∈ dt.datasets, '"' ∉ d.name.toList := by
  intro d hd hmem
  rcases mem_of_isValidName (h.1 d.name (List.mem_map_of_mem hd)) _ hmem with h | h | h | h <;>
    exact absurd h (by decide)

/-- **Documents that are written alike have the same content**, also when something stands behind
them. -/
theorem body_append_inj {a b : DataTemplate} {r r' : List Char} (ha : a.registry.WellFormed)
    (hb : b.registry.WellFormed) (hr : Outside r) (hr' : Outside r')
    (h : body .plain a ++ r = body .plain b ++ r') : a.trimmedContent = b.trimmedContent := by
  have htemplate (dt : DataTemplate) (t : List Char) :
      (field .plain "template".toList 2 dt.template ++ t)[4]? ≠ some '"' := by
    rw [field_eq]
    simp [blanks, List.replicate]
  have hsame {x y : DataTemplate} {t t' : List Char} (ht : Outside t) (ht' : Outside t')
      (hdatasets : x.datasets.map Dataset.trimEnd = y.datasets.map Dataset.trimEnd)
      (hfield : field .plain "template".toList 2 x.template ++ t =
        field .plain "template".toList 2 y.template ++ t') : x.trimmedContent = y.trimmedContent :=
    Prod.ext hdatasets (field_append_inj ht ht' hfield).1
  -- The two forms differ where one has `data:` and the other `datasets:`.
  have hforms (b : Buffers) (r r' : List Char) :
      buffers .plain 2 b ++ r ≠ "  datasets:\n".toList ++ r' := by
    intro hforms
    have hcolumn := congrArg (·[6]?) hforms
    rw [buffers, field_eq] at hcolumn
    simp [blanks, List.replicate] at hcolumn
  simp only [body, List.append_assoc, List.append_cancel_left_eq] at h
  by_cases hsingle : a.isSingle = true <;> by_cases hsingle' : b.isSingle = true
  · rw [if_pos hsingle, if_pos hsingle'] at h
    obtain ⟨hdata, hvars, hfield⟩ := buffers_append_inj h
    refine hsame hr hr' ?_ hfield
    rw [DataTemplate.datasets_of_isSingle hsingle, DataTemplate.datasets_of_isSingle hsingle']
    simp only [List.map_cons, List.map_nil, Dataset.trimEnd, hdata, hvars]
  · rw [if_pos hsingle, if_neg hsingle', List.append_assoc] at h
    exact absurd h (hforms _ _ _)
  · rw [if_neg hsingle, if_pos hsingle', List.append_assoc] at h
    exact absurd h.symm (hforms _ _ _)
  · rw [if_neg hsingle, if_neg hsingle', List.append_assoc, List.append_assoc,
      List.append_cancel_left_eq] at h
    obtain ⟨hdatasets, hfield⟩ := datasets_append_inj (quote_notMem_name ha) (quote_notMem_name hb)
      (htemplate a r) (htemplate b r') h
    exact hsame hr hr' hdatasets hfield

/-- **A document is its content in its portable form.** Two documents with valid names are the same
text if and only if they have the same names in the same order and the same texts up to the white
space at their ends; which dataset is active makes no difference. So their checksums are the same if
and only if their contents are, unless the two texts collide. -/
theorem render_eq_iff {a b : DataTemplate} (ha : a.registry.WellFormed)
    (hb : b.registry.WellFormed) :
    (render .plain a = render .plain b ↔ a.trimmedContent = b.trimmedContent) ∧
      (¬Sha256.Collide (render .plain a) (render .plain b) →
        (a.checksum = b.checksum ↔ a.trimmedContent = b.trimmedContent)) := by
  have hrender : render .plain a = render .plain b ↔ a.trimmedContent = b.trimmedContent := by
    constructor
    · intro h
      have hbody := List.append_cancel_left (String.ofList_injective h)
      rw [← List.append_nil (body .plain a), ← List.append_nil (body .plain b)] at hbody
      exact body_append_inj ha hb outside_nil outside_nil hbody
    · intro h
      rw [← render_reloaded, DataTemplate.reloaded_eq h, render_reloaded]
  refine ⟨hrender, fun hcollide => ?_⟩
  rw [← hrender]
  constructor
  · intro h
    exact Decidable.byContradiction fun hne => hcollide ⟨hne, h⟩
  · intro h
    rw [DataTemplate.checksum, h, DataTemplate.checksum]

/-- The document with a block and a quoted text, with its first dataset active and more white space
at the ends of its texts. -/
def turnedDocument : DataTemplate where
  registry := .first ⟨"B", ⟨" h1,h2\n\n", "--- # no marker\n\n\tx"⟩⟩ [⟨"A", ⟨"\u2003\n", "\x07 "⟩⟩]
  template := "dt:\n  data: |2 \t"

/-- The same document, but its first data look like the text that stands behind them. -/
def imitatingDocument : DataTemplate where
  registry :=
    ⟨⟨[⟨"B", ⟨" h1,h2\n\n      vars: |2\n--- # no marker\n\n\tx", ""⟩⟩, ⟨"A", ⟨"", "\x07"⟩⟩], 1⟩,
      by decide⟩
  template := "dt:\n  data: |2"

/-- The documents of one content are one text with one checksum, and the imitation is another. -/
theorem render_eq_iff_turnedDocument : mixedDocument.registry.WellFormed ∧
    turnedDocument.registry.WellFormed ∧ imitatingDocument.registry.WellFormed ∧
    render .plain mixedDocument = render .plain turnedDocument ∧
    mixedDocument.checksum = turnedDocument.checksum ∧
    render .plain mixedDocument ≠ render .plain imitatingDocument := by
  have hmixed : mixedDocument.registry.WellFormed := by decide
  have hturned : turnedDocument.registry.WellFormed := by decide
  have himitating : imitatingDocument.registry.WellFormed := by decide
  have hcontent : mixedDocument.trimmedContent = turnedDocument.trimmedContent := by decide
  obtain ⟨hrender, hchecksum⟩ := render_eq_iff hmixed hturned
  have hsame := hrender.2 hcontent
  refine ⟨hmixed, hturned, himitating, hsame, (hchecksum fun h => h.1 hsame).2 hcontent, ?_⟩
  intro h
  exact absurd ((render_eq_iff hmixed himitating).1.1 h) (by decide)

end Portable

end TemplateShare
