import TemplateShare.Proofs.Portable.Layout

/-! # Portable documents on a page

The HTML style shows a document with its markup characters as entities. A reader of entities, which
goes through the text once from left to right, gets the plain style back; on the page nothing is
markup, and the only quotes are those that the layout itself puts around names and empty texts.

* **`Portable.readEntities`** — the reader of entities.
* **`Portable.Shown`** — a text on a page: each character as it is or as its entity.
* **`Portable.shown_body`**, **`Portable.hasQuotes_body`** — a document on a page, and its quotes.
* **`Portable.render_html`** — the HTML style is the plain style, escaped. -/

namespace TemplateShare

namespace Portable

/-! ## Entities -/

/-- The characters that have an entity. -/
def markup : List Char := ['&', '<', '>', '"', '\'']

/-- The character whose entity stands in front of a text. -/
def entityAt? (s : List Char) : Option Char := markup.find? fun c => (entity c).isPrefixOf s

/-- A text with its entities replaced, of which the first characters belong to an entity that has
been replaced. -/
def readFrom : Nat → List Char → List Char
  | _, [] => []
  | skip + 1, _ :: s => readFrom skip s
  | 0, c :: s =>
    match entityAt? (c :: s) with
    | some x => x :: readFrom ((entity x).length - 1) s
    | none => c :: readFrom 0 s

/-- **A text with its entities replaced** by their characters, in one pass from left to right. -/
def readEntities (s : List Char) : List Char := readFrom 0 s

/-- What belongs to an entity is passed over. -/
theorem readFrom_append (e s : List Char) : readFrom e.length (e ++ s) = readEntities s := by
  induction e with
  | nil => rfl
  | cons c e ih => exact ih

/-- Other characters have no entity. -/
theorem entity_of_notMem {c : Char} (hc : c ∉ markup) : entity c = [c] := by
  unfold entity
  split
  case h_6 => rfl
  all_goals exact absurd (by decide) hc

/-- An entity has its only ampersand in front. -/
theorem entity_eq {c : Char} (hc : c ∈ markup) : ∃ e, entity c = '&' :: e ∧ '&' ∉ e := by
  have hall : ∀ c ∈ markup, entity c = '&' :: (entity c).tail ∧ '&' ∉ (entity c).tail := by decide
  exact ⟨_, hall c hc⟩

/-- An entity is replaced. -/
theorem readEntities_entity {c : Char} (hc : c ∈ markup) (s : List Char) :
    readEntities (entity c ++ s) = c :: readEntities s := by
  have hfound : entityAt? (entity c ++ s) = some c := by
    simp only [markup, List.mem_cons, List.not_mem_nil, or_false] at hc
    rcases hc with rfl | rfl | rfl | rfl | rfl <;> rfl
  obtain ⟨e, he, -⟩ := entity_eq hc
  rw [he] at hfound ⊢
  rw [List.cons_append] at hfound ⊢
  rw [readEntities, readFrom, hfound]
  dsimp only
  rw [he, List.length_cons, Nat.add_sub_cancel, readFrom_append]

/-- Everything else stays. -/
theorem readEntities_cons {c : Char} (hc : c ≠ '&') (s : List Char) :
    readEntities (c :: s) = c :: readEntities s := by
  have hnone : entityAt? (c :: s) = none := by
    rw [entityAt?, List.find?_eq_none]
    intro x hx
    obtain ⟨e, he, -⟩ := entity_eq hx
    rw [he]
    simp [hc.symm]
  rw [readEntities, readFrom, hnone]
  rfl

/-- What has been replaced is not looked at again. -/
example : readEntities "&amp;lt; &lt &quot;".toList = "&lt; &lt \"".toList := by decide

/-! ## Texts on a page -/

/-- An end of two texts that starts with a character which the first does not have is an end of the
second. -/
theorem suffix_of_notMem {c : Char} {e t u : List Char} (hc : c ∉ e) (h : c :: u <:+ e ++ t) :
    c :: u <:+ t := by
  induction e with
  | nil => exact h
  | cons x e ih =>
    rw [List.cons_append] at h
    rcases List.suffix_cons_iff.1 h with heq | h
    · exact absurd (by rw [(List.cons.inj heq).1]; exact List.mem_cons_self) hc
    · exact ih (fun hmem => hc (List.mem_cons_of_mem x hmem)) h

/-- **A text as a page shows it**: each of its characters stands there as it is or as its entity.
Quotes may stand as they are, the other markup characters may not. -/
inductive Shown : List Char → List Char → Prop where
  | nil : Shown [] []
  | char {c : Char} {t s : List Char} (hc : c ∉ ['&', '<', '>', '\'']) (h : Shown t s) :
      Shown (c :: t) (c :: s)
  | entity {c : Char} {t s : List Char} (hc : c ∈ markup) (h : Shown t s) :
      Shown (entity c ++ t) (c :: s)

namespace Shown

variable {t t' s s' : List Char}

/-- Texts are shown one behind the other. -/
theorem append (h : Shown t s) (h' : Shown t' s') : Shown (t ++ t') (s ++ s') := by
  induction h with
  | nil => exact h'
  | char hc _ ih => exact ih.char hc
  | entity hc _ ih =>
    rw [List.append_assoc]
    exact ih.entity hc

/-- Several texts are shown one behind the other. -/
theorem flatMap {α : Type} {f g : α → List Char} {xs : List α} (h : ∀ x ∈ xs, Shown (f x) (g x)) :
    Shown (xs.flatMap f) (xs.flatMap g) := by
  induction xs with
  | nil => exact .nil
  | cons x xs ih =>
    rw [List.flatMap_cons, List.flatMap_cons]
    exact (h x List.mem_cons_self).append (ih fun y hy => h y (List.mem_cons_of_mem x hy))

/-- A text without markup is shown as it is. -/
theorem self (h : ∀ c ∈ s, c ∉ ['&', '<', '>', '\'']) : Shown s s := by
  induction s with
  | nil => exact .nil
  | cons c s ih =>
    exact (ih fun x hx => h x (List.mem_cons_of_mem c hx)).char (h c List.mem_cons_self)

/-- **The entities of a page are read back** as the text. -/
theorem readEntities_eq (h : Shown t s) : readEntities t = s := by
  induction h with
  | nil => rfl
  | char hc _ ih =>
    rw [readEntities_cons (fun hamp => hc (by simp [hamp])), ih]
  | entity hc _ ih => rw [readEntities_entity hc, ih]

/-- **Nothing on a page is a tag** or ends a value in apostrophes. -/
theorem not_markup (h : Shown t s) : ∀ x ∈ t, x ∉ ['<', '>', '\''] := by
  induction h with
  | nil => exact fun _ hx => nomatch hx
  | char hc _ ih =>
    intro x hx
    rcases List.mem_cons.1 hx with rfl | hx
    · exact fun hmem => hc (List.mem_cons_of_mem '&' hmem)
    · exact ih x hx
  | entity hc _ ih =>
    have hentity : ∀ c ∈ markup, ∀ x ∈ Portable.entity c, x ∉ ['<', '>', '\''] := by decide
    intro x hx
    rcases List.mem_append.1 hx with hx | hx
    · exact hentity _ hc x hx
    · exact ih x hx

/-- **Every ampersand on a page starts an entity.** -/
theorem exists_entity (h : Shown t s) {u : List Char} (hu : '&' :: u <:+ t) :
    ∃ c ∈ markup, Portable.entity c <+: '&' :: u := by
  induction h with
  | nil => exact absurd (List.suffix_nil.1 hu) (List.cons_ne_nil _ _)
  | char hc _ ih =>
    rcases List.suffix_cons_iff.1 hu with heq | hu
    · exact absurd (by rw [← (List.cons.inj heq).1]; exact List.mem_cons_self) hc
    · exact ih hu
  | @entity c t s hc _ ih =>
    obtain ⟨e, he, hnone⟩ := entity_eq hc
    rw [he, List.cons_append] at hu
    rcases List.suffix_cons_iff.1 hu with heq | hu
    · exact ⟨c, hc, by rw [heq, he]; exact List.prefix_append _ _⟩
    · exact ih (suffix_of_notMem hnone hu)

end Shown

/-! ## Documents on a page -/

/-- Escaped text is shown. -/
theorem shown_escapeMarkup (s : List Char) : Shown (escapeMarkup s) s := by
  induction s with
  | nil => exact .nil
  | cons c s ih =>
    rw [escapeMarkup, List.flatMap_cons]
    by_cases hc : c ∈ markup
    · exact ih.entity hc
    · rw [entity_of_notMem hc]
      exact ih.char fun hmem => hc (by simp_all [markup])

/-- **A text under its key is shown** in the layout of the plain style. -/
theorem shown_field (key : List Char) (hkey : ∀ c ∈ key, c ∉ ['&', '<', '>', '\'']) (indent : Nat)
    (text : String) : Shown (field .html key indent text) (field .plain key indent text) := by
  have hblanks (n : Nat) : ∀ c ∈ blanks n, c ∉ ['&', '<', '>', '\''] := by
    intro c hc
    rw [List.eq_of_mem_replicate hc]
    decide
  have hlead : Shown (blanks indent ++ key ++ [':', ' ']) (blanks indent ++ key ++ [':', ' ']) :=
    ((Shown.self (hblanks indent)).append (.self hkey)).append (.self (by decide))
  have hline (l : List Char) :
      Shown (blockLine .html (indent + 2) l) (blockLine .plain (indent + 2) l) :=
    ((Shown.self (hblanks _)).append (shown_escapeMarkup l)).append (.self (by decide))
  unfold field
  dsimp only
  split
  · exact hlead.append (.self (by decide))
  · split
    · exact (hlead.append (shown_escapeMarkup _)).append (.self (by decide))
    · exact (hlead.append (.self (by decide))).append (.flatMap fun l _ => hline l)

/-- The data and variables of a dataset are shown. -/
theorem shown_buffers (indent : Nat) (b : Buffers) :
    Shown (buffers .html indent b) (buffers .plain indent b) :=
  (((shown_field _ (by decide) indent b.data).append (.self (by decide))).append
    (shown_field _ (by decide) indent b.vars)).append (.self (by decide))

/-- A dataset with a valid name is shown. -/
theorem shown_dataset {d : Dataset} (h : Dataset.isValidName d.name = true) :
    Shown (dataset .html d) (dataset .plain d) := by
  refine (Shown.self fun c hc => ?_).append (shown_buffers 6 d.buffers)
  simp only [blanks, List.mem_append, List.mem_replicate, List.mem_cons, List.not_mem_nil,
    or_false] at hc
  rcases hc with ((⟨-, rfl⟩ | rfl) | hname) | rfl | rfl | rfl
  · decide
  · decide
  · rcases mem_of_isValidName h c hname with hc | rfl | rfl | rfl
    · intro hmem
      simp only [List.mem_cons, List.not_mem_nil, or_false] at hmem
      rcases hmem with rfl | rfl | rfl | rfl <;> exact absurd hc (by decide)
    all_goals decide
  all_goals decide

/-- **A document is shown.** -/
theorem shown_body {dt : DataTemplate} (h : dt.registry.WellFormed) :
    Shown (body .html dt) (body .plain dt) := by
  have htemplate := shown_field "template".toList (by decide) 2 dt.template
  unfold body
  dsimp only
  split
  · exact ((Shown.self (by decide)).append (shown_buffers 2 dt.activeBuffers)).append htemplate
  · refine ((Shown.self (by decide)).append ?_).append htemplate
    exact (Shown.self (by decide)).append
      (.flatMap fun d hd => shown_dataset (h.1 d.name (List.mem_map_of_mem hd)))

/-! ## Quotes -/

/-- The lines with a quote in them. -/
def quoteLines (s : List Char) : List (List Char) :=
  (Text.splitLineFeeds s).filter fun l => '"' ∈ l

/-- A line feed parts lines. -/
theorem quoteLines_break (s t : List Char) :
    quoteLines (s ++ '\n' :: t) = quoteLines s ++ quoteLines t := by
  rw [quoteLines, Text.splitLineFeeds_append_break, List.filter_append]
  rfl

/-- **Whole lines**, of which those with a quote are known, whatever follows. -/
def HasQuotes (s : List Char) (ls : List (List Char)) : Prop :=
  ∀ t, quoteLines (s ++ t) = ls ++ quoteLines t

namespace HasQuotes

variable {s s' : List Char} {ls ls' : List (List Char)}

/-- Nothing has no quotes. -/
theorem nil : HasQuotes [] [] := fun _ => rfl

/-- Lines follow one another. -/
theorem append (h : HasQuotes s ls) (h' : HasQuotes s' ls') :
    HasQuotes (s ++ s') (ls ++ ls') := by
  intro t
  rw [List.append_assoc, h, h', List.append_assoc]

/-- Several pieces follow one another. -/
theorem flatMap {α : Type} {f : α → List Char} {g : α → List (List Char)} {xs : List α}
    (h : ∀ x ∈ xs, HasQuotes (f x) (g x)) : HasQuotes (xs.flatMap f) (xs.flatMap g) := by
  induction xs with
  | nil => exact .nil
  | cons x xs ih =>
    rw [List.flatMap_cons, List.flatMap_cons]
    exact (h x List.mem_cons_self).append (ih fun y hy => h y (List.mem_cons_of_mem x hy))

/-- Lines without a quote. -/
theorem quiet (h : '"' ∉ s) : HasQuotes (s ++ ['\n']) [] := by
  have hnone : quoteLines s = [] := by
    rw [quoteLines, List.filter_eq_nil_iff]
    intro l hl hquote
    exact h (Text.mem_splitLineFeeds hl (of_decide_eq_true hquote)).1
  intro t
  rw [List.append_assoc, List.singleton_append, quoteLines_break, hnone]

/-- A line with a quote. -/
theorem line {l : List Char} (h : '"' ∈ l) (hbreak : '\n' ∉ l) : HasQuotes (l ++ ['\n']) [l] := by
  intro t
  rw [List.append_assoc, List.singleton_append, quoteLines_break, quoteLines,
    Text.splitLineFeeds_of_notMem hbreak]
  simp [h]

end HasQuotes

/-- Escaped text has no quotes. -/
theorem quote_notMem_escapeMarkup (s : List Char) : '"' ∉ escapeMarkup s := by
  rw [escapeMarkup, List.mem_flatMap]
  rintro ⟨c, -, hc⟩
  unfold entity at hc
  split at hc
  case h_6 hquote _ => exact hquote (List.mem_singleton.1 hc).symm
  all_goals exact absurd hc (by decide)

/-- **The line of an empty text** under its key. -/
def emptyLine (key : List Char) (indent : Nat) (text : String) : List (List Char) :=
  if Text.trimEnd text = "" then [blanks indent ++ key ++ [':', ' ', '"', '"']] else []

/-- The lines of the empty texts among the data and variables of a dataset. -/
def emptyLines (indent : Nat) (b : Buffers) : List (List Char) :=
  emptyLine "data".toList indent b.data ++ emptyLine "vars".toList indent b.vars

/-- The line of the name of a dataset. -/
def nameLine (d : Dataset) : List Char := blanks 4 ++ '"' :: d.name.toList ++ ['"', ':']

/-- **The lines with quotes of a document on a page**, in order: the names of the datasets and the
empty texts. -/
def layoutQuotes (dt : DataTemplate) : List (List Char) :=
  (if dt.isSingle then emptyLines 2 dt.activeBuffers
    else dt.datasets.flatMap fun d => nameLine d :: emptyLines 6 d.buffers) ++
  emptyLine "template".toList 2 dt.template

/-- **A text under its key has quotes only if it is empty.** -/
theorem hasQuotes_field (key : List Char) (hquote : '"' ∉ key) (hbreak : '\n' ∉ key)
    (indent : Nat) (text : String) :
    HasQuotes (field .html key indent text) (emptyLine key indent text) := by
  have hempty : (Text.dropSpaceEnd text.toList).isEmpty = true ↔ Text.trimEnd text = "" := by
    rw [List.isEmpty_iff, Text.trimEnd, ← String.toList_inj, String.toList_ofList]
    rfl
  have hblanks (n : Nat) {c : Char} (hc : c ≠ ' ') : c ∉ blanks n :=
    fun hmem => hc (List.eq_of_mem_replicate hmem)
  have hlead : '"' ∉ blanks indent ++ key ++ [':', ' '] := by
    simp [hquote, hblanks indent (show '"' ≠ ' ' by decide)]
  have hline (l : List Char) : HasQuotes (blockLine .html (indent + 2) l) [] := by
    refine HasQuotes.quiet ?_
    rw [List.mem_append, not_or]
    exact ⟨hblanks _ (by decide), quote_notMem_escapeMarkup l⟩
  unfold field emptyLine
  dsimp only
  -- Quotes are written for an empty text only; in a word or a block they are escaped.
  by_cases htext : Text.trimEnd text = ""
  · rw [if_pos (hempty.2 htext), if_pos htext]
    have hwhole := HasQuotes.line (l := blanks indent ++ key ++ [':', ' ', '"', '"']) (by simp)
      (by simp [hbreak, hblanks indent (show '\n' ≠ ' ' by decide)])
    simpa using hwhole
  · rw [if_neg (mt hempty.1 htext), if_neg htext]
    split
    · refine HasQuotes.quiet ?_
      rw [List.mem_append, not_or]
      exact ⟨hlead, quote_notMem_escapeMarkup _⟩
    · have hheader : HasQuotes (blanks indent ++ key ++ [':', ' '] ++ ['|', '2', '\n']) [] := by
        have hwhole := HasQuotes.quiet (s := blanks indent ++ key ++ [':', ' '] ++ ['|', '2'])
          (by rw [List.mem_append, not_or]; exact ⟨hlead, by decide⟩)
        simpa using hwhole
      have hblock := HasQuotes.flatMap
        fun l (_ : l ∈ Text.charLines (Text.dropSpaceEnd text.toList)) => hline l
      rw [List.flatMap_eq_nil_iff.2 fun _ _ => rfl] at hblock
      exact hheader.append hblock

/-- The data and variables of a dataset have quotes only where they are empty. -/
theorem hasQuotes_buffers (indent : Nat) (b : Buffers) :
    HasQuotes (buffers .html indent b) (emptyLines indent b) := by
  have hbreak : HasQuotes ['\n'] [] := HasQuotes.quiet (s := []) (by simp)
  have hdata := hasQuotes_field "data".toList (by decide) (by decide) indent b.data
  have hvars := hasQuotes_field "vars".toList (by decide) (by decide) indent b.vars
  have hboth := (hdata.append hbreak).append (hvars.append hbreak)
  simpa [buffers, emptyLines] using hboth

/-- A dataset with a valid name has quotes around it. -/
theorem hasQuotes_dataset {d : Dataset} (h : Dataset.isValidName d.name = true) :
    HasQuotes (dataset .html d) (nameLine d :: emptyLines 6 d.buffers) := by
  have hbreak : '\n' ∉ d.name.toList := by
    intro hmem
    rcases mem_of_isValidName h _ hmem with hc | hc | hc | hc <;> exact absurd hc (by decide)
  have hname := HasQuotes.line (l := nameLine d) (by simp [nameLine])
    (by simp [nameLine, blanks, List.replicate, hbreak])
  have hboth := hname.append (hasQuotes_buffers 6 d.buffers)
  simpa [dataset, nameLine] using hboth

/-- **A document on a page has quotes around names and empty texts only.** -/
theorem hasQuotes_body {dt : DataTemplate} (h : dt.registry.WellFormed) :
    HasQuotes (body .html dt) (layoutQuotes dt) := by
  have htemplate := hasQuotes_field "template".toList (by decide) (by decide) 2 dt.template
  have hmarker : HasQuotes marker.toList [] := HasQuotes.quiet (s := "---\ndt:".toList) (by decide)
  have hlist : HasQuotes "  datasets:\n".toList [] :=
    HasQuotes.quiet (s := "  datasets:".toList) (by decide)
  unfold body layoutQuotes
  dsimp only
  split
  · have hall := (hmarker.append (hasQuotes_buffers 2 dt.activeBuffers)).append htemplate
    simpa using hall
  · have hdatasets := HasQuotes.flatMap fun d (hd : d ∈ dt.datasets) =>
      hasQuotes_dataset (h.1 d.name (List.mem_map_of_mem hd))
    have hall := (hmarker.append (hlist.append hdatasets)).append htemplate
    simpa using hall

/-! ## The HTML style -/

/-- **The HTML style is the plain style, escaped.** A reader of entities gets the plain style back.
Nothing on the page is a tag, every ampersand starts one of the five entities, and the lines with
quotes are those that the layout puts around the names and the empty texts. -/
theorem render_html {dt : DataTemplate} (h : dt.registry.WellFormed) :
    String.ofList (readEntities (render .html dt).toList) = render .plain dt ∧
    (∀ x ∈ (render .html dt).toList, x ∉ ['<', '>', '\'']) ∧
    (∀ u, '&' :: u <:+ (render .html dt).toList → ∃ c ∈ markup, entity c <+: '&' :: u) ∧
    quoteLines (render .html dt).toList = layoutQuotes dt := by
  have hshown : Shown (header.toList ++ body .html dt) (header.toList ++ body .plain dt) :=
    (Shown.self (by decide)).append (shown_body h)
  have hheader : HasQuotes header.toList [] :=
    HasQuotes.quiet (s := "# dtlink DataTemplate\n".toList) (by decide)
  have hquotes := (hheader.append (hasQuotes_body h)) []
  rw [List.append_nil] at hquotes
  simp only [render, String.toList_ofList]
  refine ⟨by rw [hshown.readEntities_eq], hshown.not_markup, ?_, ?_⟩
  · exact fun u hu => hshown.exists_entity hu
  rw [hquotes]
  simp [quoteLines, Text.splitLineFeeds]

/-- A document with entities, tags and quotes in its texts, one of them in quotes itself. -/
def pageDocument : DataTemplate where
  registry :=
    ⟨⟨[⟨"A", ⟨"<b title='x'>&amp;\"</b>", ""⟩⟩, ⟨"B-2", ⟨"\"\x07&lt;", "    \"C\":"⟩⟩], 1⟩, by decide⟩
  template := "&quot;\n\"\""

/-- It is shown with its entities escaped once more, and with quotes around both names and the empty
text. -/
theorem render_html_pageDocument : pageDocument.registry.WellFormed ∧
    String.ofList (readEntities (render .html pageDocument).toList) =
      render .plain pageDocument ∧
    quoteLines (render .html pageDocument).toList =
      ["    \"A\":".toList, "      vars: \"\"".toList, "    \"B-2\":".toList] := by
  have hwell : pageDocument.registry.WellFormed := by decide
  obtain ⟨hread, -, -, hquotes⟩ := render_html hwell
  exact ⟨hwell, hread, hquotes.trans (by decide)⟩

end Portable

end TemplateShare
