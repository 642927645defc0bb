import TemplateShare.Pasted
import TemplateShare.Proofs.Wire.Payload

/-! # Payloads arrive

The JSON of a document's payload is read as the payload, and the payload as the document, with blanks
for the tabs of variables and template. It stands on one line, so that it is never taken for a portable
document when it is pasted.

* **`Wire.oneLine_text`** — the JSON of a payload stands on one line.
* **`Pasted.parse_of_oneLine`** — a text on one line is pasted as a payload.
* **`Wire.parse_text_decode`** — the document that arrives. -/

namespace TemplateShare

/-! ## Parts of what arrives -/

namespace DataTemplate

variable (dt : DataTemplate)

/-- The datasets arrive in their order. -/
@[simp] theorem datasets_sent : dt.sent.datasets = dt.datasets.map Dataset.expandTabs :=
  datasets_rewritten dt

/-- The template arrives. -/
@[simp] theorem template_sent : dt.sent.template = Wire.expandTabs dt.template :=
  template_rewritten dt

/-- The names arrive in their order. -/
@[simp] theorem names_sent : dt.sent.registry.names = dt.registry.names := by
  unfold sent
  exact names_rewritten (f := Dataset.expandTabs) (fun _ => rfl) dt

/-- The first dataset of what arrives is active. -/
@[simp] theorem before_sent : dt.sent.registry.before = [] := before_rewritten dt

/-- What arrives has the short form if and only if what was sent had it. -/
@[simp] theorem isSingle_sent : dt.sent.isSingle = dt.isSingle := by
  unfold sent
  exact isSingle_rewritten (f := Dataset.expandTabs) (fun _ => rfl) dt

end DataTemplate

/-! ## Texts on one line -/

/-- **A text on one line.** -/
def Text.OneLine (s : List Char) : Prop := '\n' ∉ s

namespace Text

instance (s : List Char) : Decidable (OneLine s) := by
  unfold OneLine
  infer_instance

variable {s t : List Char}

theorem oneLine_cons {c : Char} : OneLine (c :: s) ↔ c ≠ '\n' ∧ OneLine s := by
  rw [OneLine, List.mem_cons, not_or, ne_comm]
  rfl

theorem oneLine_append : OneLine (s ++ t) ↔ OneLine s ∧ OneLine t := by
  rw [OneLine, List.mem_append, not_or]
  rfl

/-- A text on one line has no part with a line feed. -/
theorem hasInfix_of_oneLine {p : List Char} (hp : '\n' ∈ p) (hs : OneLine s) :
    hasInfix p s = false := by
  have hprefix {t : List Char} (ht : OneLine t) : p.isPrefixOf t = false := by
    rw [Bool.eq_false_iff]
    intro h
    exact ht ((List.isPrefixOf_iff_prefix.1 h).subset hp)
  induction s with
  | nil =>
    cases p with
    | nil => cases hp
    | cons c p => rfl
  | cons c s ih =>
    rw [hasInfix, hprefix hs, ih (oneLine_cons.1 hs).2]
    rfl

end Text

namespace Json

open Text

/-- **A character inside a string stands on one line.** -/
theorem oneLine_quotedChar (c : Char) : OneLine (quotedChar c) := by
  have hdigits : ∀ n < 0x20, OneLine ('\\' :: 'u' :: Hex.lower 4 n) := by decide
  unfold quotedChar
  split
  · decide
  split
  · decide
  split
  · decide
  split
  · decide
  split
  · decide
  split
  · decide
  split
  · decide
  next hfeed _ _ =>
  split
  · next hlow => exact hdigits _ hlow
  · exact fun h => hfeed (List.mem_singleton.1 h).symm

/-- A string stands on one line. -/
theorem oneLine_quote (s : List Char) : OneLine (quote s) := by
  rw [quote, List.cons_append, oneLine_cons, oneLine_append]
  refine ⟨by decide, fun h => ?_, by decide⟩
  obtain ⟨c, -, hc⟩ := List.mem_flatMap.1 h
  exact oneLine_quotedChar c hc

/-- **An object of values on one line stands on one line.** -/
theorem oneLine_objectText {ms : List (List Char × List Char)} (h : ∀ m ∈ ms, OneLine m.2) :
    OneLine (objectText ms) := by
  rw [objectText, List.cons_append, oneLine_cons, oneLine_append]
  refine ⟨by decide, ?_, by decide⟩
  induction ms with
  | nil => exact List.not_mem_nil
  | cons m ms ih =>
    have hmember : OneLine (quote m.1 ++ [':'] ++ m.2) := by
      rw [oneLine_append, oneLine_append]
      exact ⟨⟨oneLine_quote _, by decide⟩, h m List.mem_cons_self⟩
    have hmore := ih fun x hx => h x (List.mem_cons_of_mem m hx)
    cases ms with
    | nil => simpa [List.intercalate] using hmember
    | cons m' ms =>
      show OneLine (_ ++ ',' :: List.intercalate [','] _)
      rw [oneLine_append, oneLine_cons]
      exact ⟨hmember, by decide, hmore⟩

end Json

namespace Wire

open Text Json

/-- **The JSON of a payload stands on one line.** -/
theorem oneLine_text (p : Payload) : OneLine p.text.toList := by
  have hmember (key : String) {value : Option (List Char)} (h : ∀ v ∈ value, OneLine v) :
      ∀ m ∈ (value.map (key.toList, ·)).toList, OneLine m.2 := by
    intro m hm
    obtain ⟨v, hv, rfl⟩ := Option.map_eq_some_iff.1 (Option.mem_toList.1 hm)
    exact h v hv
  have hstring (s : Option String) : ∀ v ∈ s.map fun s => quote s.toList, OneLine v := by
    intro v hv
    obtain ⟨t, -, rfl⟩ := Option.map_eq_some_iff.1 hv
    exact oneLine_quote _
  have hbuffers (b : Buffers) : OneLine (buffersText b) := by
    refine oneLine_objectText fun m hm => ?_
    simp only [List.mem_cons, List.not_mem_nil, or_false] at hm
    rcases hm with rfl | rfl <;> exact oneLine_quote _
  have hdatasets : ∀ v ∈ p.datasets.map fun ds =>
      objectText (ds.map fun d => (d.1.toList, buffersText d.2)), OneLine v := by
    intro v hv
    obtain ⟨ds, -, rfl⟩ := Option.map_eq_some_iff.1 hv
    refine oneLine_objectText fun m hm => ?_
    obtain ⟨⟨name, b⟩, -, rfl⟩ := List.mem_map.1 hm
    exact hbuffers b
  -- All members are on one line, whichever are there.
  rw [Payload.text, String.toList_ofList]
  refine oneLine_objectText fun m hm => ?_
  rcases List.mem_append.1 hm with hm | hm
  · rcases List.mem_append.1 hm with hm | hm
    · rcases List.mem_append.1 hm with hm | hm
      · exact hmember "data" (hstring _) m hm
      · exact hmember "template" (hstring _) m hm
    · exact hmember "vars" (hstring _) m hm
  · exact hmember "datasets" hdatasets m hm

/-- The JSON of a payload stands in braces. -/
theorem trim_text (p : Payload) : trim p.text = p.text := by
  obtain ⟨l, hbraces⟩ : ∃ l, p.text.toList = '\x7b' :: (l ++ ['\x7d']) :=
    ⟨_, by rw [Payload.text, String.toList_ofList, objectText]; rfl⟩
  refine trim_of_ends (fun c hc => ?_) fun c hc => ?_
  · rw [hbraces] at hc
    cases hc
    rfl
  · rw [hbraces, ← List.cons_append, List.getLast?_concat] at hc
    cases hc
    rfl

end Wire

/-- **A text on one line is pasted as a payload**, since every portable document has more lines. -/
theorem Pasted.parse_of_oneLine {text : String} (h : Text.OneLine text.toList) :
    parse text = (do (← Wire.parse (Text.trim text)).decode) := by
  have hmarker : '\n' ∈ Portable.marker.toList := by decide
  rw [parse, Portable.looksLike, Text.contains, Text.hasInfix_of_oneLine hmarker h,
    if_neg Bool.false_ne_true]

/-- **The JSON of a document's payload is pasted** as the document that arrives. -/
theorem Pasted.parse_text {dt : DataTemplate} (h : dt.registry.WellFormed) :
    parse (Wire.encode dt).text = .ok dt.sent := by
  rw [parse_of_oneLine (Wire.oneLine_text _), Wire.trim_text]
  exact Except.bind_eq_ok.2 ⟨_, Wire.parse_text h, Wire.decode_encode h⟩

namespace Wire

variable {dt : DataTemplate}

/-- **A payload loses nothing but tabs.** The JSON of a document's payload can be read, as a payload
of the short form if and only if the document has it, and decoded. The names arrive in their order, the
data as they are, variables and template with two blanks for each tab, and the first dataset is active.
When the same text is pasted, the same document arrives. -/
theorem parse_text_decode (h : dt.registry.WellFormed) :
    ∃ p x, parse (encode dt).text = .ok p ∧ p.decode = .ok x ∧
      x.registry.names = dt.registry.names ∧
      x.datasets = dt.datasets.map
        (fun d => ⟨d.name, d.buffers.data, expandTabs d.buffers.vars⟩) ∧
      x.template = expandTabs dt.template ∧ x.registry.before = [] ∧
      (p.datasets = none ↔ dt.isSingle = true) ∧ x.isSingle = dt.isSingle ∧
      Pasted.parse (encode dt).text = .ok x := by
  refine ⟨encode dt, dt.sent, parse_text h, decode_encode h, dt.names_sent, dt.datasets_sent,
    dt.template_sent, dt.before_sent, ?_, dt.isSingle_sent, Pasted.parse_text h⟩
  unfold encode
  split
  · next hsingle => exact iff_of_true rfl hsingle
  · next hsingle => exact iff_of_false (fun hnone => nomatch hnone) hsingle

/-- A document with tabs in all of its texts. -/
def tabbedDocument : DataTemplate where
  registry := ⟨⟨[⟨"B", ⟨"h1\th2", ""⟩⟩, ⟨"A", ⟨"", "\tv: \"1\"\r\n"⟩⟩], 1⟩, by decide⟩
  template := "---\ndt:\n\tx"

/-- It arrives. -/
theorem parse_text_decode_tabbedDocument : tabbedDocument.registry.WellFormed ∧
    ∃ p x, parse (encode tabbedDocument).text = .ok p ∧ p.decode = .ok x ∧
      x.registry.names = tabbedDocument.registry.names ∧
      x.datasets = tabbedDocument.datasets.map
        (fun d => ⟨d.name, d.buffers.data, expandTabs d.buffers.vars⟩) ∧
      x.template = expandTabs tabbedDocument.template ∧ x.registry.before = [] ∧
      (p.datasets = none ↔ tabbedDocument.isSingle = true) ∧
      x.isSingle = tabbedDocument.isSingle ∧
      Pasted.parse (encode tabbedDocument).text = .ok x := by
  have hwell : tabbedDocument.registry.WellFormed := by decide
  exact ⟨hwell, parse_text_decode hwell⟩

end Wire

end TemplateShare
