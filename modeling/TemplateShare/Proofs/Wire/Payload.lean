import TemplateShare.Proofs.Wire.Base64
import TemplateShare.Proofs.Wire.Json

/-! # Payloads that have been sent

What the store takes from a payload: the document as it was sent, with its datasets in order, the
first of them active, and each tab in variables and template as two blanks.

* **`DataTemplate.sent`** — the document that arrives.
* **`Wire.parse_text`** — the JSON of a payload is read as the payload.
* **`Wire.decode_encode`** — the payload of a document is decoded as the document that was sent. -/

namespace TemplateShare

/-- A dataset whose variables have blanks for tabs. -/
def Dataset.expandTabs (d : Dataset) : Dataset :=
  ⟨d.name, d.buffers.data, Wire.expandTabs d.buffers.vars⟩

/-- **A document as it is sent**: with blanks for the tabs of variables and template, and with the
first dataset active. -/
def DataTemplate.sent (dt : DataTemplate) : DataTemplate :=
  dt.rewritten Dataset.expandTabs Wire.expandTabs

namespace Wire

open Json

/-! ## JSON -/

/-- A member that is a text. -/
def textMember (key text : String) : Member :=
  ⟨key.toList, quote text.toList, .text (some text.toList)⟩

/-- The members of a dataset's texts. -/
def buffersMembers (b : Buffers) : List Member :=
  [textMember "data" b.data, textMember "vars" b.vars]

/-- The JSON of a dataset's texts. -/
def buffersJson (b : Buffers) : Json := .object (readMembers (buffersMembers b))

/-- A text is written as a text. -/
theorem isWritten_textMember (key text : String) :
    IsWritten (textMember key text).text (textMember key text).value := isWritten_quote _

/-- The texts of a dataset are written as an object. -/
theorem isWritten_buffersText (b : Buffers) : IsWritten (buffersText b) (buffersJson b) := by
  have hne : buffersMembers b ≠ [] := List.cons_ne_nil _ _
  refine isWritten_objectText hne fun m hm => ?_
  simp only [buffersMembers, List.mem_cons, List.not_mem_nil, or_false] at hm
  rcases hm with rfl | rfl <;> exact isWritten_textMember _ _

/-- The texts of a dataset are read. -/
theorem readBuffers_buffersJson (b : Buffers) : readBuffers (buffersJson b) = some b := by
  simp [readBuffers, buffersJson, readMembers, buffersMembers, textMember, asRecord, asMembers, pick,
    fieldOr, asText]

/-- The members of datasets. -/
def datasetsMembers (ds : List (String × Buffers)) : List Member :=
  ds.map fun (name, b) => ⟨name.toList, buffersText b, buffersJson b⟩

/-- Datasets with different names are read. -/
theorem readDatasets_datasetsMembers {ds : List (String × Buffers)} (h : (ds.map Prod.fst).Nodup) :
    readDatasets (.object (readMembers (datasetsMembers ds))) = some ds := by
  have hmembers : asMembers (.object (readMembers (datasetsMembers ds))) =
      some (ds.map fun d => (d.1, buffersJson d.2)) := by
    clear h
    show (readMembers (datasetsMembers ds)).mapM _ = _
    induction ds with
    | nil => rfl
    | cons d ds ih =>
      show ((_ :: readMembers (datasetsMembers ds)).mapM _ : Option _) = _
      rw [List.mapM_cons, ih]
      simp
  have hbuffers : (ds.map fun d => (d.1, buffersJson d.2)).mapM
      (fun m => (readBuffers m.2).map (m.1, ·)) = some ds := by
    clear h hmembers
    induction ds with
    | nil => rfl
    | cons d ds ih =>
      rw [List.map_cons, List.mapM_cons, ih]
      simp [readBuffers_buffersJson]
  simp only [readDatasets, hmembers, Option.bind_eq_bind, Option.bind_some, hbuffers]
  rw [Assoc.ofList_of_nodup h]
  rfl

/-- What is written as a value is read as that value's payload. -/
theorem parse_eq_ok {ms : List Member} (hne : ms ≠ [])
    (h : ∀ m ∈ ms, IsWritten m.text m.value) {p : Payload}
    (hread : readPayload (.object (readMembers ms)) = some p) :
    parse (String.ofList (objectText (ms.map fun m => (m.key, m.text)))) = .ok p := by
  rw [parse, String.toList_ofList, parse_of_isWritten (isWritten_objectText hne h)]
  simp only [Option.bind_some, hread]

/-- The payload of the short form is read. -/
theorem parse_text_single (data template vars : String) :
    parse (Payload.text { data := some data, template := some template, vars := some vars }) =
      .ok { data := some data, template := some template, vars := some vars } := by
  have hne : [textMember "data" data, textMember "template" template, textMember "vars" vars] ≠ [] :=
    List.cons_ne_nil _ _
  refine parse_eq_ok hne (fun m hm => ?_) ?_
  · simp only [List.mem_cons, List.not_mem_nil, or_false] at hm
    rcases hm with rfl | rfl | rfl <;> exact isWritten_textMember _ _
  · simp [readPayload, readMembers, textMember, asRecord, asMembers, pick, fieldOr, asOptional,
      asText]

/-- The payload of the long form is read, if no name comes twice. -/
theorem parse_text_datasets (template : String) {ds : List (String × Buffers)} (hne : ds ≠ [])
    (h : (ds.map Prod.fst).Nodup) :
    parse (Payload.text { template := some template, datasets := some ds }) =
      .ok { template := some template, datasets := some ds } := by
  have hdatasets : IsWritten (objectText (ds.map fun d => (d.1.toList, buffersText d.2)))
      (.object (readMembers (datasetsMembers ds))) := by
    have hmembers : datasetsMembers ds ≠ [] := by simpa [datasetsMembers] using hne
    have hwritten := isWritten_objectText hmembers fun m hm => by
      obtain ⟨⟨name, b⟩, _, rfl⟩ := List.mem_map.1 hm
      exact isWritten_buffersText b
    rw [datasetsMembers, List.map_map] at hwritten
    exact hwritten
  have hread := readDatasets_datasetsMembers h
  -- What the datasets are read as is known, so their text need not be looked into again.
  generalize readMembers (datasetsMembers ds) = read at hdatasets hread
  generalize htext : objectText (ds.map fun d => (d.1.toList, buffersText d.2)) = text
    at hdatasets
  have hne : [textMember "template" template, ⟨"datasets".toList, text, .object read⟩] ≠ [] :=
    List.cons_ne_nil _ _
  have hparse := parse_eq_ok hne (fun m hm => ?_)
    (show _ = some { template := some template, datasets := some ds } from ?_)
  · rw [← htext] at hparse
    exact hparse
  · simp only [List.mem_cons, List.not_mem_nil, or_false] at hm
    rcases hm with rfl | rfl
    · exact isWritten_textMember _ _
    · exact hdatasets
  · simp [readPayload, readMembers, textMember, asRecord, asMembers, pick, fieldOr, asOptional,
      asText, hread]

/-- **The JSON of a payload is read as the payload**, for the payloads that documents have. -/
theorem parse_text {dt : DataTemplate} (h : dt.registry.WellFormed) :
    parse (encode dt).text = .ok (encode dt) := by
  unfold encode
  by_cases hsingle : dt.isSingle = true
  · rw [if_pos hsingle]
    exact parse_text_single _ _ _
  · rw [if_neg hsingle]
    have hne : (dt.datasets.map fun d => (d.name, encodeBuffers d.buffers)) ≠ [] := by
      obtain ⟨d, ds, hdatasets⟩ := dt.exists_datasets
      rw [hdatasets]
      exact List.cons_ne_nil _ _
    refine parse_text_datasets _ hne ?_
    rw [List.map_map]
    exact h.2

/-! ## Documents -/

/-- The texts of a dataset arrive. -/
theorem decodeBuffers_encodeBuffers (name : String) (b : Buffers) :
    decodeBuffers name (encodeBuffers b) = .ok ⟨b.data, expandTabs b.vars⟩ := by
  simp only [decodeBuffers, encodeBuffers, decodeField_encodeField]
  rfl

/-- The datasets of the long form are decoded in their order. -/
theorem mapM_decodeBuffers (ds : List Dataset) :
    (ds.map fun d => (d.name, encodeBuffers d.buffers)).mapM
        (fun d => do return (⟨d.1, ← decodeBuffers d.1 d.2⟩ : Dataset)) =
      (.ok (ds.map Dataset.expandTabs) : Except EncodingError (List Dataset)) := by
  induction ds with
  | nil => rfl
  | cons d ds ih =>
    rw [List.map_cons, List.mapM_cons, ih]
    simp only [decodeBuffers_encodeBuffers]
    rfl

/-- **A document arrives as it was sent.** -/
theorem decode_encode {dt : DataTemplate} (h : dt.registry.WellFormed) :
    (encode dt).decode = .ok dt.sent := by
  unfold encode
  by_cases hsingle : dt.isSingle = true
  · have hdatasets := DataTemplate.datasets_of_isSingle hsingle
    rw [if_pos hsingle, DataTemplate.sent, DataTemplate.rewritten_eq hdatasets]
    simp only [Payload.decode, encodeBuffers, Option.getD_some, decodeField_encodeField]
    rfl
  · -- The names are valid and different, as they have been before.
    have hregistry : Registry.ofDatasets (dt.datasets.map Dataset.expandTabs) =
        .ok dt.sent.registry :=
      DataTemplate.ofDatasets_rewritten (f := Dataset.expandTabs) (fun _ => rfl) expandTabs h
    have htemplate : dt.sent.template = expandTabs dt.template := dt.template_rewritten
    rw [if_neg hsingle]
    unfold Payload.decode
    simp only [Option.getD_some, decodeField_encodeField]
    rw [mapM_decodeBuffers]
    simp only [bind, Except.bind, hregistry]
    rw [← htemplate]
    rfl

/-- **A document that arrives is made of a list of datasets.** -/
theorem exists_ofDatasets_of_decode {p : Payload} {dt : DataTemplate} (h : p.decode = .ok dt) :
    ∃ ds, Registry.ofDatasets ds = .ok dt.registry := by
  unfold Payload.decode at h
  obtain ⟨template, -, h⟩ := Except.bind_eq_ok.1 h
  cases hdatasets : p.datasets with
  | none =>
    rw [hdatasets] at h
    obtain ⟨data, -, h⟩ := Except.bind_eq_ok.1 h
    obtain ⟨vars, -, h⟩ := Except.bind_eq_ok.1 h
    obtain rfl := Except.ok.inj h
    exact ⟨_, Registry.ofDatasets_default _⟩
  | some ds =>
    rw [hdatasets] at h
    obtain ⟨datasets, -, h⟩ := Except.bind_eq_ok.1 h
    cases hregistry : Registry.ofDatasets datasets with
    | error e =>
      rw [hregistry] at h
      cases h
    | ok r =>
      rw [hregistry] at h
      obtain rfl := Except.ok.inj h
      exact ⟨_, hregistry⟩

/-- A document that arrives is well-formed. -/
theorem wellFormed_of_decode {p : Payload} {dt : DataTemplate} (h : p.decode = .ok dt) :
    dt.registry.WellFormed := by
  obtain ⟨ds, hds⟩ := exists_ofDatasets_of_decode h
  exact Registry.wellFormed_of_ofDatasets hds

end Wire

end TemplateShare
