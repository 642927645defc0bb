import TemplateShare.Proofs.Portable.Layout
import TemplateShare.Proofs.Registry

/-! # Reading documents back

What the reader makes of the entries that the printer writes: the document itself, without the white
space at the ends of its texts and with its first dataset active.

* **`Portable.read_templateEntries`** — the fields of a document that has been written.
* **`Portable.toTemplate_writtenFields`** — the document of these fields.
* **`Portable.exists_ofDatasets_of_toTemplate`** — the document of any fields is made of a list of
  datasets. -/

namespace TemplateShare

namespace Portable

open Yaml

/-! ## Reading entries -/

/-- The fields of a document that has been written. -/
def writtenFields (dt : DataTemplate) : Fields :=
  let text (indent : Nat) (s : String) : Option String :=
    some (String.ofList (fieldValue indent s).text)
  if dt.isSingle then
    { data := text 2 dt.activeBuffers.data, vars := text 2 dt.activeBuffers.vars,
      template := text 2 dt.template }
  else
    { template := text 2 dt.template
      datasets := some (dt.datasets.map fun d =>
        (d.name, text 6 d.buffers.data, text 6 d.buffers.vars)) }

variable (d : Document)

/-- A text is there. -/
theorem optional_fieldValue (indent : Nat) (text : String) :
    d.optional d.text (Layout.scalar (fieldValue indent text)).node =
      .ok (some (String.ofList (fieldValue indent text).text)) := by
  rw [Layout.node]
  exact d.optional_text (style_fieldValue indent text)

/-- The data and variables of a dataset are read. -/
theorem readBuffers_entries (b : Buffers) :
    readBuffers d (Layout.block 6 (buffersEntries 6 b .nil)).node =
      .ok (some (String.ofList (fieldValue 6 b.data).text),
        some (String.ofList (fieldValue 6 b.vars).text)) := by
  have hdata := optional_fieldValue d 6 b.data
  have hvars := optional_fieldValue d 6 b.vars
  simp [readBuffers, buffersEntries, textEntry, Entries.fields, Document.optionalField, field?, bind,
    Except.bind, pure, Except.pure, Written.word, hdata, hvars]

/-- The fields of datasets. -/
theorem fields_datasetEntries (ds : List Dataset) :
    (datasetEntries ds).fields =
      ds.map fun x => (x.name, (Layout.block 6 (buffersEntries 6 x.buffers .nil)).node) := by
  induction ds with
  | nil =>
    rw [datasetEntries, Entries.fields]
    rfl
  | cons x ds ih =>
    rw [datasetEntries, Entries.fields, ih, nameKey, String.ofList_toList]
    rfl

/-- The datasets are read, each with its data and variables. -/
theorem mapM_readBuffers (ds : List Dataset) :
    ((datasetEntries ds).fields.mapM fun (k, v) => do return (k, ← readBuffers d v)) =
      (.ok (ds.map fun x => (x.name, some (String.ofList (fieldValue 6 x.buffers.data).text),
        some (String.ofList (fieldValue 6 x.buffers.vars).text))) : Except Yaml.Error _) := by
  rw [fields_datasetEntries]
  induction ds with
  | nil => rfl
  | cons x ds ih =>
    rw [List.map_cons, List.mapM_cons, ih]
    dsimp only
    rw [readBuffers_entries]
    rfl

/-- **The fields of a document that has been written** are read. -/
theorem read_templateEntries {dt : DataTemplate} (h : dt.registry.WellFormed) (emptyLines : Nat) :
    Fields.read d (Layout.block 2 (templateEntries dt emptyLines)).node =
      .ok (writtenFields dt) := by
  have htemplate := optional_fieldValue d 2 dt.template
  unfold templateEntries writtenFields
  by_cases hsingle : dt.isSingle = true
  · have hdata := optional_fieldValue d 2 dt.activeBuffers.data
    have hvars := optional_fieldValue d 2 dt.activeBuffers.vars
    rw [if_pos hsingle, if_pos hsingle]
    simp [Fields.read, buffersEntries, textEntry, Entries.fields, Document.optionalField, field?,
      bind, Except.bind, pure, Except.pure, Written.word, hdata, hvars, htemplate]
  · -- The names are different, so no dataset takes the place of another one.
    have hnames : (dt.datasets.map fun x => x.name).Nodup := h.2
    have hmap : d.map (readBuffers d) (Layout.block 4 (datasetEntries dt.datasets)).node =
        .ok (dt.datasets.map fun x => (x.name,
          some (String.ofList (fieldValue 6 x.buffers.data).text),
          some (String.ofList (fieldValue 6 x.buffers.vars).text))) := by
      unfold Document.map
      rw [d.entries_node]
      show (List.mapM _ _ : Except Yaml.Error _).bind _ = _
      rw [mapM_readBuffers]
      show Except.ok (Assoc.ofList _) = _
      rw [Assoc.ofList_of_nodup]
      rw [List.map_map]
      exact hnames
    have hsome : some <$> d.map (readBuffers d) (Layout.block 4 (datasetEntries dt.datasets)).node =
        .ok (some (dt.datasets.map fun x => (x.name,
          some (String.ofList (fieldValue 6 x.buffers.data).text),
          some (String.ofList (fieldValue 6 x.buffers.vars).text)))) := by
      rw [hmap]
      rfl
    rw [if_neg hsingle, if_neg hsingle]
    simp [Fields.read, textEntry, Entries.fields, Document.optionalField, field?,
      bind, Except.bind, pure, Except.pure, Written.word, hsome, htemplate]

/-! ## Documents of fields -/

/-- **The document of its fields** is the document that is read back. -/
theorem toTemplate_writtenFields {dt : DataTemplate} (h : dt.registry.WellFormed) :
    (writtenFields dt).toTemplate = .ok dt.reloaded := by
  unfold writtenFields
  dsimp only
  by_cases hsingle : dt.isSingle = true
  · rw [if_pos hsingle, DataTemplate.reloaded,
      DataTemplate.rewritten_eq (DataTemplate.datasets_of_isSingle hsingle)]
    unfold Fields.toTemplate
    dsimp only
    rw [unclip_fieldValue, unclip_fieldValue, unclip_fieldValue]
    rfl
  · -- Each text is unclipped, which takes off the line feed that a block adds.
    have hdatasets : (dt.datasets.map fun x => (x.name,
        some (String.ofList (fieldValue 6 x.buffers.data).text),
        some (String.ofList (fieldValue 6 x.buffers.vars).text))).map
          (fun x => (⟨x.1, unclip x.2.1, unclip x.2.2⟩ : Dataset)) =
        dt.datasets.map Dataset.trimEnd := by
      rw [List.map_map]
      refine List.map_congr_left fun y _ => ?_
      simp only [Function.comp, unclip_fieldValue]
      rfl
    -- Trimming leaves the names, so the datasets are put together again without a clash.
    have hregistry : Registry.ofDatasets (dt.datasets.map Dataset.trimEnd) =
        .ok dt.reloaded.registry :=
      DataTemplate.ofDatasets_rewritten (f := Dataset.trimEnd) (fun _ => rfl) Text.trimEnd h
    rw [if_neg hsingle]
    unfold Fields.toTemplate
    dsimp only
    rw [hdatasets, hregistry]
    dsimp only
    rw [unclip_fieldValue, ← dt.template_rewritten (f := Dataset.trimEnd) (g := Text.trimEnd)]
    rfl

/-- **A document that is read is made of a list of datasets.** -/
theorem exists_ofDatasets_of_toTemplate {f : Fields} {dt : DataTemplate}
    (h : f.toTemplate = .ok dt) : ∃ ds, Registry.ofDatasets ds = .ok dt.registry := by
  unfold Fields.toTemplate at h
  split at h
  · obtain rfl := Except.ok.inj h
    exact ⟨_, Registry.ofDatasets_default _⟩
  · dsimp only at h
    split at h
    · next hregistry =>
      obtain rfl := Except.ok.inj h
      exact ⟨_, hregistry⟩
    · cases h

/-- A document that is read is well-formed. -/
theorem wellFormed_of_toTemplate {f : Fields} {dt : DataTemplate} (h : f.toTemplate = .ok dt) :
    dt.registry.WellFormed := by
  obtain ⟨ds, hds⟩ := exists_ofDatasets_of_toTemplate h
  exact Registry.wellFormed_of_ofDatasets hds

end Portable

end TemplateShare
