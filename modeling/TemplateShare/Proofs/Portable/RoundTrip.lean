import TemplateShare.Proofs.Portable.Readable
import TemplateShare.Proofs.WorkingCopy

/-! # Portable documents come back

A document that is written and can be read back comes back with its datasets in order, without the
white space at the ends of its texts, and with its first dataset active. Written once more it is the
same text, so its checksum stays.

* **`Portable.body_reloaded`** — what comes back is written as before.
* **`Portable.parse_render`**, **`Portable.unchanged_of_parse_render`** — what comes back. -/

namespace TemplateShare

/-! ## Parts of what comes back -/

namespace DataTemplate

/-- What comes back has the short form if and only if what was written had it. -/
@[simp] theorem isSingle_reloaded (dt : DataTemplate) : dt.reloaded.isSingle = dt.isSingle := by
  unfold reloaded
  exact isSingle_rewritten (f := Dataset.trimEnd) (fun _ => rfl) dt

/-- The datasets come back in their order. -/
@[simp] theorem datasets_reloaded (dt : DataTemplate) :
    dt.reloaded.datasets = dt.datasets.map Dataset.trimEnd := datasets_rewritten dt

/-- The template comes back. -/
@[simp] theorem template_reloaded (dt : DataTemplate) :
    dt.reloaded.template = Text.trimEnd dt.template := template_rewritten dt

/-- The names come back in their order. -/
@[simp] theorem names_reloaded (dt : DataTemplate) :
    dt.reloaded.registry.names = dt.registry.names := by
  unfold reloaded
  exact names_rewritten (f := Dataset.trimEnd) (fun _ => rfl) dt

/-- The first dataset of what comes back is active. -/
@[simp] theorem before_reloaded (dt : DataTemplate) : dt.reloaded.registry.before = [] :=
  before_rewritten dt

/-- What comes back of a document whose first dataset is active has the same active dataset. -/
theorem activeName_reloaded {dt : DataTemplate} (h : dt.registry.before = []) :
    dt.reloaded.registry.activeName = dt.registry.activeName := by
  have hfirst {r : Registry} (hr : r.before = []) :
      r.names = r.activeName :: r.after.map Dataset.name := by
    rw [Registry.names, r.datasets_eq, hr]
    rfl
  have hnames := dt.names_reloaded
  rw [hfirst dt.before_reloaded, hfirst h] at hnames
  exact (List.cons.inj hnames).1

end DataTemplate

namespace Portable

open Yaml

/-! ## Written as before -/

/-- White space at the end of a text makes no difference. -/
@[simp] theorem field_trimEnd (style : Style) (key : List Char) (indent : Nat) (text : String) :
    field style key indent (Text.trimEnd text) = field style key indent text := by
  simp only [field, Text.trimEnd, String.toList_ofList, Text.dropSpaceEnd_dropSpaceEnd]

/-- White space at the ends of the texts of a dataset makes no difference. -/
theorem buffers_trimEnd (style : Style) (indent : Nat) (d : Dataset) :
    buffers style indent d.trimEnd.buffers = buffers style indent d.buffers := by
  simp only [buffers, Dataset.trimEnd, field_trimEnd]

/-- **What comes back is written as before.** -/
theorem body_reloaded (style : Style) (dt : DataTemplate) :
    body style dt.reloaded = body style dt := by
  have hdataset (d : Dataset) : dataset style d.trimEnd = dataset style d := by
    rw [dataset, buffers_trimEnd]
    rfl
  unfold body
  rw [DataTemplate.isSingle_reloaded, DataTemplate.datasets_reloaded,
    DataTemplate.template_reloaded, field_trimEnd]
  by_cases hsingle : dt.isSingle = true
  · have hactive : dt.reloaded.activeBuffers =
        (⟨Dataset.defaultName, dt.activeBuffers⟩ : Dataset).trimEnd.buffers := by
      rw [DataTemplate.reloaded, DataTemplate.rewritten_eq (DataTemplate.datasets_of_isSingle hsingle)]
      rfl
    rw [if_pos hsingle, if_pos hsingle, hactive, buffers_trimEnd]
  · rw [if_neg hsingle, if_neg hsingle, List.flatMap_map]
    simp only [hdataset]

/-- The text of what comes back. -/
theorem render_reloaded (style : Style) (dt : DataTemplate) :
    render style dt.reloaded = render style dt := by
  rw [render, body_reloaded, render]

/-- The checksum of what comes back. -/
theorem checksum_reloaded (dt : DataTemplate) : dt.reloaded.checksum = dt.checksum := by
  rw [DataTemplate.checksum, render_reloaded, DataTemplate.checksum]

/-! ## What comes back -/

variable {dt x : DataTemplate}

/-- **What a reader takes from a document that was written.** -/
theorem parse_render (h : dt.registry.WellFormed) (x : DataTemplate) :
    parse (render .plain dt) = .ok x ↔ IsReadable dt ∧ x = dt.reloaded :=
  WorkingCopy.parse_template_render (WorkingCopy.legible_of_wellFormed h) x

/-- **A document never comes back changed.** If what was written can be read at all, then the names
come back in their order, all texts come back without the white space at their ends, and the first
dataset is active. Written again it is the same text, with the same checksum. -/
theorem unchanged_of_parse_render (h : dt.registry.WellFormed)
    (hread : parse (render .plain dt) = .ok x) :
    x.registry.names = dt.registry.names ∧ x.datasets = dt.datasets.map Dataset.trimEnd ∧
      x.template = Text.trimEnd dt.template ∧ x.registry.before = [] ∧
      render .plain x = render .plain dt ∧ x.checksum = dt.checksum := by
  obtain ⟨-, rfl⟩ := (parse_render h x).1 hread
  exact ⟨dt.names_reloaded, dt.datasets_reloaded, dt.template_reloaded, dt.before_reloaded,
    render_reloaded .plain dt, checksum_reloaded dt⟩

/-- A document with a block, a quoted text and texts that look like something else. -/
def mixedDocument : DataTemplate where
  registry :=
    ⟨⟨[⟨"B", ⟨" h1,h2\r\n", "--- # no marker\n\n\tx  "⟩⟩, ⟨"A", ⟨"", "\x07"⟩⟩], 1⟩, by decide⟩
  template := "dt:\n  data: |2\n\n"

/-- It comes back, with its first dataset active. -/
theorem unchanged_of_parse_render_mixedDocument : mixedDocument.registry.WellFormed ∧
    parse (render .plain mixedDocument) = .ok mixedDocument.reloaded ∧
    mixedDocument.reloaded.registry.names = mixedDocument.registry.names ∧
    mixedDocument.reloaded.datasets = mixedDocument.datasets.map Dataset.trimEnd ∧
    mixedDocument.reloaded.template = Text.trimEnd mixedDocument.template ∧
    mixedDocument.reloaded.registry.before = [] ∧
    render .plain mixedDocument.reloaded = render .plain mixedDocument ∧
    mixedDocument.reloaded.checksum = mixedDocument.checksum := by
  have hwell : mixedDocument.registry.WellFormed := by decide
  have hread : parse (render .plain mixedDocument) = .ok mixedDocument.reloaded :=
    (parse_render hwell _).2 ⟨(isReadable_iff hwell).2 (by decide), rfl⟩
  exact ⟨hwell, hread, unchanged_of_parse_render hwell hread⟩

end Portable

end TemplateShare
