import TemplateShare.DataTemplate
import TemplateShare.Proofs.Registry.Operations

/-! # The content of a document

What of a document is shared: its datasets in order, with their names and texts, and its template.
Which dataset is active is a matter of the one who edits it.

* **`DataTemplate.SameContent`** — two documents with the same content.
* **`DataTemplate.reloaded`** — a document as it is read back after it has been written. -/

namespace TemplateShare

/-- **The same content**: equal datasets in the same order and equal templates. -/
def DataTemplate.SameContent (a b : DataTemplate) : Prop :=
  a.datasets = b.datasets ∧ a.template = b.template

namespace DataTemplate

variable {a b c : DataTemplate}

instance : Decidable (SameContent a b) := by unfold SameContent; infer_instance

theorem SameContent.refl (a : DataTemplate) : a.SameContent a := ⟨rfl, rfl⟩

theorem SameContent.symm (h : a.SameContent b) : b.SameContent a := ⟨h.1.symm, h.2.symm⟩

theorem SameContent.trans (h : a.SameContent b) (h' : b.SameContent c) :
    a.SameContent c := ⟨h.1.trans h'.1, h.2.trans h'.2⟩

end DataTemplate

/-! ## Documents that are written anew -/

namespace DataTemplate

/-- **A document with every dataset and the template written anew**, and the first dataset active. -/
def rewritten (onDataset : Dataset → Dataset) (onTemplate : String → String) (dt : DataTemplate) :
    DataTemplate :=
  match dt.datasets with
  | [] => dt
  | d :: ds => ⟨.first (onDataset d) (ds.map onDataset), onTemplate dt.template⟩

variable {f : Dataset → Dataset} {g : String → String}

/-- The parts of a document that is written anew. -/
theorem rewritten_eq {dt : DataTemplate} {d : Dataset} {ds : List Dataset}
    (h : dt.datasets = d :: ds) : dt.rewritten f g = ⟨.first (f d) (ds.map f), g dt.template⟩ := by
  unfold rewritten
  rw [h]

/-- A document has a first dataset. -/
theorem exists_datasets (dt : DataTemplate) : ∃ d ds, dt.datasets = d :: ds :=
  List.exists_cons_of_ne_nil dt.registry.datasets_ne_nil

/-- **The datasets are written anew in their order.** -/
@[simp] theorem datasets_rewritten (dt : DataTemplate) :
    (dt.rewritten f g).datasets = dt.datasets.map f := by
  obtain ⟨d, ds, h⟩ := dt.exists_datasets
  rw [rewritten_eq h, h]
  rfl

/-- The template is written anew. -/
@[simp] theorem template_rewritten (dt : DataTemplate) :
    (dt.rewritten f g).template = g dt.template := by
  obtain ⟨d, ds, h⟩ := dt.exists_datasets
  rw [rewritten_eq h]

/-- The first dataset of a document that is written anew is active. -/
@[simp] theorem before_rewritten (dt : DataTemplate) : (dt.rewritten f g).registry.before = [] := by
  obtain ⟨d, ds, h⟩ := dt.exists_datasets
  rw [rewritten_eq h]
  rfl

/-- Where names stay, they stay in their order. -/
theorem names_rewritten (hname : ∀ d, (f d).name = d.name) (dt : DataTemplate) :
    (dt.rewritten f g).registry.names = dt.registry.names := by
  show (dt.rewritten f g).datasets.map Dataset.name = dt.datasets.map Dataset.name
  rw [datasets_rewritten, List.map_map]
  exact List.map_congr_left fun d _ => hname d

/-- Where names stay, a well-formed document stays one. -/
theorem wellFormed_rewritten (hname : ∀ d, (f d).name = d.name) {dt : DataTemplate}
    (h : dt.registry.WellFormed) : (dt.rewritten f g).registry.WellFormed := by
  unfold Registry.WellFormed
  rw [names_rewritten hname]
  exact h

/-- A document of the short form is well-formed. -/
theorem wellFormed_single (data vars template : String) :
    (single data vars template).registry.WellFormed := Registry.wellFormed_initial

end DataTemplate

/-- A dataset without the white space at the ends of its texts. -/
def Dataset.trimEnd (d : Dataset) : Dataset :=
  ⟨d.name, Text.trimEnd d.buffers.data, Text.trimEnd d.buffers.vars⟩

/-- **A document as it is read back**: without the white space at the ends of its texts, and with
the first dataset active. -/
def DataTemplate.reloaded (dt : DataTemplate) : DataTemplate :=
  dt.rewritten Dataset.trimEnd Text.trimEnd

/-- A well-formed document is read back as one. -/
theorem DataTemplate.wellFormed_reloaded {dt : DataTemplate} (h : dt.registry.WellFormed) :
    dt.reloaded.registry.WellFormed := by
  unfold reloaded
  exact wellFormed_rewritten (f := Dataset.trimEnd) (fun _ => rfl) h

end TemplateShare
