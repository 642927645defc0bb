import TemplateShare.Proofs.Portable.RoundTrip
import TemplateShare.Proofs.Wire.RoundTrip

/-! # The core of a document

A file and the store keep a document in two forms, and neither of them keeps all of it: a file is
read back without the white space at the ends of texts, and the store gets blanks for tabs. The core
of a document is what both of them keep.

* **`DataTemplate.core`** — the document with blanks for the tabs of variables and template, and
  without the white space at the ends of its texts.
* **`DataTemplate.core_reloaded`**, **`DataTemplate.core_sent`** — neither form changes the core.
* **`DataTemplate.eq_of_render_eq`** — documents that are read back as they are, and are written
  alike. -/

namespace TemplateShare

/-! ## Tabs and white space -/

namespace Wire

/-- **Blanks for tabs leave no tab**, so they are put only once. -/
@[simp] theorem expandTabs_expandTabs (s : String) : expandTabs (expandTabs s) = expandTabs s := by
  have htwice (x : Char) :
      (if x = '\t' then "  ".toList else [x]).flatMap
          (fun y => if y = '\t' then "  ".toList else [y]) =
        if x = '\t' then "  ".toList else [x] := by
    by_cases hx : x = '\t' <;> simp [hx]
  simp only [expandTabs, Text.replaceChar, String.toList_ofList, List.flatMap_assoc, htwice]

/-- **White space at the end may be dropped before tabs become blanks**, since these are white space
as well. -/
theorem trimEnd_expandTabs_trimEnd (s : String) :
    Text.trimEnd (expandTabs (Text.trimEnd s)) = Text.trimEnd (expandTabs s) := by
  obtain ⟨w, hs, hw⟩ := Text.exists_dropSpaceEnd s.toList
  have hblank : ∀ c ∈ w.flatMap (fun x => if x = '\t' then "  ".toList else [x]),
      Text.isSpace c = true := by
    intro c hc
    obtain ⟨x, hx, hc⟩ := List.mem_flatMap.1 hc
    by_cases htab : x = '\t'
    · rw [if_pos htab] at hc
      obtain rfl : c = ' ' := by simpa using hc
      rfl
    · rw [if_neg htab] at hc
      exact List.mem_singleton.1 hc ▸ hw x hx
  have hdrop := congrArg (List.flatMap fun x => if x = '\t' then "  ".toList else [x]) hs
  rw [List.flatMap_append] at hdrop
  simp only [expandTabs, Text.replaceChar, Text.trimEnd, String.toList_ofList]
  rw [hdrop, Text.dropSpaceEnd_append hblank]

end Wire

namespace DataTemplate

/-! ## The core -/

/-- **The core of a document**: with blanks for the tabs of variables and template, without the white
space at the ends of its texts, and with the first dataset active. -/
def core (dt : DataTemplate) : DataTemplate := dt.sent.reloaded

variable {dt x y : DataTemplate}

/-- A document that is written anew twice. -/
theorem rewritten_rewritten (f f' : Dataset → Dataset) (g g' : String → String) (dt : DataTemplate) :
    (dt.rewritten f g).rewritten f' g' = dt.rewritten (f' ∘ f) (g' ∘ g) := by
  obtain ⟨d, ds, h⟩ := dt.exists_datasets
  have hdatasets : (dt.rewritten f g).datasets = f d :: ds.map f := by rw [datasets_rewritten, h]; rfl
  rw [rewritten_eq hdatasets, template_rewritten, rewritten_eq h, List.map_map]
  rfl

/-- **Sending does not change the core.** -/
@[simp] theorem core_sent (dt : DataTemplate) : dt.sent.core = dt.core := by
  have hdataset : Dataset.expandTabs ∘ Dataset.expandTabs = Dataset.expandTabs := by
    funext d
    simp [Dataset.expandTabs]
  have htext : Wire.expandTabs ∘ Wire.expandTabs = Wire.expandTabs := by
    funext s
    simp
  rw [core, core, sent, sent, rewritten_rewritten, hdataset, htext]

/-- **Reading back does not change the core.** -/
@[simp] theorem core_reloaded (dt : DataTemplate) : dt.reloaded.core = dt.core := by
  have hdataset : Dataset.trimEnd ∘ Dataset.expandTabs ∘ Dataset.trimEnd =
      Dataset.trimEnd ∘ Dataset.expandTabs := by
    funext d
    simp [Dataset.trimEnd, Dataset.expandTabs, Wire.trimEnd_expandTabs_trimEnd]
  have htext : Text.trimEnd ∘ Wire.expandTabs ∘ Text.trimEnd = Text.trimEnd ∘ Wire.expandTabs := by
    funext s
    simp [Wire.trimEnd_expandTabs_trimEnd]
  simp only [core, sent, reloaded, rewritten_rewritten, hdataset, htext]

/-! ## Documents that are written alike -/

/-- **Documents that are read back as they are** are equal if they are written alike. -/
theorem eq_of_render_eq (hx : Portable.parse (Portable.render .plain x) = .ok x)
    (hy : Portable.parse (Portable.render .plain y) = .ok y)
    (h : Portable.render .plain x = Portable.render .plain y) : x = y :=
  Except.ok.inj (hx.symm.trans (h ▸ hy))

/-- What is read back of a document is read back as it is. -/
theorem parse_render_reloaded (hdt : dt.registry.WellFormed) (hread : Portable.IsReadable dt) :
    Portable.parse (Portable.render .plain dt.reloaded) = .ok dt.reloaded := by
  rw [Portable.render_reloaded]
  exact (Portable.parse_render hdt _).2 ⟨hread, rfl⟩

end DataTemplate

end TemplateShare
