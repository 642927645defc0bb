import TemplateShare.Proofs.Preview.Lines
import TemplateShare.Proofs.Wire.Base64
import TemplateShare.RenderPayload

/-! # Payloads carry the live rows

The lines of the data are indented with spaces first, and those that do not count are dropped from
the text that is made of them. That comes to the same as dropping them at once: a payload has the
lines that count, in order, each with its indentation in spaces, and is refused if there is exactly
one.

* **`RenderPayload.reindented`** — a line with its indentation in spaces.
* **`RenderPayload.map_dropReturns_dataText`** — the lines of a payload's data.
* **`RenderPayload.Carries`** — a payload that carries the live texts of a session.
* **`RenderPayload.build_iff`** — when there is a payload, and what it carries. -/

namespace TemplateShare

/-- **The live rows** of a session: the lines of the editor's data that count. -/
def Session.liveRows (s : Session) : List (List Char) := Preview.dataLines s.editor.data.toList

namespace RenderPayload

open Delimiter Preview

open Text hiding isBlank

/-! ## Indentation -/

/-- The columns that blanks take: a tab takes two and a space one. -/
def indentWidth (w : List Char) : Nat := w.count ' ' + 2 * w.count '\t'

/-- **A line with its indentation in spaces**, and otherwise as it is. -/
def reindented (l : List Char) : List Char :=
  List.replicate (indentWidth (l.takeWhile isBlank)) ' ' ++ l.dropWhile isBlank

/-- Blanks at the start of a line become as many spaces as they take columns. -/
theorem flatMap_indentBlank {w : List Char} (hw : ∀ c ∈ w, isBlank c = true) :
    w.flatMap indentBlank = List.replicate (indentWidth w) ' ' := by
  induction w with
  | nil => rfl
  | cons c w ih =>
    have hrest := ih fun x hx => hw x (List.mem_cons_of_mem c hx)
    have hc := hw c List.mem_cons_self
    rw [List.flatMap_cons, hrest]
    simp only [isBlank, Bool.or_eq_true, beq_iff_eq] at hc
    rcases hc with rfl | rfl
    · have hwidth : indentWidth (' ' :: w) = indentWidth w + 1 := by
        simp [indentWidth]
        omega
      rw [hwidth, List.replicate_succ]
      rfl
    · have hwidth : indentWidth ('\t' :: w) = indentWidth w + 2 := by
        simp [indentWidth]
        omega
      rw [hwidth, List.replicate_succ, List.replicate_succ]
      rfl

/-- **The indentation of a line is put in spaces.** -/
theorem expandIndent_eq (l : List Char) : expandIndent l = reindented l := by
  rw [expandIndent, flatMap_indentBlank (List.all_eq_true.1 List.all_takeWhile), reindented]

/-- A line without a line feed has none with its indentation in spaces. -/
theorem notMem_reindented {l : List Char} (h : '\n' ∉ l) : '\n' ∉ reindented l := by
  rw [reindented, List.mem_append, not_or]
  refine ⟨fun hmem => ?_, fun hmem => h ((List.dropWhile_sublist isBlank).mem hmem)⟩
  exact absurd (List.eq_of_mem_replicate hmem) (by decide)

/-- White space in front of a line does not make it count, or not count. -/
theorem isIgnored_append_left {w : List Char} (hw : ∀ c ∈ w, isSpace c = true) (l : List Char) :
    isIgnored (w ++ l) = isIgnored l := by
  rw [isIgnored, isIgnored, dropSpace, dropSpace, List.dropWhile_append_of_pos hw]

/-- A line counts with its indentation in spaces if and only if it counts. -/
theorem isIgnored_reindented (l : List Char) : isIgnored (reindented l) = isIgnored l := by
  have hspaces : ∀ c ∈ List.replicate (indentWidth (l.takeWhile isBlank)) ' ', isSpace c = true := by
    intro c hc
    rw [List.eq_of_mem_replicate hc]
    rfl
  have hblanks : ∀ c ∈ l.takeWhile isBlank, isSpace c = true := fun c hc =>
    isSpace_of_isBlank (List.all_eq_true.1 List.all_takeWhile c hc)
  conv_rhs => rw [← List.takeWhile_append_dropWhile (p := isBlank) (l := l)]
  rw [reindented, isIgnored_append_left hspaces, isIgnored_append_left hblanks]

/-! ## Data -/

/-- **The lines of a payload's data** are the lines that count, with their indentation in spaces. -/
theorem map_dropReturns_dataText (data : List Char) :
    (charLines (dataText data)).map dropReturns =
      ((dataLines data).map reindented).map dropReturns := by
  have hlines : (charLines data).map expandIndent = (charLines data).map reindented :=
    List.map_congr_left fun l _ => expandIndent_eq l
  have hbreak : ∀ l ∈ (charLines data).map reindented, '\n' ∉ l := by
    intro l hl
    obtain ⟨m, hm, rfl⟩ := List.mem_map.1 hl
    exact notMem_reindented (notMem_of_mem_charLines hm)
  rw [dataText, hlines]
  calc (charLines (filterLines (['\n'].intercalate ((charLines data).map reindented)))).map dropReturns
      = (dataLines (['\n'].intercalate ((charLines data).map reindented))).map dropReturns :=
        map_dropReturns_charLines _
    _ = (((charLines data).map reindented).filter (!isIgnored ·)).map dropReturns :=
        map_dropReturns_dataLines hbreak
    _ = ((dataLines data).map reindented).map dropReturns := by
        rw [List.filter_map, dataLines]
        simp only [Function.comp_def, isIgnored_reindented]

/-- A comment is dropped, and a tab in front of a row takes two columns. -/
example : dataText "h1,h2\n\t# skip\n \tx,y".toList = "h1,h2\n   x,y".toList := by decide

/-- A payload's data has as many lines as count. -/
theorem length_charLines_dataText (data : List Char) :
    (charLines (dataText data)).length = (dataLines data).length := by
  simpa using congrArg List.length (map_dropReturns_dataText data)

/-! ## Payloads -/

/-- **A payload that carries the live texts of a session**: its data are the live rows with their
indentation in spaces, up to carriage returns at the ends of lines; its variables and its template
have spaces for tabs; and it names the active dataset and the document in the store. -/
structure Carries (p : RenderPayload) (s : Session) : Prop where
  data : ∃ text, Wire.decodeField "data" p.data = .ok text ∧
    (charLines text.toList).map dropReturns = (s.liveRows.map reindented).map dropReturns
  vars : Wire.decodeField "vars" p.vars = .ok (Wire.expandTabs s.editor.vars)
  template : Wire.decodeField "template" p.template = .ok (Wire.expandTabs s.template)
  dataset : p.dataset = s.registry.activeName
  id : p.id = s.remoteId

/-- With a template, and without live rows or with more than one, there is a payload, which carries the
live texts. -/
theorem exists_carries {s : Session} (htemplate : s.template ≠ "") (hrows : s.liveRows.length ≠ 1) :
    ∃ p, build s = .ok p ∧ p.Carries s := by
  have hcount : (charLines (dataText s.editor.data.toList)).length ≠ 1 := by
    rwa [length_charLines_dataText]
  have hdata : (charLines (String.ofList (dataText s.editor.data.toList)).toList).map dropReturns =
      (s.liveRows.map reindented).map dropReturns := by
    rw [String.toList_ofList]
    exact map_dropReturns_dataText _
  unfold build
  rw [if_neg (by simpa using htemplate), if_neg hcount]
  exact ⟨_, rfl, ⟨_, Wire.decodeField_encodeField _ _, hdata⟩, Wire.decodeField_encodeField _ _,
    Wire.decodeField_encodeField _ _, rfl, rfl⟩

/-- **There is a payload** unless the template is empty or exactly one row is live, and it carries the
live texts. -/
theorem build_iff (s : Session) :
    (build s = .error .emptyTemplate ↔ s.template = "") ∧
    (build s = .error .notEnoughRows ↔ s.template ≠ "" ∧ s.liveRows.length = 1) ∧
    ((∃ p, build s = .ok p ∧ p.Carries s) ↔ s.template ≠ "" ∧ s.liveRows.length ≠ 1) := by
  by_cases htemplate : s.template = ""
  · have hempty : build s = .error .emptyTemplate := by simp [build, htemplate]
    simp [hempty, htemplate]
  · by_cases hrows : s.liveRows.length = 1
    · have hcount : (charLines (dataText s.editor.data.toList)).length = 1 := by
        rwa [length_charLines_dataText]
      have hfew : build s = .error .notEnoughRows := by simp [build, htemplate, hcount]
      simp [hfew, htemplate, hrows]
    · obtain ⟨p, hbuilt, hcarries⟩ := exists_carries htemplate hrows
      simp [hbuilt, htemplate, hrows, hcarries]

end RenderPayload

end TemplateShare
