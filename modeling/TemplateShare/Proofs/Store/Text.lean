import Mathlib.Data.List.Basic
import TemplateShare.Proofs.Core
import TemplateShare.Proofs.Portable.Unique
import TemplateShare.Proofs.RemoteDocument
import TemplateShare.Proofs.Text.Lines
import TemplateShare.Store

/-! # The text of a stored document

The store keeps a document as text. It finds the hash in it by its key, and raises the revision by
replacing the line that names it. Both look for what the store has written itself, in a text that
users have filled: whatever they write, it stands on lines that begin with a blank, so no line of
theirs is taken for one of the store.

* **`Portable.body_lines`** — the lines of a document.
* **`RemoteDocument.namedHash_print`** — the hash that a text names is the one it was written with.
* **`RemoteDocument.revise_print`** — a text that is changed where its revision stands is the text that
  is written for the other revision.
* **`Store.Document.Holds`** — a document whose text is that of a template.
* **`Store.Document.holds_write`**, **`Store.Document.Holds.raise`** — as it is written, and when its
  revision is raised.
* **`Store.Document.Holds.core_eq`** — a document holds one template, up to what a file keeps. -/

namespace TemplateShare

/-! ## Lines of a portable document -/

namespace Portable

/-- **Lines of a text**, each of them ended, that are empty or begin with a blank. -/
def IsNested (s : List Char) : Prop :=
  ∃ ls : List (List Char), s = ls.flatMap (· ++ ['\n']) ∧
    ∀ l ∈ ls, '\n' ∉ l ∧ ∀ c ∈ l.head?, c = ' '

/-- Lines follow on lines. -/
theorem IsNested.append {s t : List Char} (hs : IsNested s) (ht : IsNested t) : IsNested (s ++ t) := by
  obtain ⟨ls, rfl, hls⟩ := hs
  obtain ⟨ms, rfl, hms⟩ := ht
  exact ⟨ls ++ ms, List.flatMap_append.symm, fun l hl => (List.mem_append.1 hl).elim (hls l) (hms l)⟩

/-- No lines are nested. -/
theorem isNested_nil : IsNested [] := ⟨[], rfl, fun _ hl => absurd hl List.not_mem_nil⟩

/-- Lines of parts are lines. -/
theorem isNested_flatMap {α : Type} {f : α → List Char} {xs : List α} (h : ∀ x ∈ xs, IsNested (f x)) :
    IsNested (xs.flatMap f) := by
  induction xs with
  | nil => exact isNested_nil
  | cons x xs ih =>
    rw [List.flatMap_cons]
    exact (h x List.mem_cons_self).append (ih fun y hy => h y (List.mem_cons_of_mem x hy))

/-- One line. -/
theorem isNested_line {l : List Char} (h : '\n' ∉ l) (hblank : ∀ c ∈ l.head?, c = ' ') :
    IsNested (l ++ ['\n']) := by
  refine ⟨[l], (List.append_nil _).symm, fun m hm => ?_⟩
  rw [List.mem_singleton.1 hm]
  exact ⟨h, hblank⟩

/-- An indented line. -/
theorem isNested_indented {n : Nat} {l : List Char} (h : '\n' ∉ l) :
    IsNested (blanks (n + 1) ++ l ++ ['\n']) := by
  refine isNested_line ?_ ?_
  · simp [blanks, h]
  · simp [blanks, List.replicate_succ]

/-- A number has no line feeds. -/
theorem break_notMem_upper (width n : Nat) : '\n' ∉ Hex.upper width n := by
  induction width generalizing n with
  | zero => exact List.not_mem_nil
  | succ width ih =>
    rw [Hex.upper, List.mem_append, List.mem_singleton, not_or]
    have hdigit := (by decide : ∀ k < 16, '\n' ≠ Hex.upperDigit k) _ (Nat.mod_lt n (by decide))
    exact ⟨ih _, hdigit⟩

/-- A text in quotes is on one line. -/
theorem break_notMem_quoted (s : List Char) : '\n' ∉ quoted s := by
  have hchar (c : Char) : '\n' ∉ quotedChar c := by
    obtain ⟨x, hx, hc, -⟩ | ⟨-, hc⟩ | ⟨-, hself, hc⟩ := quotedChar_cases c
    · have hletter := (by decide : ∀ x ∈ ['"', '\\', 'n', 'r', 't'], '\n' ≠ x) x hx
      simpa [hc] using hletter
    · simpa [hc] using break_notMem_upper 4 c.toNat
    · rw [hc]
      intro hmem
      obtain rfl := List.mem_singleton.1 hmem
      exact hself (by decide)
  simp [quoted, hchar]

/-- **A text under its key is nested**, whatever the text is. -/
theorem isNested_field {key : List Char} (hkey : '\n' ∉ key) (indent : Nat) (text : String) :
    IsNested (field .plain key (indent + 1) text) := by
  obtain h | ⟨hlines, -, h⟩ := field_layout key (indent + 1) text
  · rw [h]
    have hquoted := break_notMem_quoted (Text.dropSpaceEnd text.toList)
    have hline := isNested_indented (n := indent)
      (l := key ++ [':', ' '] ++ quoted (Text.dropSpaceEnd text.toList)) (by simp [hkey, hquoted])
    simpa using hline
  · rw [h]
    have hfirst := isNested_indented (n := indent) (l := key ++ [':', ' ', '|', '2']) (by simp [hkey])
    have hblock : IsNested ((Text.charLines (Text.dropSpaceEnd text.toList)).flatMap
        (blockLine .plain (indent + 1 + 2))) := by
      refine isNested_flatMap fun l hl => ?_
      exact isNested_indented fun hmem => absurd (hlines.line l hl _ hmem) (by decide)
    simpa using hfirst.append hblock

/-- The data and variables of a dataset are nested. -/
theorem isNested_buffers (indent : Nat) (b : Buffers) : IsNested (buffers .plain (indent + 1) b) := by
  have hempty : IsNested ['\n'] := isNested_line (l := []) (by simp) (by simp)
  exact (((isNested_field (by decide) indent b.data).append hempty).append
    (isNested_field (by decide) indent b.vars)).append hempty

/-- A dataset is nested under its name, which is valid. -/
theorem isNested_dataset {d : Dataset} (h : Dataset.isValidName d.name = true) :
    IsNested (dataset .plain d) := by
  have hname : '\n' ∉ d.name.toList := by
    intro hmem
    rcases mem_of_isValidName h _ hmem with h | h | h | h <;> exact absurd h (by decide)
  have hline := isNested_indented (n := 3) (l := '"' :: (d.name.toList ++ ['"', ':'])) (by simp [hname])
  simpa [dataset] using hline.append (isNested_buffers 5 d.buffers)

/-- **The lines of a document** are the two that every document has, and nested ones. -/
theorem body_lines {dt : DataTemplate} (h : dt.registry.WellFormed) :
    ∃ s, body .plain dt = marker.toList ++ s ∧ IsNested s := by
  have htemplate : IsNested (field .plain "template".toList 2 dt.template) :=
    isNested_field (by decide) 1 dt.template
  refine ⟨_, List.append_assoc .., IsNested.append ?_ htemplate⟩
  split
  · exact isNested_buffers 1 dt.activeBuffers
  · refine (isNested_line (l := "  datasets:".toList) (by decide) (by simp)).append ?_
    exact isNested_flatMap fun d hd => isNested_dataset (h.1 d.name (List.mem_map_of_mem hd))

end Portable

namespace RemoteDocument

open Text (dropReturn charLines stripChar replaceFirst)

/-! ## Lines of the store -/

/-- The first character of a line is still there without the carriage return at its end. -/
theorem head?_dropReturn {l : List Char} {c : Char} (h : c ∈ (dropReturn l).head?) :
    c ∈ l.head? := by
  unfold dropReturn at h
  split at h
  · cases l with
    | nil => cases h
    | cons x l =>
      cases l with
      | nil => cases h
      | cons y l => simpa [List.dropLast] using h
  · exact h

/-- Only a line that begins with the key names a hash. -/
theorem isPrefixOf?_hashKey {l : List Char} (h : 'd' ∉ l.head?) :
    hashKey.toList.isPrefixOf? (dropReturn l) = none := by
  refine Option.eq_none_iff_forall_ne_some.2 fun t ht => h (head?_dropReturn ?_)
  rw [← List.isPrefixOf?_eq_some_iff_append_eq.1 ht]
  rfl

/-- **No line of a document is one of the store**: none begins like the line of a revision, and none
names a hash. -/
theorem body_ended {dt : DataTemplate} (h : dt.registry.WellFormed) :
    ∃ ls : List (List Char), Portable.body .plain dt = ls.flatMap (· ++ ['\n']) ∧
      ∀ l ∈ ls, ('\n' ∉ l ∧ l.head? ≠ some 'r') ∧
        hashKey.toList.isPrefixOf? (dropReturn l) = none := by
  obtain ⟨-, hbody, ls, rfl, hls⟩ := Portable.body_lines h
  refine ⟨"---".toList :: "dt:".toList :: ls, hbody, ?_⟩
  rintro l (_ | ⟨_, _ | ⟨_, hl⟩⟩)
  · exact ⟨⟨by decide, by decide⟩, rfl⟩
  · exact ⟨⟨by decide, by decide⟩, rfl⟩
  · obtain ⟨hbreak, hblank⟩ := hls l hl
    refine ⟨⟨hbreak, fun hr => ?_⟩, isPrefixOf?_hashKey fun hd => ?_⟩
    · exact absurd (hblank 'r' hr) (by decide)
    · exact absurd (hblank 'd' hd) (by decide)

variable {dt : DataTemplate} {revision : Nat} {hash : String} {openHash modifyHash : Option String}
  {clock : Int}

/-- A hash is what its quotes are stripped off. -/
theorem stripChar_quoted (h : IsHashText hash) :
    stripChar '"' ('"' :: (hash.toList ++ ['"'])) = hash.toList := by
  have hquote : '"' ∉ hash.toList := fun hmem => absurd (h.2 _ hmem) (by decide)
  -- Nothing more is stripped off in front of what begins with another character.
  have hdrop {s t : List Char} (hs : '"' ∉ s) (hne : s ≠ []) :
      ('"' :: (s ++ t)).dropWhile (· == '"') = s ++ t := by
    obtain ⟨c, s, rfl⟩ := List.exists_cons_of_ne_nil hne
    have hc : c ≠ '"' := fun hc => hs (hc ▸ List.mem_cons_self)
    rw [List.dropWhile_cons_of_pos (by simp), List.cons_append, List.dropWhile_cons_of_neg (by simpa)]
  have hback := hdrop (t := []) (s := hash.toList.reverse) (by simpa using hquote) (by simpa using h.1)
  rw [stripChar, hdrop hquote h.1, List.reverse_append, List.reverse_singleton, List.singleton_append]
  simpa using congrArg List.reverse hback

/-- The digits of a number have no line feeds. -/
theorem break_notMem_toString (n : Nat) : '\n' ∉ (toString n).toList := by
  rw [Nat.toString_eq_repr, Nat.toList_repr]
  intro hmem
  exact absurd (Decimal.isDigit_of_mem_digits hmem) (by decide)

/-- **The text of a document**, part by part: only one of them depends on the revision. -/
theorem toList_print (dt : DataTemplate) (revision : Nat) (hash : String)
    (openHash modifyHash : Option String) (clock : Int) :
    (print dt revision hash openHash modifyHash clock).toList =
      Portable.body .plain dt ++ ((revisionLine revision).toList ++
        ((quotedLine "dt_hash" hash).toList ++
          (optionalLine "dt_password" openHash ++ optionalLine "dt_mpassword" modifyHash ++
            quotedLine "updated" (toString clock)).toList)) := by
  simp only [print, hashedPart, String.toList_append, String.toList_ofList, List.append_assoc]

/-- **A text names the hash of its first line with the key**, behind lines without it. -/
theorem namedHash_ended {text : String} (ls : List (List Char)) (rest : List Char)
    (hls : ∀ l ∈ ls, '\n' ∉ l ∧ hashKey.toList.isPrefixOf? (dropReturn l) = none)
    (hhash : IsHashText hash)
    (htext : text.toList = ls.flatMap (· ++ ['\n']) ++
      ((hashKey.toList ++ '"' :: (hash.toList ++ ['"'])) ++ '\n' :: rest)) :
    namedHash text = hash := by
  have hline : '\n' ∉ hashKey.toList ++ '"' :: (hash.toList ++ ['"']) := by
    have hbreak : '\n' ∉ hash.toList := fun hmem => absurd (hhash.2 _ hmem) (by decide)
    simp [hashKey, hbreak]
  have hend : dropReturn (hashKey.toList ++ '"' :: (hash.toList ++ ['"'])) =
      hashKey.toList ++ '"' :: (hash.toList ++ ['"']) := by
    refine if_neg ?_
    rw [← List.cons_append, ← List.append_assoc, List.getLast?_concat]
    decide
  have hnone : (ls.map dropReturn).findSome? hashKey.toList.isPrefixOf? = none := by
    rw [List.findSome?_map, List.findSome?_eq_none_iff]
    exact fun l hl => (hls l hl).2
  have hfound : hashKey.toList.isPrefixOf? (hashKey.toList ++ '"' :: (hash.toList ++ ['"'])) =
      some ('"' :: (hash.toList ++ ['"'])) := rfl
  rw [namedHash, htext, Text.charLines_ended fun l hl => (hls l hl).1, Text.charLines_line hline,
    hend, List.findSome?_append, hnone, List.findSome?_cons, hfound]
  show String.ofList (stripChar '"' ('"' :: (hash.toList ++ ['"']))) = hash
  rw [stripChar_quoted hhash, String.ofList_toList]

/-- **A text names the hash that it was written with.** No text of the document is taken for it. -/
theorem namedHash_print (hdt : dt.registry.WellFormed) (hhash : IsHashText hash) :
    namedHash (print dt revision hash openHash modifyHash clock) = hash := by
  obtain ⟨ls, hbody, hls⟩ := body_ended hdt
  have hrevision := break_notMem_toString revision
  -- The empty line and the line of the revision name no hash either.
  refine namedHash_ended (ls ++ [[], "revision: ".toList ++ (toString revision).toList])
    (optionalLine "dt_password" openHash ++ optionalLine "dt_mpassword" modifyHash ++
      quotedLine "updated" (toString clock)).toList (fun l hl => ?_) hhash ?_
  · rcases List.mem_append.1 hl with hl | hl
    · exact ⟨(hls l hl).1.1, (hls l hl).2⟩
    · simp only [List.mem_cons, List.not_mem_nil, or_false] at hl
      rcases hl with rfl | rfl
      · exact ⟨by decide, rfl⟩
      · exact ⟨by simpa using hrevision, isPrefixOf?_hashKey (by simp)⟩
  · rw [toList_print, hbody]
    simp [revisionLine, quotedLine, hashKey]

/-- **A text whose revision is changed where it stands** is the text that is written for the new
revision with the same hash. No text of the document is changed instead. -/
theorem revise_print (hdt : dt.registry.WellFormed) (new : Nat) :
    revise revision new (print dt revision hash openHash modifyHash clock) =
      print dt new hash openHash modifyHash clock := by
  obtain ⟨ls, hbody, hls⟩ := body_ended hdt
  have hline (n : Nat) : (revisionLine n).toList =
      '\n' :: 'r' :: ("evision: ".toList ++ (toString n).toList ++ ['\n']) := by
    simp [revisionLine]
  rw [revise, toList_print, hbody, hline revision,
    Text.replaceFirst_ended (by decide) fun l hl => (hls l hl).1, ← hbody, ← toList_print,
    String.ofList_toList]

end RemoteDocument

/-! ## Documents of the store -/

namespace Store.Document

variable {d : Document} {dt : DataTemplate}

/-- **A document holds a template**: its text is that of the template, with the revision and the
passwords that the store looks at and the hash that the text itself names. -/
structure Holds (d : Document) (dt : DataTemplate) : Prop where
  template : dt.registry.WellFormed
  text : ∃ clock,
    d.text = RemoteDocument.print dt d.revision d.hash d.openHash d.modifyHash clock
  hash : IsHashText d.hash
  openHash : ∀ h ∈ d.openHash, IsHashText h
  modifyHash : ∀ h ∈ d.modifyHash, IsHashText h

/-- **The hash of a document as it is written** is the hash of its text. -/
theorem hash_write (hdt : dt.registry.WellFormed) (env : Setting) (revision : Nat)
    (openHash modifyHash : Option String) :
    (write env dt revision openHash modifyHash).hash = RemoteDocument.hashOf dt revision :=
  RemoteDocument.namedHash_print hdt (Sha256.isHashText_hex _)

/-- **A document holds what it is written for.** -/
theorem holds_write (hdt : dt.registry.WellFormed) (env : Setting) (revision : Nat)
    {openHash modifyHash : Option String} (hopen : ∀ h ∈ openHash, IsHashText h)
    (hmodify : ∀ h ∈ modifyHash, IsHashText h) :
    (write env dt revision openHash modifyHash).Holds dt := by
  have hhash := hash_write hdt env revision openHash modifyHash
  refine ⟨hdt, ⟨env.clock, ?_⟩, ?_, hopen, hmodify⟩
  · rw [hhash]
    rfl
  · rw [hhash]
    exact Sha256.isHashText_hex _

/-- **What a document holds is settled by its text**, but for tabs in variables and template and for
white space at the ends of texts. -/
theorem Holds.core_eq {x : DataTemplate} (h : d.Holds dt) (hx : d.Holds x) : dt.core = x.core := by
  obtain ⟨clock, htext⟩ := h.text
  obtain ⟨clock', htext'⟩ := hx.text
  have hbody := congrArg String.toList (htext.symm.trans htext')
  rw [RemoteDocument.toList_print, RemoteDocument.toList_print] at hbody
  have houtside {t : List Char} :
      Portable.Outside ((RemoteDocument.revisionLine d.revision).toList ++ t) := by
    simp [Portable.Outside, RemoteDocument.revisionLine]
  rw [← dt.core_reloaded, ← x.core_reloaded, DataTemplate.reloaded_eq
    (Portable.body_append_inj h.template hx.template houtside houtside hbody)]

/-- The text of a document at its next revision. -/
theorem Holds.text_raise (h : d.Holds dt) : ∃ clock, d.raise.text =
    RemoteDocument.print dt (d.revision + 1) d.hash d.openHash d.modifyHash clock := by
  obtain ⟨clock, htext⟩ := h.text
  refine ⟨clock, ?_⟩
  rw [raise, htext]
  exact RemoteDocument.revise_print h.template (d.revision + 1)

/-- A document at its next revision names the hash that it named before. -/
theorem Holds.hash_raise (h : d.Holds dt) : d.raise.hash = d.hash := by
  obtain ⟨clock, htext⟩ := h.text_raise
  show RemoteDocument.namedHash d.raise.text = d.hash
  rw [htext]
  exact RemoteDocument.namedHash_print h.template h.hash

/-- **A document at its next revision holds what it held before.** -/
theorem Holds.raise (h : d.Holds dt) : d.raise.Holds dt := by
  obtain ⟨clock, htext⟩ := h.text_raise
  have hhash := h.hash_raise
  refine ⟨h.template, ⟨clock, ?_⟩, ?_, h.openHash, h.modifyHash⟩
  · rw [hhash]
    exact htext
  · rw [hhash]
    exact h.hash

end Store.Document

end TemplateShare
