import TemplateShare.DocumentId
import TemplateShare.Proofs.RemoteDocument
import TemplateShare.Proofs.Yaml.Scalar
import TemplateShare.WorkingCopy

/-! # Links of working copies

The link of a working copy as a laid out mapping, and what is read of it. What is written of a record
is read as the record wherever its texts read back, as ids, hashes and times do.

* **`SyncRecord.Sound`**, **`SyncRecord.Legible`** — records that a store gives, and records that can be
  written.
* **`WorkingCopy.linkEntries`** — the entries of a link.
* **`WorkingCopy.linkBlock_chars`**, **`WorkingCopy.linkEntries_fits`** — the block is made of them, and
  they read as they are said to.
* **`WorkingCopy.readLink_linkEntries`** — what is read of them. -/

namespace TemplateShare

open Yaml Scanner

/-! ## Visible texts -/

/-- Ids are visible texts. -/
theorem DocumentId.isVisible {id : String} (h : isValid id = true) :
    id.toList ≠ [] ∧ ∀ x ∈ id.toList, Scalar.IsVisible x := by
  simp only [isValid, Bool.and_eq_true, Bool.not_eq_true', List.isEmpty_eq_false_iff,
    List.all_eq_true] at h
  refine ⟨h.1.1, fun x hx => ?_⟩
  have hchar := h.2 x hx
  simp only [isIdChar, Bool.or_eq_true, beq_iff_eq] at hchar
  rcases hchar with (hchar | rfl) | rfl
  · exact .of_isNameChar (.inl hchar)
  · decide
  · decide

/-- Hashes are visible texts. -/
theorem IsHashText.isVisible {s : String} (h : IsHashText s) :
    ∀ x ∈ s.toList, Scalar.IsVisible x := fun x hx => .of_isNameChar (h.2 x hx)

/-- Hashes read back. -/
theorem IsHashText.readsBack {s : String} (h : IsHashText s) : Scalar.ReadsBack s :=
  Scalar.readsBack_visible h.1 h.isVisible

/-- Padded numbers are visible texts. -/
theorem Decimal.isVisible_padded {width n : Nat} : ∀ x ∈ padded width n, Scalar.IsVisible x := by
  intro x hx
  rw [padded, List.mem_append] at hx
  rcases hx with hx | hx
  · rw [(List.mem_replicate.1 hx).2]
    decide
  · refine .of_isNameChar (.inl ?_)
    rw [Char.isAlphanum, isDigit_of_mem_digits hx, Bool.or_true]

namespace Instant

/-- The year is a visible text. -/
theorem isVisible_yearText (y : Int) : ∀ x ∈ yearText y, Scalar.IsVisible x := by
  intro x hx
  unfold yearText at hx
  split at hx
  · exact Decimal.isVisible_padded x hx
  · rw [List.mem_cons] at hx
    rcases hx with rfl | hx
    · split <;> decide
    · exact Decimal.isVisible_padded x hx

/-- The fraction of a second is a visible text. -/
theorem isVisible_fractionText (n : Nat) : ∀ x ∈ fractionText n, Scalar.IsVisible x := by
  intro x hx
  unfold fractionText at hx
  split at hx
  · cases hx
  · split at hx
    · exact (List.mem_cons.1 hx).elim (fun h => h ▸ by decide) (Decimal.isVisible_padded x)
    · split at hx
      · exact (List.mem_cons.1 hx).elim (fun h => h ▸ by decide) (Decimal.isVisible_padded x)
      · exact (List.mem_cons.1 hx).elim (fun h => h ▸ by decide) (Decimal.isVisible_padded x)

/-- **A time is written as a visible text.** -/
theorem isVisible_render (t : Instant) :
    t.render.toList ≠ [] ∧ ∀ x ∈ t.render.toList, Scalar.IsVisible x := by
  unfold render
  rw [String.toList_ofList]
  refine ⟨by simp, fun x hx => ?_⟩
  simp only [List.append_assoc, List.mem_append, List.mem_cons, List.cons_append,
    List.not_mem_nil, or_false] at hx
  have hmark : ∀ y ∈ ['-', 'T', ':', 'Z'], Scalar.IsVisible y := by decide
  rcases hx with hx | rfl | hx | rfl | hx | rfl | hx | rfl | hx | rfl | hx | hx | rfl
  · exact isVisible_yearText _ x hx
  · exact hmark _ (by decide)
  · exact Decimal.isVisible_padded x hx
  · exact hmark _ (by decide)
  · exact Decimal.isVisible_padded x hx
  · exact hmark _ (by decide)
  · exact Decimal.isVisible_padded x hx
  · exact hmark _ (by decide)
  · exact Decimal.isVisible_padded x hx
  · exact hmark _ (by decide)
  · exact Decimal.isVisible_padded x hx
  · exact isVisible_fractionText _ x hx
  · exact hmark _ (by decide)

end Instant

/-! ## Copies that a store gives -/

/-- **A record of a copy in a store**: a valid id, a revision of 64 bits, and a hash for a hash. -/
structure SyncRecord.Sound (r : SyncRecord) : Prop where
  id : DocumentId.isValid r.id = true
  revision : r.revision < Nat.pow 2 64
  hash : ∀ h ∈ r.hash, IsHashText h

/-- **A record that can be written**: a revision of 64 bits, and texts that read back. -/
structure SyncRecord.Legible (r : SyncRecord) : Prop where
  id : Scalar.ReadsBack r.id
  revision : r.revision < Nat.pow 2 64
  hash : ∀ h ∈ r.hash, Scalar.ReadsBack h

/-- A record of a copy in a store can be written. -/
theorem SyncRecord.Sound.legible {r : SyncRecord} (h : r.Sound) : r.Legible where
  id := Scalar.readsBack_visible (DocumentId.isVisible h.id).1 (DocumentId.isVisible h.id).2
  revision := h.revision
  hash t ht := (h.hash t ht).readsBack

namespace WorkingCopy

/-! ## The layout of a link -/

/-- The entry of a text, in front of more entries. -/
def linkEntry (key value : String) (more : Entries) : Entries :=
  .cons (.word key) (.scalar (Scalar.written value)) 0 more

/-- The entry of a text, if there is one. -/
def optionalLinkEntry (key : String) (value : Option String) (more : Entries) : Entries :=
  match value with
  | none => more
  | some v => linkEntry key v more

/-- The word for a flag. -/
def flagWord (b : Bool) : String := if b then "true" else "false"

/-- **The entries of a link.** -/
def linkEntries (r : SyncRecord) (synced : String) : Entries :=
  linkEntry "id" r.id <|
    .cons (.word "revision") (.scalar (.digits r.revision)) 0 <|
      optionalLinkEntry "hash" r.hash <|
        .cons (.word "protected") (.scalar (.word (flagWord r.isProtected))) 0 <|
          optionalLinkEntry "updated" (r.updated.map Instant.render) <|
            linkEntry "synced" synced .nil

variable {r : SyncRecord} {s : String}

/-- The characters of a line of the link. -/
theorem toList_linkField (key value : String) : (linkField key value).toList =
    ' ' :: ' ' :: (key.toList ++ ':' :: ' ' :: (Yaml.Scalar.print 4 value).toList) := by
  have hstart : "  ".toList = [' ', ' '] := rfl
  have hcolon : ": ".toList = [':', ' '] := rfl
  simp only [linkField, String.toList_append, hstart, hcolon, List.append_assoc, List.cons_append,
    List.nil_append]

/-- The characters of the link, line by line. -/
theorem toList_linkBlock (r : SyncRecord) (synced : String) : (linkBlock r synced).toList =
    "link:\n".toList ++ ((linkField "id" r.id).toList ++
      (("  " ++ "revision" ++ ": " ++ toString r.revision ++ "\n").toList ++
        ((optionalLinkField "hash" r.hash).toList ++
          (("  " ++ "protected" ++ ": " ++ flagWord r.isProtected ++ "\n").toList ++
            ((optionalLinkField "updated" (r.updated.map Instant.render)).toList ++
              (linkField "synced" synced).toList))))) := by
  have hrevision : "  revision: ".toList = "  ".toList ++ ("revision".toList ++ ": ".toList) := rfl
  have hprotected : "  protected: ".toList = "  ".toList ++ ("protected".toList ++ ": ".toList) :=
    rfl
  delta linkBlock
  simp only [flagWord, String.toList_append, List.append_assoc, hrevision, hprotected]

/-- A line of the link is an entry. -/
theorem linkField_chars (key : String) {value : String} (h : Scalar.ReadsBack value)
    {more : Entries} {r t : List Char} (hmore : '\n' :: r = more.chars 2 ++ t) :
    '\n' :: ((linkField key value).toList ++ r) = (linkEntry key value more).chars 2 ++ t := by
  have hcolumn : List.replicate 2 ' ' = [' ', ' '] := rfl
  rw [linkEntry, Entries.chars, Layout.chars, toList_linkField, h.print]
  simp only [List.append_assoc, List.cons_append, List.replicate_zero, List.nil_append, Written.word,
    hcolumn]
  rw [← hmore]

/-- A line that may be missing is an entry that may be missing. -/
theorem optionalLinkField_chars (key : String) {value : Option String}
    (h : ∀ v ∈ value, Scalar.ReadsBack v) {more : Entries} {r t : List Char}
    (hmore : '\n' :: r = more.chars 2 ++ t) :
    '\n' :: ((optionalLinkField key value).toList ++ r) =
      (optionalLinkEntry key value more).chars 2 ++ t := by
  cases value with
  | none => exact hmore
  | some v => exact linkField_chars key (h v rfl) hmore

/-- A line with a plain word is an entry. -/
theorem wordLine_chars (key word : String) {more : Entries} {r t : List Char}
    (hmore : '\n' :: r = more.chars 2 ++ t) :
    '\n' :: (("  " ++ key ++ ": " ++ word ++ "\n").toList ++ r) =
      (Entries.cons (.word key) (.scalar (.word word)) 0 more).chars 2 ++ t := by
  have hstart : "  ".toList = [' ', ' '] := rfl
  have hcolon : ": ".toList = [':', ' '] := rfl
  have hend : "\n".toList = ['\n'] := rfl
  have hcolumn : List.replicate 2 ' ' = [' ', ' '] := rfl
  rw [Entries.chars, Layout.chars]
  simp only [String.toList_append, hstart, hcolon, hend, hcolumn, List.append_assoc,
    List.cons_append, List.replicate_zero, List.nil_append, Written.word]
  rw [← hmore]

/-- Times read back. -/
theorem readsBack_updated (t : Option Instant) :
    ∀ v ∈ t.map Instant.render, Scalar.ReadsBack v := by
  intro v hv
  obtain ⟨t, -, rfl⟩ := Option.map_eq_some_iff.1 hv
  exact Scalar.readsBack_visible t.isVisible_render.1 t.isVisible_render.2

/-- **The link block is made of entries.** -/
theorem linkBlock_chars (hr : r.Legible) (hs : Scalar.ReadsBack s) :
    '\n' :: (linkBlock r s).toList =
      (Entries.cons (.word "link") (.block 2 (linkEntries r s)) 0 .nil).chars 0 ++ ['\n'] := by
  -- The lines are taken from the last one up, as each entry stands in front of the rest.
  have hlast := linkField_chars "synced" hs (Portable.nil_chars 2 [])
  have hupdated := optionalLinkField_chars "updated" (readsBack_updated r.updated) hlast
  have hprotected := wordLine_chars "protected" (flagWord r.isProtected) hupdated
  have hhash := optionalLinkField_chars "hash" hr.hash hprotected
  have hrevision := wordLine_chars "revision" (toString r.revision) hhash
  have hword : Written.word (toString r.revision) = .digits r.revision := by
    rw [Written.word, Written.digits, Nat.toString_eq_repr, Nat.toList_repr]
  rw [hword] at hrevision
  have hid := linkField_chars "id" hr.id hrevision
  have hlink : "link:\n".toList = (Written.word "link").chars ++ [':', '\n'] := rfl
  rw [Entries.chars, Layout.chars, Entries.chars, linkEntries, toList_linkBlock, hlink]
  simp only [List.append_assoc, List.cons_append, List.replicate_zero, List.nil_append]
  rw [← hid, List.append_nil]

/-! ## It reads as it is said to -/

/-- A text that reads back does so in a link. -/
theorem linkEntry_fits {key value : String} (hne : key.toList ≠ [])
    (hkey : ∀ x ∈ key.toList, IsNameChar x) (hvalue : Scalar.ReadsBack value) {more : Entries}
    (hmore : more.Fits 2) : (linkEntry key value more).Fits 2 := by
  rw [linkEntry, Entries.Fits, Layout.Fits]
  exact ⟨isKey_name hne hkey 2, hvalue.value, hmore⟩

/-- So does a text that may be missing. -/
theorem optionalLinkEntry_fits {key : String} {value : Option String} (hne : key.toList ≠ [])
    (hkey : ∀ x ∈ key.toList, IsNameChar x) (hvalue : ∀ v ∈ value, Scalar.ReadsBack v)
    {more : Entries} (hmore : more.Fits 2) : (optionalLinkEntry key value more).Fits 2 := by
  cases value with
  | none => exact hmore
  | some v => exact linkEntry_fits hne hkey (hvalue v rfl) hmore

/-- **The entries of a link read as they are said to.** -/
theorem linkEntries_fits (hr : r.Legible) (hs : Scalar.ReadsBack s) :
    (linkEntries r s).Fits 2 := by
  have hlast : (linkEntry "synced" s .nil).Fits 2 :=
    linkEntry_fits (by decide) (by decide) hs (by rw [Entries.Fits]; trivial)
  have hupdated : (optionalLinkEntry "updated" (r.updated.map Instant.render)
      (linkEntry "synced" s .nil)).Fits 2 :=
    optionalLinkEntry_fits (by decide) (by decide) (readsBack_updated r.updated) hlast
  have hflag (b : Bool) : IsValue 2 (Written.word (flagWord b)).chars (Written.word (flagWord b)).style
      (Written.word (flagWord b)).text := by
    have hname : ∀ x ∈ (flagWord b).toList, IsNameChar x := by cases b <;> decide
    have hne : (flagWord b).toList ≠ [] := by cases b <;> decide
    exact isValue_word (isWordScalar_name hne hname) (head?_name hname) 2
  unfold linkEntries
  refine linkEntry_fits (by decide) (by decide) hr.id ?_
  rw [Entries.Fits, Layout.Fits]
  refine ⟨isKey_name (by decide) (by decide) 2, isValue_digits 2 r.revision, ?_⟩
  refine optionalLinkEntry_fits (by decide) (by decide) hr.hash ?_
  rw [Entries.Fits, Layout.Fits]
  exact ⟨isKey_name (by decide) (by decide) 2, hflag r.isProtected, hupdated⟩

/-! ## It can be read -/

/-- A line of the link is admissible. -/
theorem all_isAdmissible_linkField {key value : String} (hkey : key.toList.all isAdmissible = true)
    (h : Scalar.ReadsBack value) :
    (linkField key value).toList.all isAdmissible = true := by
  have hstart : "  ".toList.all isAdmissible = true := by decide
  have hcolon : ": ".toList.all isAdmissible = true := by decide
  have hend : ['\n'].all isAdmissible = true := by decide
  simp only [linkField, String.toList_append, List.all_append, h.print, hkey, hstart, hcolon, hend,
    h.admissible, Bool.and_self]

/-- A line that may be missing is admissible. -/
theorem all_isAdmissible_optionalLinkField {key : String} {value : Option String}
    (hkey : key.toList.all isAdmissible = true) (h : ∀ v ∈ value, Scalar.ReadsBack v) :
    (optionalLinkField key value).toList.all isAdmissible = true := by
  cases value with
  | none => rfl
  | some v => exact all_isAdmissible_linkField hkey (h v rfl)

/-- A line with a plain word is admissible, if the word is. -/
theorem all_isAdmissible_wordLine {key word : String} (hkey : key.toList.all isAdmissible = true)
    (hword : word.toList.all isAdmissible = true) :
    ("  " ++ key ++ ": " ++ word ++ "\n").toList.all isAdmissible = true := by
  have hstart : "  ".toList.all isAdmissible = true := by decide
  have hcolon : ": ".toList.all isAdmissible = true := by decide
  have hend : "\n".toList.all isAdmissible = true := by decide
  simp only [String.toList_append, List.all_append, hkey, hword, hstart, hcolon, hend, Bool.and_self]

/-- **A link has only admissible characters.** -/
theorem all_isAdmissible_linkBlock (hr : r.Legible) (hs : Scalar.ReadsBack s) :
    (linkBlock r s).toList.all isAdmissible = true := by
  have hflag : (flagWord r.isProtected).toList.all isAdmissible = true := by
    cases r.isProtected <;> decide
  have hlink : "link:\n".toList.all isAdmissible = true := by decide
  have hid : (linkField "id" r.id).toList.all isAdmissible = true :=
    all_isAdmissible_linkField (by decide) hr.id
  have hrevision :
      ("  " ++ "revision" ++ ": " ++ toString r.revision ++ "\n").toList.all isAdmissible = true :=
    all_isAdmissible_wordLine (by decide) (RemoteDocument.all_isAdmissible_toString r.revision)
  have hhash : (optionalLinkField "hash" r.hash).toList.all isAdmissible = true :=
    all_isAdmissible_optionalLinkField (by decide) hr.hash
  have hprotected :
      ("  " ++ "protected" ++ ": " ++ flagWord r.isProtected ++ "\n").toList.all isAdmissible =
        true :=
    all_isAdmissible_wordLine (by decide) hflag
  have hupdated : (optionalLinkField "updated" (r.updated.map Instant.render)).toList.all
      isAdmissible = true :=
    all_isAdmissible_optionalLinkField (by decide) (readsBack_updated r.updated)
  have hsynced : (linkField "synced" s).toList.all isAdmissible = true :=
    all_isAdmissible_linkField (by decide) hs
  rw [toList_linkBlock]
  simp only [List.all_append, hlink, hid, hrevision, hhash, hprotected, hupdated, hsynced,
    Bool.and_self]

/-- The keys of a link are short. -/
theorem linkEntries_short (r : SyncRecord) (s : String) : (linkEntries r s).Short := by
  have hentry {key : String} (hkey : key.toList.length ≤ 1024) (value : String) {more : Entries}
      (hmore : more.Short) : (linkEntry key value more).Short := by
    rw [linkEntry, Entries.short_cons, Layout.Short]
    exact ⟨hkey, trivial, hmore⟩
  have hoptional {key : String} (hkey : key.toList.length ≤ 1024) (value : Option String)
      {more : Entries} (hmore : more.Short) : (optionalLinkEntry key value more).Short := by
    cases value with
    | none => exact hmore
    | some v => exact hentry hkey v hmore
  unfold linkEntries
  refine hentry (by decide) r.id ?_
  rw [Entries.short_cons, Layout.Short]
  refine ⟨by decide, trivial, hoptional (by decide) r.hash ?_⟩
  rw [Entries.short_cons, Layout.Short]
  refine ⟨by decide, trivial, hoptional (by decide) _ (hentry (by decide) s ?_)⟩
  rw [Entries.Short]
  trivial

/-! ## Reading it back -/

/-- **What a reader makes of a time** that has been written, if it can be read. -/
def rereadTime : Option Instant → Option (Option Instant)
  | none => some none
  | some t => (Instant.parse t.render).map some

/-- **The values of a link** as a reader sees them. -/
def linkValues (r : SyncRecord) : List (String × Value) :=
  [("id", .text r.id.toList), ("revision", .integer r.revision)] ++
    (r.hash.map fun h => ("hash", Value.text h.toList)).toList ++
    [("protected", .flag r.isProtected)] ++
    (r.updated.map fun t => ("updated", Value.text t.render.toList)).toList

/-- The values of a link are read. -/
theorem mapM_linkEntries (d : Document) (hr : r.Legible) (s : String) :
    (((linkEntries r s).fields.filter (·.1 != "synced")).mapM fun (k, v) => do
      return (k, ← d.value .field 2 v)) = (.ok (linkValues r) : Except Yaml.Error _) := by
  have hvalue (v : String) :
      d.value .field 2 (Layout.scalar (Scalar.written v)).node = .ok (.text v.toList) := by
    rw [Layout.node]
    exact d.value_written .field 2 v
  have hrevision : d.value .field 2 (Layout.scalar (.digits r.revision)).node =
      .ok (.integer r.revision) := by
    rw [Layout.node, d.value_node]
    show plainValue (Nat.toDigits 10 r.revision) = _
    rw [plainValue, Plain.resolve_digits hr.revision]
  have hflag : d.value .field 2 (Layout.scalar (.word (flagWord r.isProtected))).node =
      .ok (.flag r.isProtected) := by
    rw [Layout.node, d.value_node]
    cases r.isProtected <;> rfl
  obtain ⟨id, revision, hash, isProtected, updated⟩ := r
  -- Hash and time may be missing, so there are four links to go through.
  unfold linkValues linkEntries
  cases hash with
  | none =>
    cases updated <;>
      simp_all [linkEntry, optionalLinkEntry, pure, Except.pure, bind, Except.bind]
  | some h =>
    cases updated <;>
      simp_all [linkEntry, optionalLinkEntry, pure, Except.pure, bind, Except.bind]

/-- The id is read. -/
theorem textField_linkValues (r : SyncRecord) : textField (linkValues r) "id" = .ok r.id := by
  obtain ⟨id, revision, hash, isProtected, updated⟩ := r
  cases hash <;> cases updated <;> simp [linkValues, textField, field, field?, bind, Except.bind]

/-- The revision is read, being one of 64 bits. -/
theorem revisionField_linkValues (h : r.revision < Nat.pow 2 64) :
    revisionField (linkValues r) = .ok r.revision := by
  have hfield : field (linkValues r) "revision" = .ok (.integer r.revision) := by
    obtain ⟨id, revision, hash, isProtected, updated⟩ := r
    cases hash <;> cases updated <;> simp [linkValues, field, field?, bind, Except.bind]
  refine Except.bind_eq_ok.2 ⟨_, hfield, ?_⟩
  split
  · next i hi =>
    obtain rfl := Value.integer.inj hi
    rw [if_pos ⟨Int.natCast_nonneg _, Int.ofNat_lt.2 h⟩, Int.toNat_natCast]
  · next hne => exact absurd rfl (hne _)

/-- The hash is read, if there is one. -/
theorem hashField_linkValues (r : SyncRecord) : textField? (linkValues r) "hash" = .ok r.hash := by
  obtain ⟨id, revision, hash, isProtected, updated⟩ := r
  cases hash <;> cases updated <;> simp [linkValues, textField?, field?, bind, Except.bind]

/-- The flag is read. -/
theorem protectedField_linkValues (r : SyncRecord) :
    protectedField (linkValues r) = .ok r.isProtected := by
  obtain ⟨id, revision, hash, isProtected, updated⟩ := r
  cases hash <;> cases updated <;> simp [linkValues, protectedField, field?, bind, Except.bind]

/-- The time is read as a reader reads times. -/
theorem updatedField_linkValues (r : SyncRecord) : updatedField (linkValues r) =
    match rereadTime r.updated with
    | some t => .ok t
    | none => .error .shape := by
  obtain ⟨id, revision, hash, isProtected, updated⟩ := r
  cases hash <;> cases updated with
  | none => simp [linkValues, updatedField, textField?, field?, rereadTime, bind, Except.bind]
  | some t =>
    cases hparse : Instant.parse t.render <;>
      simp [linkValues, updatedField, textField?, field?, rereadTime, bind, Except.bind, hparse]

/-- The text last in step is among the fields of a link. -/
theorem field_linkEntries (r : SyncRecord) (s : String) : field (linkEntries r s).fields "synced" =
    .ok (Layout.scalar (Scalar.written s)).node := by
  obtain ⟨id, revision, hash, isProtected, updated⟩ := r
  cases hash <;> cases updated <;>
    simp [linkEntries, linkEntry, optionalLinkEntry, field, field?, bind, Except.bind]

/-- **A link is read back**, if its time can be. -/
theorem readLink_linkEntries (d : Document) (hr : r.Legible) (s : String) :
    readLink d (Layout.block 2 (linkEntries r s)).node =
      match rereadTime r.updated with
      | some t => .ok ({ r with updated := t }, s)
      | none => .error .shape := by
  have htext : d.text (Layout.scalar (Scalar.written s)).node = .ok s := by
    rw [Layout.node, d.text_node, Scalar.text_written, String.ofList_toList]
  unfold readLink
  rw [d.entries_node]
  show (Except.bind (List.mapM _ _) _ : Except Yaml.Error _) = _
  rw [mapM_linkEntries d hr s]
  simp only [bind, Except.bind, field_linkEntries, textField_linkValues,
    revisionField_linkValues hr.revision, hashField_linkValues, protectedField_linkValues,
    updatedField_linkValues]
  -- Only the time may fail to be read.
  cases rereadTime r.updated with
  | none => rfl
  | some t =>
    simp only [htext]
    rfl

end WorkingCopy

end TemplateShare
