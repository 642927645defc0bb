import TemplateShare.Proofs.Command.Careful
import TemplateShare.Proofs.Command.Run
import TemplateShare.Proofs.WorkingCopy
import TemplateShare.Proofs.Session.Clean
import TemplateShare.Proofs.Session.Notebook

/-! # Nothing is lost unasked

Commands that replace a file ask first where the file holds changes that the store does not have. A
user who declines keeps the file as it is, and nothing has been sent by then. What is no working copy
is not replaced at all.

* **`Command.Declining`** — a user who declines.
* **`Command.readCopy`**, **`Command.ends_openCopy_iff`** — what a file is read as.
* **`Command.ends_pull_declined_iff`**, **`Command.ends_openLink_declined_iff`**,
  **`Command.ends_paste_declined_iff`** — what is left of the commands then.
* **`Command.isBlank_of_removeDataset`** — only a blank dataset is removed without a question.
* **`Command.fails_of_replaces`** — what is no working copy is not replaced.
* **`Command.keeps_unpushed`** — nothing is lost unasked. -/

namespace TemplateShare

/-- A text without link has no checksum, and one with a link has both. -/
theorem WorkingCopy.isSome_synced_of_parse {text : String} {copy : WorkingCopy}
    (h : parse text = .ok copy) : copy.synced.isSome = copy.record.isSome := by
  obtain ⟨dt, -, h⟩ := Except.bind_eq_ok.1 h
  obtain ⟨link, -, h⟩ := Except.bind_eq_ok.1 h
  obtain rfl := Except.ok.inj h
  cases link <;> rfl

/-- The session of a working copy with changes has something to save. -/
theorem WorkingCopy.dirty_session {copy : WorkingCopy} (h : copy.isDirty = true) :
    copy.session.dirty = true := by
  unfold session
  cases copy.record with
  | none => rfl
  | some r => exact h

/-- The session of a working copy holds its document, as it is. -/
theorem WorkingCopy.snapshot_session (copy : WorkingCopy) : copy.session.snapshot = copy.template := by
  unfold session
  cases copy.record with
  | none => exact Session.snapshot_ofTemplate copy.template
  | some r => exact Session.snapshot_linked copy.template r _

/-- The session of a working copy has its link. -/
theorem WorkingCopy.syncRecord_session (copy : WorkingCopy) :
    copy.session.syncRecord = copy.record := by
  unfold session
  cases copy.record with
  | none => rfl
  | some r => simp [Session.linked, Session.syncRecord]

/-- The session of a working copy that has been read is well-formed. -/
theorem WorkingCopy.wellFormed_session {text : String} {copy : WorkingCopy}
    (h : parse text = .ok copy) : copy.session.WellFormed := by
  obtain ⟨dt, hdt, h⟩ := Except.bind_eq_ok.1 h
  obtain ⟨link, -, h⟩ := Except.bind_eq_ok.1 h
  obtain rfl := Except.ok.inj h
  obtain ⟨ds, hds⟩ := Portable.exists_ofDatasets_of_parse hdt
  cases link <;> exact Registry.wellFormed_of_ofDatasets hds

namespace Command

open Procedure

variable {agrees : String → Bool → Prop} {σ σ' : Surroundings} {path : String} {copy : WorkingCopy}

/-! ## What a file is read as -/

/-- **A user who declines** whenever they are asked to agree. -/
def Declining (_ : String) (answer : Bool) : Prop := answer = false

/-- **The working copy of a file that has been read**, or why there is none. -/
def readCopy (x : Except FileError Bytes) : Except Error WorkingCopy :=
  (textOf x).bind fun text => liftEncoding (WorkingCopy.parse text)

/-- A file is read as a working copy. -/
theorem readCopy_eq_ok_iff {x : Except FileError Bytes} :
    readCopy x = .ok copy ↔ copyOf? x = some copy := by
  rw [Knowledge.copyOf?_eq_some, readCopy]
  constructor
  · intro h
    obtain ⟨text, htext, hcopy⟩ := Except.bind_eq_ok.1 h
    exact ⟨text, htext, liftEncoding_eq_ok.1 hcopy⟩
  · rintro ⟨text, htext, hcopy⟩
    exact Except.bind_eq_ok.2 ⟨text, htext, liftEncoding_eq_ok.2 hcopy⟩

/-- A file that is there is looked at as it is opened. -/
theorem existingCopy_ok (content : Bytes) :
    existingCopy (.ok content) = (readCopy (.ok content)).map some := by
  rw [existingCopy, readCopy]
  cases textOf (.ok content) with
  | error e => rfl
  | ok text =>
    simp only [bind, Except.bind]
    cases liftEncoding (WorkingCopy.parse text) <;> rfl

/-- A working copy that is there is found. -/
theorem existingCopy_of_readCopy {x : Except FileError Bytes} (h : readCopy x = .ok copy) :
    existingCopy x = .ok (some copy) := by
  cases x with
  | error e => cases h
  | ok content =>
    rw [existingCopy_ok, h]
    rfl

/-- What is there and is no working copy is not opened. -/
theorem readCopy_of_existingCopy {x : Except FileError Bytes} {e : Error}
    (h : existingCopy x = .error e) : readCopy x = .error e := by
  cases x with
  | error fault =>
    rw [existingCopy] at h
    by_cases habsent : fault.isAbsence = true
    · rw [if_pos habsent] at h
      cases h
    · rw [if_neg habsent] at h
      exact congrArg Except.error (Except.error.inj h)
  | ok content =>
    rw [existingCopy_ok] at h
    cases hread : readCopy (.ok content) with
    | error e' =>
      rw [hread] at h
      exact congrArg Except.error (Except.error.inj h)
    | ok c =>
      rw [hread] at h
      cases h

/-- **A file that is opened** is read as a working copy. -/
theorem ends_openCopy_iff {r : Except Error (WorkingCopy × Session)} :
    Ends agrees σ (openCopy path) σ' r ↔
      σ' = σ ∧ r = (readCopy (σ.files.load path)).map fun copy => (copy, copy.session) := by
  have hopen : openCopy path = perform (load path) >>= fun x =>
      settle ((readCopy x).map fun copy => (copy, copy.session)) := by
    refine congrArg (Dialogue.loadFile path) (funext fun x => ?_)
    show ((settle (textOf x) >>= fun text => settle (liftEncoding (WorkingCopy.parse text))) >>=
      fun copy => pure (copy, copy.session) : Procedure _) = settle ((readCopy x).map _)
    unfold readCopy
    cases textOf x with
    | error e => rfl
    | ok text =>
      show (settle (liftEncoding (WorkingCopy.parse text)) >>= _ : Procedure _) =
        settle ((liftEncoding (WorkingCopy.parse text)).map _)
      cases liftEncoding (WorkingCopy.parse text) <;> rfl
  rw [hopen, ends_bind_iff]
  simp [ends_load_iff, ends_settle_iff]

/-! ## A user who declines -/

-- How links are read is of no interest here, and takes long to unfold.
attribute [local irreducible] Link.parse

section Declined

variable (hcopy : copyOf? (σ.files.load path) = some copy) (hdirty : copy.isDirty = true)
include hcopy hdirty

/-- Before a working copy with changes is replaced, the user is asked, and declines. -/
theorem ends_confirmReplace_declined_iff {r : Except Error Bool} :
    Ends Declining σ (confirmReplace path) σ' r ↔ σ' = σ ∧ r = .ok false := by
  have hfound := existingCopy_of_readCopy (readCopy_eq_ok_iff.2 hcopy)
  simp [confirmReplace, ends_bind_iff, ends_load_iff, ends_settle_iff, hfound, hdirty,
    ends_confirm_iff, Declining]

/-- **A document is not fetched** over changes that the user keeps. -/
theorem ends_pull_declined_iff {id : String} {r : Except Error Report} :
    Ends Declining σ (pull id path) σ' r ↔ σ' = σ ∧ r = .ok notLoaded := by
  rw [pull, ends_bind_iff]
  simp [ends_confirmReplace_declined_iff hcopy hdirty, ends_pure_iff]

/-- **A link is not opened** over changes that the user keeps. -/
theorem ends_openLink_declined_iff {link : String} {r : Except Error Report} :
    Ends Declining σ (openLink link path) σ' r ↔
      σ' = σ ∧ r = (Link.parse link).map fun _ => notLoaded := by
  rw [openLink, ends_bind_iff]
  cases Link.parse link with
  | error e => simp [ends_settle_iff, Except.map]
  | ok target =>
    simp only [ends_settle_iff, Except.map]
    cases target with
    | remote id =>
      simp [ends_pull_declined_iff hcopy hdirty]
    | inline dt =>
      simp [ends_bind_iff, ends_confirmReplace_declined_iff hcopy hdirty, ends_pure_iff]

/-- **A document is not pasted** over changes that the user keeps. -/
theorem ends_paste_declined_iff {text : String} {r : Except Error Report} :
    Ends Declining σ (paste text path) σ' r ↔ σ' = σ ∧ r = (liftEncoding (Pasted.parse text)).map
      fun _ => (reportOf copy.session).tell .warning "Not Pasted" := by
  have hfound := existingCopy_of_readCopy (readCopy_eq_ok_iff.2 hcopy)
  have hsession : copy.session.dirty = true := WorkingCopy.dirty_session hdirty
  rw [paste, ends_bind_iff]
  cases liftEncoding (Pasted.parse text) with
  | error e => simp [ends_settle_iff, Except.map]
  | ok dt =>
    simp [ends_settle_iff, ends_bind_iff, ends_load_iff, hfound, Session.paste, hsession,
      ends_confirm_iff, Declining, ends_pure_iff, Except.map]

end Declined

/-! ## Datasets -/

/-- **What a removal does to the document**: one dataset is left out. -/
theorem snapshot_of_removeNow {s : Session} {name : String} {removal : Registry.Removal}
    (h : (s.removeNow name).1 = .ok removal) :
    (∃ xs ys, s.snapshot.datasets = xs ++ removal.dataset :: ys ∧
      (s.removeNow name).2.snapshot.datasets = xs ++ ys ∧ removal.dataset.name = name) ∧
      (s.removeNow name).2.snapshot.template = s.snapshot.template := by
  obtain ⟨hremoval, hsnapshot⟩ := Session.removeNow_snapshot s name
  cases hremove : s.snapshot.registry.remove name with
  | error e =>
    rw [h, hremove] at hremoval
    cases hremoval
  | ok x =>
    obtain ⟨⟨d, changed⟩, r⟩ := x
    rw [h, hremove] at hremoval
    obtain rfl := Except.ok.inj hremoval
    obtain ⟨xs, ys, hbefore, hafter, hname, -⟩ := Registry.datasets_of_remove hremove
    rw [hremove] at hsnapshot
    rw [hsnapshot]
    exact ⟨⟨xs, ys, hbefore, hafter, hname⟩, rfl⟩

/-- **A dataset that is removed without a question is blank**, and all others are left. -/
theorem isBlank_of_removeDataset {s : Session} {name : String} {removal : Registry.Removal}
    (hwell : s.WellFormed) (h : (s.removeDataset name).1 = .ok (.done removal)) :
    removal.dataset.buffers.isBlank = true ∧ (s.removeNow name).1 = .ok removal ∧
      (s.removeDataset name).2 = (s.removeNow name).2 := by
  unfold Session.removeDataset at h ⊢
  cases hblank : s.isBlankDataset name with
  | error e => rw [hblank] at h; cases h
  | ok blank =>
    rw [hblank] at h
    by_cases hsize : s.registry.size = 1
    · simp only [if_pos hsize] at h
      cases h
    · simp only [if_neg hsize] at h ⊢
      cases blank with
      | false => cases h
      | true =>
        cases hremoved : (s.removeNow name).1 with
        | error e => simp [hremoved, Except.map] at h
        | ok removal' =>
          obtain rfl : removal' = removal := by simpa [hremoved, Except.map] using h
          refine ⟨?_, rfl, rfl⟩
          -- The dataset that is removed is the one that the user would be asked about.
          obtain ⟨⟨xs, ys, hdatasets, -, rfl⟩, -⟩ := snapshot_of_removeNow hremoved
          have hnodup := hwell.snapshot.2
          rw [Registry.names, show s.snapshot.registry.datasets = _ from hdatasets] at hnodup
          have hfind := (Registry.find?_and_filter_of_nodup hnodup).1
          rw [← hdatasets] at hfind
          rw [Session.isBlankDataset_eq hwell, show s.notebook.catalog.find? _ = _ from hfind] at hblank
          exact Except.ok.inj hblank

/-- **What a removal writes back**: the working copy with another document. -/
theorem updateFrom_removeNow {x : Except FileError Bytes} {name : String}
    {removal : Registry.Removal} (hcopy : copyOf? x = some copy)
    (h : (copy.session.removeNow name).1 = .ok removal) :
    copy.updateFrom (copy.session.removeNow name).2 =
      { copy with template := (copy.session.removeNow name).2.snapshot } := by
  obtain ⟨text, -, hparse⟩ := Knowledge.copyOf?_eq_some.1 hcopy
  have hrecord : (copy.session.removeNow name).2.syncRecord = copy.record := by
    rw [Session.edited_removeNow copy.session name]
    exact copy.syncRecord_session
  have hdirty : (copy.session.removeNow name).2.dirty = true := by
    rw [Session.dirty_removeNow, h]
    exact Bool.or_true _
  have hunsaved : (copy.session.removeNow name).2.isUnsaved = copy.record.isNone := by
    rw [← hrecord, Session.syncRecord, Option.isNone_map]
    rfl
  rw [WorkingCopy.updateFrom, hrecord, hdirty, hunsaved]
  have hsynced := WorkingCopy.isSome_synced_of_parse hparse
  cases hr : copy.record with
  | none =>
    rw [hr, Option.isSome_none, Option.isSome_eq_false_iff, Option.isNone_iff_eq_none] at hsynced
    simp [hsynced]
  | some r => simp

/-- **A dataset goes without a yes only if it is blank.** The file stays as it is, or it is the same
working copy without one dataset, which holds nothing but white space. -/
theorem ends_removeDataset_declined {name : String} {r : Except Error Report}
    (hcopy : copyOf? (σ.files.load path) = some copy)
    (h : Ends Declining σ (removeDataset path name) σ' r) :
    σ' = σ ∨ ∃ xs d ys dt, copy.template.datasets = xs ++ d :: ys ∧ d.name = name ∧
      d.buffers.isBlank = true ∧ dt.datasets = xs ++ ys ∧ dt.template = copy.template.template ∧
      σ.files.save path (Utf8.encode (WorkingCopy.render { copy with template := dt })) =
        .ok σ'.files ∧ σ'.store = σ.store := by
  obtain ⟨text, -, hparse⟩ := Knowledge.copyOf?_eq_some.1 hcopy
  have hwell : copy.session.WellFormed := WorkingCopy.wellFormed_session hparse
  rw [removeDataset, ends_bind_iff] at h
  simp only [ends_openCopy_iff, readCopy_eq_ok_iff.2 hcopy, Except.map] at h
  obtain ⟨a, σ₁, ⟨rfl, ha⟩, h⟩ | ⟨e, ⟨-, he⟩, -⟩ := h
  swap
  · cases he
  obtain rfl := Except.ok.inj ha
  dsimp only at h
  cases hremove : (copy.session.removeDataset name).1 with
  | error e =>
    rw [hremove] at h
    replace h : Ends Declining σ₁ (throw _) σ' r := h
    exact .inl (ends_throw_iff.1 h).1
  | ok decision =>
    rw [hremove] at h
    cases decision with
    | ask q =>
      -- Without a yes the dataset is kept, and nothing is stored.
      obtain ⟨hkept, -⟩ : σ' = σ₁ ∧ r = .ok ((reportOf (copy.session.removeDataset name).2).tell
          .info (datasetMessage name "kept")) := by
        simpa [ends_bind_iff, ends_settle_iff, ends_confirm_iff, Declining, ends_pure_iff] using h
      exact .inl hkept
    | done removal =>
      -- No question has been asked, so the dataset is blank; only the file can still refuse.
      obtain ⟨hblank, hremoved, hsession⟩ := isBlank_of_removeDataset hwell hremove
      obtain ⟨⟨xs, ys, hdatasets, hrest, hname⟩, htemplate⟩ := snapshot_of_removeNow hremoved
      replace h : Ends Declining σ₁ (storeCopy path copy (copy.session.removeDataset name).2 >>=
        fun _ => pure _) σ' r := h
      rw [hsession, ends_bind_iff, storeCopy, saveCopy, updateFrom_removeNow hcopy hremoved] at h
      simp only [ends_saveText_iff, ends_pure_iff] at h
      rw [copy.snapshot_session] at hdatasets htemplate
      obtain ⟨-, σ₂, ⟨fs, hsave, rfl, -⟩ | ⟨e, -, -, ⟨⟩⟩, rfl, -⟩ |
        ⟨e, ⟨fs, -, -, ⟨⟩⟩ | ⟨fault, -, rfl, -⟩, -⟩ := h
      · exact .inr ⟨xs, removal.dataset, ys, _, hdatasets, hname, hblank, hrest, htemplate, hsave, rfl⟩
      · exact .inl rfl

/-! ## Files that are no working copies -/

/-- **The commands that replace a file**, or leave out a part of it. -/
inductive Replaces (path : String) : Procedure Report → Prop
  | pull (id : String) : Replaces path (pull id path)
  | openLink (link : String) : Replaces path (openLink link path)
  | paste (text : String) : Replaces path (paste text path)
  | removeDataset (name : String) : Replaces path (removeDataset path name)

/-- **A procedure whose first part fails** fails, and leaves everything as it was if that does. -/
theorem fails_bind {α β : Type} {x : Procedure α} {f : α → Procedure β} {r : Except Error β}
    (hx : ∀ σ₁ y, Ends agrees σ x σ₁ y → σ₁ = σ ∧ ∃ e, y = .error e)
    (h : Ends agrees σ (x >>= f) σ' r) : σ' = σ ∧ ∃ e, r = .error e := by
  obtain ⟨a, σ₁, hfirst, -⟩ | ⟨e, hfirst, hr⟩ := ends_bind_iff.1 h
  · obtain ⟨-, e, he⟩ := hx _ _ hfirst
    cases he
  · exact ⟨(hx _ _ hfirst).1, e, hr⟩

/-- **What is there and is no working copy is not replaced**, whatever the user answers. -/
theorem fails_of_replaces {x : Procedure Report} {e : Error} {r : Except Error Report}
    (hx : Replaces path x) (hfile : existingCopy (σ.files.load path) = .error e)
    (h : Ends agrees σ x σ' r) : σ' = σ ∧ ∃ e, r = .error e := by
  -- Before the user is asked, the file is looked at, and its error ends the command.
  have hreplace (σ₁ : Surroundings) (y : Except Error Bool)
      (h : Ends agrees σ (confirmReplace path) σ₁ y) : σ₁ = σ ∧ ∃ e, y = .error e := by
    have hends : σ₁ = σ ∧ y = .error e := by
      simpa [confirmReplace, ends_bind_iff, ends_load_iff, ends_settle_iff, hfile] using h
    exact hends.imp_right fun hy => ⟨e, hy⟩
  cases hx with
  | pull id => exact fails_bind hreplace h
  | openLink link =>
    rw [openLink, ends_bind_iff] at h
    simp only [ends_settle_iff] at h
    obtain ⟨target, σ₁, ⟨rfl, -⟩, h⟩ | ⟨fault, ⟨hσ, -⟩, hr⟩ := h
    · cases target with
      | remote id => exact fails_bind hreplace h
      | inline dt => exact fails_bind hreplace h
    · exact ⟨hσ, fault, hr⟩
  | paste text =>
    rw [paste, ends_bind_iff] at h
    simp only [ends_settle_iff] at h
    obtain ⟨dt, σ₁, ⟨rfl, -⟩, h⟩ | ⟨fault, ⟨hσ, -⟩, hr⟩ := h
    · have hends : σ' = σ₁ ∧ r = .error e := by
        simpa [ends_bind_iff, ends_load_iff, ends_settle_iff, hfile] using h
      exact hends.imp_right fun hr => ⟨e, hr⟩
    · exact ⟨hσ, fault, hr⟩
  | removeDataset name =>
    refine fails_bind (fun σ₁ y hopen => ?_) h
    rw [ends_openCopy_iff, readCopy_of_existingCopy hfile] at hopen
    exact hopen.imp_right fun hy => ⟨e, hy⟩

/-- **Nothing is lost unasked.** Where a file holds a working copy with changes and the user declines
whenever they are asked to agree, whatever they answer to questions for a password, a document is
neither fetched nor opened nor pasted over it: files and store are as before, so that no request has
been sent, and a dataset is removed only if it is blank, with nothing else changed in the file. What
is at the path and is no working copy is not replaced at all, whatever the user answers. -/
theorem keeps_unpushed (σ : Surroundings) (path : String) :
    (∀ copy, copyOf? (σ.files.load path) = some copy → copy.isDirty = true →
      (∀ id σ' r, Ends Declining σ (pull id path) σ' r ↔ σ' = σ ∧ r = .ok notLoaded) ∧
      (∀ link σ' r, Ends Declining σ (openLink link path) σ' r ↔
        σ' = σ ∧ r = (Link.parse link).map fun _ => notLoaded) ∧
      (∀ text σ' r, Ends Declining σ (paste text path) σ' r ↔
        σ' = σ ∧ r = (liftEncoding (Pasted.parse text)).map fun _ =>
          (reportOf copy.session).tell .warning "Not Pasted") ∧
      ∀ name σ' r, Ends Declining σ (removeDataset path name) σ' r →
        σ' = σ ∨ ∃ xs d ys dt, copy.template.datasets = xs ++ d :: ys ∧ d.name = name ∧
          d.buffers.isBlank = true ∧ dt.datasets = xs ++ ys ∧
          dt.template = copy.template.template ∧
          σ.files.save path (Utf8.encode (WorkingCopy.render { copy with template := dt })) =
            .ok σ'.files ∧ σ'.store = σ.store) ∧
    ∀ e, existingCopy (σ.files.load path) = .error e → ∀ agrees x σ' r, Replaces path x →
      Ends agrees σ x σ' r → σ' = σ ∧ ∃ e, r = .error e := by
  refine ⟨fun copy hcopy hdirty => ⟨fun id σ' r => ?_, fun link σ' r => ?_, fun text σ' r => ?_,
    fun name σ' r h => ?_⟩, fun e hfile agrees x σ' r hx h => ?_⟩
  · exact ends_pull_declined_iff hcopy hdirty
  · exact ends_openLink_declined_iff hcopy hdirty
  · exact ends_paste_declined_iff hcopy hdirty
  · exact ends_removeDataset_declined hcopy h
  · exact fails_of_replaces hx hfile h

/-- A new document in a file. -/
def jotting : DataTemplate := .single "" "" "t"

/-- The files around it, one of which is no text. -/
def jottedFiles : Files :=
  ⟨[(["a"], Utf8.encode (Portable.render .plain jotting)), (["b"], [0xFF])], []⟩

/-- A new document has changes that the store does not have, and is not replaced by a document from the
store; and a file that is no text is not replaced either. -/
theorem keeps_unpushed_jotting :
    (∀ id, Ends Declining ⟨jottedFiles, {}⟩ (pull id "a") ⟨jottedFiles, {}⟩ (.ok notLoaded)) ∧
    ∀ agrees id σ' r, Ends agrees ⟨jottedFiles, {}⟩ (pull id "b") σ' r →
      σ' = ⟨jottedFiles, {}⟩ ∧ ∃ e, r = .error e := by
  have hload : jottedFiles.load "a" = .ok (Utf8.encode (Portable.render .plain jotting)) := by
    rw [Files.load, Files.locate, show Files.steps "a" = ["a"] by decide]
    rfl
  have hother : jottedFiles.load "b" = .ok [0xFF] := by
    rw [Files.load, Files.locate, show Files.steps "b" = ["b"] by decide]
    rfl
  have hcopy : copyOf? (jottedFiles.load "a") = some { template := jotting.reloaded } := by
    refine Knowledge.copyOf?_eq_some.2 ⟨Portable.render .plain jotting, ?_, ?_⟩
    · rw [hload, textOf, Utf8.decode_encode]
    · exact (WorkingCopy.parse_render_unlinked (DataTemplate.wellFormed_single _ _ _) _).2
        ⟨⟨by decide, Portable.templateEntries_short rfl 0⟩, rfl⟩
  have hunreadable : existingCopy (jottedFiles.load "b") = .error (.file .notText) := by
    rw [hother]
    rfl
  constructor
  · intro id
    have hkeeps := (keeps_unpushed ⟨jottedFiles, {}⟩ "a").1 _ hcopy rfl
    exact (hkeeps.1 id _ _).2 ⟨rfl, rfl⟩
  · intro agrees id σ' r h
    exact (keeps_unpushed ⟨jottedFiles, {}⟩ "b").2 _ hunreadable agrees _ σ' r (.pull id) h

end Command

end TemplateShare
