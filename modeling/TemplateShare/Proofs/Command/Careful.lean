import TemplateShare.Command.Local
import TemplateShare.Command.Remote
import TemplateShare.Proofs.Command.Sync

/-! # Commands go by what is known

Every command on working copies is guarded: it replaces in the store only the revision that is recorded
in the file that it has opened, and writes to files only records of revisions that it has been told
of.

* **`Command.guarded_pull`**, **`Command.guarded_push`**, … — the commands, one by one. -/

namespace TemplateShare

/-! ## Documents that are brought in -/

/-- A portable document that is read is made of a list of datasets. -/
theorem Portable.exists_ofDatasets_of_parse {text : String} {dt : DataTemplate}
    (h : parse text = .ok dt) : ∃ ds, Registry.ofDatasets ds = .ok dt.registry := by
  unfold parse at h
  split at h
  · obtain ⟨fields, -, h⟩ := Except.bind_eq_ok.1 h
    exact exists_ofDatasets_of_toTemplate h
  · cases h

/-- A working copy without a link is sound, whoever has written it. -/
theorem WorkingCopy.sound_of_unlinked {text : String} {copy : WorkingCopy}
    (h : parse text = .ok copy) (hrecord : copy.record = none) : copy.Sound := by
  obtain ⟨dt, hdt, h⟩ := Except.bind_eq_ok.1 h
  obtain ⟨link, -, h⟩ := Except.bind_eq_ok.1 h
  obtain rfl := Except.ok.inj h
  cases link with
  | none =>
    obtain ⟨ds, hds⟩ := Portable.exists_ofDatasets_of_parse hdt
    exact ⟨Registry.wellFormed_of_ofDatasets hds, fun r hr => (nomatch hr),
      fun t ht => (nomatch ht)⟩
  | some link => cases hrecord

/-- **A document that is pasted is made of a list of datasets.** -/
theorem Pasted.exists_ofDatasets_of_parse {text : String} {dt : DataTemplate}
    (h : parse text = .ok dt) : ∃ ds, Registry.ofDatasets ds = .ok dt.registry := by
  unfold parse at h
  split at h
  · exact Portable.exists_ofDatasets_of_parse h
  · obtain ⟨p, -, h⟩ := Except.bind_eq_ok.1 h
    exact Wire.exists_ofDatasets_of_decode h

/-- A document that is pasted is well-formed. -/
theorem Pasted.wellFormed_of_parse {text : String} {dt : DataTemplate}
    (h : parse text = .ok dt) : dt.registry.WellFormed := by
  obtain ⟨ds, hds⟩ := exists_ofDatasets_of_parse h
  exact Registry.wellFormed_of_ofDatasets hds

/-- A document in a link is well-formed. -/
theorem Link.wellFormed_of_parse {link : String} {dt : DataTemplate}
    (h : parse link = .ok (.inline dt)) : dt.registry.WellFormed := by
  unfold parse at h
  dsimp only at h
  split at h
  · cases h
  · split at h
    · cases h
    · next es hes =>
      split at h
      · split at h <;> cases h
      · cases hinline : inlineOf es with
        | error e =>
          rw [hinline] at h
          cases h
        | ok dt' =>
          rw [hinline] at h
          obtain rfl := Target.inline.inj (Except.ok.inj h)
          -- An inline document is one of the short form.
          unfold inlineOf at hinline
          dsimp only at hinline
          split at hinline
          · cases hinline
          · obtain ⟨data, -, hinline⟩ := Except.bind_eq_ok.1 hinline
            obtain ⟨vars, -, hinline⟩ := Except.bind_eq_ok.1 hinline
            obtain ⟨template, -, hinline⟩ := Except.bind_eq_ok.1 hinline
            obtain rfl := Except.ok.inj hinline
            exact DataTemplate.wellFormed_single _ _ _

namespace Command

open Procedure

variable {α : Type} {Q : α → Knowledge → Prop} {k : Knowledge} {s : Session} {copy : WorkingCopy}

/-! ## Files -/

/-- A text that is a working copy. -/
theorem copyOf?_of_parse {x : Except FileError Bytes} {text : String} (htext : textOf x = .ok text)
    (hcopy : liftEncoding (WorkingCopy.parse text) = .ok copy) : copyOf? x = some copy :=
  Knowledge.copyOf?_eq_some.2 ⟨text, htext, liftEncoding_eq_ok.1 hcopy⟩

/-- **Opening a working copy** leads to a session at the opened record. -/
theorem guarded_openCopy {Q : WorkingCopy × Session → Knowledge → Prop} {path : String}
    (h : ∀ copy k, copy.Sound → k.Covers copy.session → k.IsAt copy.session →
      Q (copy, copy.session) k) :
    Guarded Q (openCopy path) k := by
  refine guarded_bind (guarded_bind (guarded_bind (guarded_perform fun x hx => ?_)))
  refine guarded_settle fun text htext => guarded_settle fun copy hcopy => guarded_pure ?_
  have hread := copyOf?_of_parse htext hcopy
  obtain ⟨hcovers, hat⟩ := k.covers_load hread (hx copy hread)
  exact h copy _ (hx copy hread) hcovers hat

/-- Asking before a working copy is replaced. -/
theorem guarded_confirmReplace {Q : Bool → Knowledge → Prop} (h : ∀ b k, Q b k) (path : String) :
    Guarded Q (confirmReplace path) k := by
  refine guarded_bind (guarded_perform fun x _ => ?_)
  refine guarded_bind (guarded_settle fun found _ => ?_)
  cases found with
  | none => exact guarded_pure (h _ _)
  | some copy =>
    dsimp only
    split
    · exact guarded_perform fun b _ => h b _
    · exact guarded_pure (h _ _)

/-- **Writing a file** that goes by what is known. -/
theorem guarded_saveText {Q : Unit → Knowledge → Prop} {path text : String}
    (hbacks : k.Backs (Utf8.encode text)) (h : Q () k) : Guarded Q (saveText path text) k := by
  refine ⟨hbacks, fun x => ?_⟩
  cases x with
  | ok u => exact h
  | error e => trivial

/-- **Writing a session back** to its working copy. -/
theorem guarded_storeCopy {Q : Unit → Knowledge → Prop} (hs : k.Covers s)
    (hcopy : ∀ t ∈ copy.synced, IsHashText t) (h : Q () k) (path : String) :
    Guarded Q (storeCopy path copy s) k :=
  guarded_saveText (hs.backs_updateFrom hcopy) h

/-- Writing a session to a working copy of its own. -/
theorem guarded_saveSession {Q : Unit → Knowledge → Prop} (hs : k.Covers s) (h : Q () k)
    (path : String) : Guarded Q (saveCopy path (.ofSession s)) k :=
  guarded_saveText (hs.backs_updateFrom fun _ ht => (nomatch ht)) h

/-! ## Loading -/

/-- **Fetching a document is guarded.** -/
theorem guarded_pull (id path : String) : Guarded (fun _ _ => True) (pull id path) k := by
  refine guarded_bind (guarded_confirmReplace (fun b k => ?_) path)
  split
  · exact guarded_pure trivial
  · refine guarded_bind (guarded_perform ((guarded_fetchWithPrompt ?_ id).mono fun out k hs => ?_))
    · exact .of_unlinked Registry.wellFormed_initial rfl rfl
    · refine guarded_bind (guarded_settle fun summary _ => ?_)
      refine guarded_bind (guarded_saveSession hs ?_ path)
      exact guarded_pure trivial

-- How links are read is of no interest here, and takes long to unfold.
attribute [local irreducible] Link.parse

/-- **Opening a link is guarded.** -/
theorem guarded_openLink (link path : String) :
    Guarded (fun _ _ => True) (openLink link path) k := by
  refine guarded_bind (guarded_settle fun target htarget => ?_)
  cases target with
  | remote id => exact guarded_pull id path
  | inline dt =>
    refine guarded_bind (guarded_confirmReplace (fun b k => ?_) path)
    split
    · exact guarded_pure trivial
    · have hs : k.Covers (Session.ofTemplate dt) :=
        .of_unlinked (Link.wellFormed_of_parse htarget) rfl rfl
      exact guarded_bind (guarded_saveSession hs (guarded_pure trivial) path)

/-- **Pasting is guarded.** -/
theorem guarded_paste (text path : String) : Guarded (fun _ _ => True) (paste text path) k := by
  refine guarded_bind (guarded_settle fun dt hdt => ?_)
  have hdt := Pasted.wellFormed_of_parse (liftEncoding_eq_ok.1 hdt)
  refine guarded_bind (guarded_perform fun x _ => ?_)
  refine guarded_bind (guarded_settle fun found _ => ?_)
  extract_lets s jp
  have hsave : Guarded (fun _ _ => True) (saveCopy path (.ofSession (s.applyPasted dt))) (k.load x) :=
    guarded_saveSession (.of_unlinked hdt rfl rfl) trivial path
  unfold Session.paste
  by_cases hdirty : s.dirty = true
  · rw [if_pos hdirty]
    refine guarded_bind (guarded_perform fun agreed _ => ?_)
    cases agreed with
    | false => exact guarded_bind (guarded_pure (guarded_pure trivial))
    | true =>
      exact guarded_bind (guarded_pure (guarded_bind (hsave.mono fun _ _ _ => guarded_pure trivial)))
  · rw [if_neg hdirty]
    exact guarded_bind (guarded_pure (guarded_bind (hsave.mono fun _ _ _ => guarded_pure trivial)))

/-! ## Datasets -/

/-- **Listing datasets is guarded.** -/
theorem guarded_listDatasets (path : String) : Guarded (fun _ _ => True) (listDatasets path) k :=
  guarded_bind (guarded_openCopy fun _ _ _ _ _ => guarded_pure trivial)

/-- **Adding a dataset is guarded.** -/
theorem guarded_addDataset (path name : String) :
    Guarded (fun _ _ => True) (addDataset path name) k := by
  refine guarded_bind (guarded_openCopy fun copy k hcopy hs _ => ?_)
  refine guarded_bind (guarded_settle fun s hadd => ?_)
  have hedits := Session.edits_of_added (liftValidation_eq_ok.1 hadd)
  exact guarded_bind
    (guarded_storeCopy (hs.of_edits hedits) hcopy.synced (guarded_pure trivial) path)

/-- **Removing a dataset is guarded.** -/
theorem guarded_removeDataset (path name : String) :
    Guarded (fun _ _ => True) (removeDataset path name) k := by
  refine guarded_bind (guarded_openCopy fun copy k hcopy hs _ => ?_)
  have hs := hs.of_edits (Session.edits_of_removeDataset name)
  dsimp only
  generalize copy.session.removeDataset name = first at hs
  obtain ⟨first, s⟩ := first
  have hstore {s : Session} (hs : k.Covers s) (r : Report) :
      Guarded (fun _ _ => True) (do storeCopy path copy s; return r) k :=
    guarded_bind (guarded_storeCopy hs hcopy.synced (guarded_pure trivial) path)
  refine guarded_bind (guarded_settle fun decision _ => ?_)
  -- A dataset without texts is removed at once, and any other one if the user agrees.
  cases decision with
  | done removal => exact guarded_bind (guarded_pure (hstore hs _))
  | ask q =>
    refine guarded_bind (guarded_perform fun agreed _ => ?_)
    cases agreed with
    | false => exact guarded_bind (guarded_pure (guarded_pure trivial))
    | true =>
      refine guarded_bind (guarded_settle fun _ _ => ?_)
      exact guarded_bind (guarded_pure (hstore (hs.of_edits .confirmed) _))

/-! ## Saving -/

/-- **The end of a push is guarded.** -/
theorem guarded_finishPush (ctx : Context) (path : String) (hcopy : ∀ t ∈ copy.synced, IsHashText t)
    (r : Report) {outcome : Sync.SaveOutcome} (h : k.Saves (.ok outcome, s)) :
    Guarded (fun _ _ => True) (finishPush ctx path copy s r outcome) k := by
  refine guarded_bind (guarded_perform ((guarded_saveWithPrompt _ _ h).mono fun out k hs => ?_))
  have hpushed (id text : String) :
      Guarded (fun _ _ => True) (pushed ctx path copy out.2 r id text) k := by
    refine guarded_bind (guarded_storeCopy hs hcopy ?_ path)
    exact guarded_bind (guarded_settle fun _ _ => guarded_pure trivial)
  refine guarded_bind (guarded_settle fun result _ => ?_)
  cases result with
  | created id => exact hpushed id _
  | updated id revision => exact hpushed id _
  | noChanges => exact guarded_pure trivial
  | notUpdated => exact guarded_pure trivial
  | discarded => exact guarded_pure trivial
  | passwordRequired p => exact guarded_pure trivial

/-- A conflict is asked about before the store's revision is overwritten. -/
theorem startPush_eq_ok {x : Except Error Sync.SaveOutcome} {start : PushStart}
    (h : startPush x s = .ok start) :
    (∃ outcome, x = .ok outcome ∧ start = .saved outcome) ∨
      ∃ q, start = .conflict q ∧ q.prompt = overwriteQuestion := by
  unfold startPush at h
  split at h
  · exact .inl ⟨_, rfl, (Except.ok.inj h).symm⟩
  · right
    unfold Sync.requestOverwrite at h
    split at h
    · cases h
    · split at h
      · exact ⟨_, (Except.ok.inj h).symm, rfl⟩
      · cases h
  · cases h

/-- **A push that does not force** is guarded. -/
theorem guarded_push (ctx : Context) (path : String) (newLink : Bool) :
    Guarded (fun _ _ => True) (push ctx path { newLink }) k := by
  refine guarded_bind (guarded_openCopy fun copy k hcopy hs hat => ?_)
  have hchosen : ∃ chosen : WorkingCopy,
      chosen = (if newLink && !copy.session.isUnsaved then detached copy else copy) ∧
        chosen.Sound ∧ k.Covers chosen.session ∧ k.IsAt chosen.session := by
    refine ⟨_, rfl, ?_⟩
    split
    · exact ⟨⟨hcopy.template, fun _ hr => (nomatch hr), fun _ hs => (nomatch hs)⟩,
        .of_unlinked hcopy.template rfl rfl, fun _ hid => (nomatch hid)⟩
    · exact ⟨hcopy, hs, hat⟩
  obtain ⟨chosen, hchosen, hsound, hs, hat⟩ := hchosen
  dsimp only
  rw [← hchosen]
  refine guarded_bind (guarded_perform ((Sync.guarded_save hs hat _).mono fun out k hout => ?_))
  obtain ⟨first, s⟩ := out
  refine guarded_bind (guarded_settle fun start hstart => ?_)
  obtain ⟨outcome, rfl, rfl⟩ | ⟨q, rfl, hq⟩ := startPush_eq_ok hstart
  · exact guarded_finishPush ctx path hsound.synced _ hout
  · dsimp only
    rw [if_neg Bool.false_ne_true]
    refine guarded_bind (guarded_perform fun agreed hagreed => ?_)
    -- Nobody agrees to overwrite.
    rw [hagreed hq]
    exact guarded_pure trivial

/-- **Setting passwords is guarded.** -/
theorem guarded_protect (ctx : Context) (path : String) (p : Protection) :
    Guarded (fun _ _ => True) (protect ctx path p) k := by
  refine guarded_bind (guarded_openCopy fun copy k hcopy hs hat => ?_)
  refine guarded_bind (guarded_settle fun s hprotect => ?_)
  -- Setting passwords changes neither document nor record.
  have hs : k.Covers s ∧ k.IsAt s := by
    obtain ⟨-, -, rfl⟩ := Session.protect_eq_ok (liftValidation_eq_ok.1 hprotect)
    exact ⟨hs.of_registry hs.registry rfl rfl rfl, hat⟩
  refine guarded_bind (guarded_perform ((Sync.guarded_update hs.1 hs.2 _).mono
    fun out k hout => ?_))
  obtain ⟨first, s⟩ := out
  refine guarded_bind (guarded_settle fun outcome houtcome => ?_)
  cases houtcome
  refine guarded_bind (guarded_perform ((guarded_saveWithPrompt _ _ hout).mono
    fun out k hs => ?_))
  refine guarded_bind (guarded_settle fun result _ => ?_)
  cases result with
  | updated id revision =>
    exact guarded_bind (guarded_storeCopy hs hcopy.synced (guarded_pure trivial) path)
  | _ => exact guarded_pure trivial

end Command

end TemplateShare
