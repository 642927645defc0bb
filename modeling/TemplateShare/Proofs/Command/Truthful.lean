import TemplateShare.Proofs.Command.Careful
import TemplateShare.Proofs.Command.Evidence
import TemplateShare.Proofs.Session.Clean

/-! # Commands write what they have evidence of

Every command on working copies is truthful, whatever the user answers and whether or not a push is
to overwrite: the checksum and the revision that it records in a file belong together. A checksum that
moves is that of the document that the store has just brought or accepted, and one that stays was
recorded for the revision that stays with it.

* **`Sync.truthful_save`**, **`Sync.truthful_overwrite`**, … — loading and saving.
* **`Command.truthful_push`**, **`Command.truthful_pull`**, … — the commands, one by one. -/

namespace TemplateShare

/-- **What a load may come to**: a session that may be written back, or a question about a valid
id. -/
structure Evidence.Loads (k : Evidence) (copy : WorkingCopy)
    (out : Sync.Outcome Sync.FetchOutcome) : Prop where
  session : k.Carries copy out.2
  ticket : ∀ t, out.1 = .ok (.passwordRequired t) → DocumentId.isValid t.id = true

namespace Sync

open Session

variable {k : Evidence} {copy : WorkingCopy} {s : Session} {reply : Reply}

/-! ## Loading -/

/-- **A load takes over the document that the reply brings.** -/
theorem loads_applyFetch (hs : k.Carries copy s) {p : PendingFetch}
    (hid : DocumentId.isValid p.ticket.id = true) (hreply : Honest p.request reply) :
    (k.hear p.request reply).Loads copy (applyFetch s p reply) := by
  have hs := hs.hear p.request reply
  have hfetched := fetched_applyFetch s p reply
  generalize applyFetch s p reply = out at hfetched
  cases hfetched with
  | @loaded x d current answered success read =>
    subst answered
    obtain ⟨hhash, hlimit, htells⟩ := hreply.loaded success read
    refine ⟨?_, fun t ht => by cases ht⟩
    unfold completeLoad
    rw [if_neg (not_not_intro current)]
    refine .of_told ⟨RemoteDocument.wellFormed_of_parse read, fun id hmem => ?_, fun h hmem => ?_⟩
      rfl fun id hmem => ?_
    · obtain rfl := Option.some.inj hmem
      exact ⟨hid, hlimit, trivial⟩
    · obtain rfl := Option.some.inj hmem
      exact hhash
    · obtain rfl := Option.some.inj hmem
      exact .inr ⟨htells, _, content?_get (method_fetchRequest _ _) read,
        congrArg DataTemplate.core (s.snapshot_adopt d.template).symm⟩
  | asked =>
    refine ⟨hs, fun t ht => ?_⟩
    obtain rfl := FetchOutcome.passwordRequired.inj (Except.ok.inj ht)
    exact hid
  | discarded => exact ⟨hs, fun t ht => by cases ht⟩
  | failed e state => exact ⟨hs.of_kept (kept_abortLoad _ _ _), fun t ht => by cases ht⟩

/-- A fetch is truthful. -/
theorem truthful_fetch (hs : k.Carries copy s) (id : String) :
    (fetch s id).Truthful (fun out k => k.Loads copy out) k := by
  unfold fetch beginFetch
  by_cases hid : DocumentId.isValid id = true
  · rw [if_pos hid]
    exact fun reply hreply => loads_applyFetch (hs.of_kept (kept_beginLoad s id)) hid hreply
  · rw [if_neg hid]
    exact ⟨hs, fun t ht => by cases ht⟩

/-- An answer to a fetch's question is truthful. -/
theorem truthful_fetchWithPassword (hs : k.Carries copy s) {t : LoadTicket}
    (hid : DocumentId.isValid t.id = true) (answer : Option String) :
    (fetchWithPassword s t answer).Truthful (fun out k => k.Carries copy out.2) k := by
  unfold fetchWithPassword
  split
  · exact hs
  · split
    · exact hs.of_kept (kept_abortLoad _ _ _)
    · exact fun reply hreply => (loads_applyFetch (p := ⟨t, some _⟩) hs hid hreply).session

/-! ## Saving -/

/-- **A creation takes over the first revision**, of the document that the reply accepts. -/
theorem truthful_create (hs : k.Carries copy s) (o : Options) :
    (create o s).Truthful (fun out k => k.Carries copy out.2) k := by
  intro reply hreply
  show (k.hear (writeRequest o s none) reply).Carries copy
    (applyCreate o s.beginSave.2 s.beginSave.1 reply).2
  have hregistry : s.registry.WellFormed := hs.covers.registry
  have hs := (hs.of_kept (kept_beginSave s)).hear (writeRequest o s none) reply
  have hcreated := created_applyCreate o s.beginSave.2 s.beginSave.1 reply
  generalize applyCreate o s.beginSave.2 s.beginSave.1 reply = out at hcreated
  cases hcreated with
  | @created x id hash _ answered success read =>
    subst answered
    obtain ⟨hhash, htells⟩ := hreply.created success read
    have hsent := content?_post (x := x) (method_writeRequest o s none)
      (Store.bodyDocument?_writeRequest hregistry o none)
    refine .of_told ⟨hregistry, fun id' hmem => ?_, hhash⟩ rfl fun id' hmem => ?_
    · obtain rfl := Option.some.inj hmem
      exact ⟨isValid_of_parseAnswer read, show 1 < Nat.pow 2 64 by decide, trivial⟩
    · obtain rfl := Option.some.inj hmem
      exact .inr ⟨htells, _, hsent, DataTemplate.core_sent _⟩
  | discarded => exact hs
  | unreadable e => exact hs
  | failed e state => exact hs.of_kept (kept_markState _ _ _)

/-- **An update takes over its revision**, of the document that the reply accepts. -/
theorem truthful_sendUpdate (hs : k.Carries copy s) (o : Options) (t : SaveTicket) (revision : Nat)
    (password : Option String) :
    (sendUpdate o s t revision password).Truthful (fun out k => k.Carries copy out.2) k := by
  unfold sendUpdate
  cases hid : s.remoteId with
  | none => exact hs
  | some id =>
    intro reply hreply
    show (k.hear (updateRequest o s id revision password) reply).Carries copy
      (applyUpdate o s t id revision password reply).2
    have hregistry : s.registry.WellFormed := hs.covers.registry
    have hidentity := hs.covers.identity id hid
    have hhash := hs.covers.hash
    have hs := hs.hear (updateRequest o s id revision password) reply
    have hupdated := updated_applyUpdate o s t id revision password reply
    generalize applyUpdate o s t id revision password reply = out at hupdated
    cases hupdated with
    | @updated x named hash _ answered success read =>
      subst answered
      obtain ⟨hnew, hlimit, htells⟩ := hreply.updated success read
      have hsent := content?_post (x := x) (method_updateRequest o s id revision password)
        (Store.bodyDocument?_updateRequest hregistry o id revision password)
      obtain ⟨-, hremote, hsettled⟩ := settlePasswords_document s password
      obtain ⟨hsame, heditor, htemplate⟩ := document_completeUpdate s revision hash password o.now
      -- The document of the request is the one that the session is linked to.
      have hmine {id' : String} (hmem : id' ∈ (s.settlePasswords password).remoteId) : id = id' := by
        rw [hremote, hid] at hmem
        exact Option.some.inj hmem
      refine .of_told ⟨hsame ▸ hregistry, fun id' hmem => ?_, fun h hmem => ?_⟩ rfl
        fun id' hmem => ?_
      · obtain rfl := hmine hmem
        exact ⟨hidentity.1, hlimit, trivial⟩
      · cases hash with
        | none => exact hhash h (hsettled ▸ hmem)
        | some hash => exact hnew h hmem
      · obtain rfl := hmine hmem
        rw [snapshot, hsame, heditor, htemplate]
        exact .inr ⟨htells, _, hsent, DataTemplate.core_sent _⟩
    | asked => exact hs
    | discarded => exact hs
    | unreadable e => exact hs
    | failed e state => exact hs.of_kept (kept_markState _ _ _)

/-- An update is truthful. -/
theorem truthful_update (hs : k.Carries copy s) (o : Options) :
    (update o s).Truthful (fun out k => k.Carries copy out.2) k := by
  unfold update
  split
  · exact hs
  · split
    · exact hs
    · exact truthful_sendUpdate (hs.of_kept (kept_beginSave s)) o _ _ _

/-- A save is truthful. -/
theorem truthful_save (hs : k.Carries copy s) (o : Options) :
    (save o s).Truthful (fun out k => k.Carries copy out.2) k := by
  unfold save
  split
  · exact truthful_create hs o
  · exact truthful_update hs o

/-- An answer to an update's question is truthful, whichever revision the question is about. -/
theorem truthful_resumeUpdate (hs : k.Carries copy s) (o : Options) (p : UpdatePrompt)
    (answer : Option String) :
    (resumeUpdate o s p answer).Truthful (fun out k => k.Carries copy out.2) k := by
  unfold resumeUpdate
  split
  · exact hs
  · split
    · exact truthful_sendUpdate hs o _ _ _
    · exact hs.of_kept (kept_markState _ _ _)

/-- **An overwrite is truthful**: it records the revision that it writes, not the one that it looked
up. -/
theorem truthful_overwrite (hs : k.Carries copy s) (o : Options) (id : String) :
    (overwrite o s id).Truthful (fun out k => k.Carries copy out.2) k := by
  unfold overwrite
  split
  · exact hs
  · intro reply _
    have hs := hs.hear (fetchRequest id s.fetchCredential) reply
    dsimp only
    split
    · exact hs
    · exact truthful_sendUpdate (hs.of_kept (kept_beginSave s)) o _ _ _

end Sync

namespace Command

open Procedure

variable {k : Evidence} {s : Session} {copy : WorkingCopy}

/-! ## Questions -/

/-- **A fetch with its question is truthful.** -/
theorem truthful_fetchWithPrompt (hs : k.Carries copy s) (id : String) :
    (fetchWithPrompt s id).Truthful (fun out k => k.Carries copy out.2) k := by
  unfold fetchWithPrompt
  rw [Dialogue.bind_eq, Dialogue.truthful_bind]
  refine (Sync.truthful_fetch hs id).mono fun out k hout => ?_
  obtain ⟨first, s⟩ := out
  cases first with
  | error e => exact hout.session
  | ok outcome =>
    cases outcome with
    | loaded summary => exact hout.session
    | discarded => exact hout.session
    | passwordRequired t =>
      show Dialogue.Truthful _ (((askPassword _).bind (Sync.fetchWithPassword s t)).bind _) k
      rw [Dialogue.truthful_bind, Dialogue.truthful_bind]
      intro answer
      refine (Sync.truthful_fetchWithPassword hout.session (hout.ticket t rfl) answer).mono
        fun out k hs => ?_
      obtain ⟨outcome, s⟩ := out
      cases outcome with
      | error e => exact hs
      | ok outcome => cases outcome <;> exact hs

/-- **A save with its questions is truthful**, however often it asks. -/
theorem truthful_saveWithPrompt (hs : k.Carries copy s) (o : Sync.Options) (attempts : Nat)
    (outcome : Sync.SaveOutcome) :
    (saveWithPrompt o attempts s outcome).Truthful (fun out k => k.Carries copy out.2) k := by
  induction attempts generalizing k s outcome with
  | zero => exact hs
  | succ attempts ih =>
    cases outcome with
    | passwordRequired p =>
      intro answer
      rw [Dialogue.truthful_bind]
      refine (Sync.truthful_resumeUpdate hs o p answer).mono fun out k hs => ?_
      obtain ⟨result, s⟩ := out
      cases result with
      | error e => exact hs
      | ok outcome => exact ih hs outcome
    | _ => exact hs

/-! ## Files -/

/-- **Opening a working copy** leads to a session that may be written back to it, also after
changes. -/
theorem truthful_openCopy {Q : WorkingCopy × Session → Evidence → Prop} {path : String}
    (h : ∀ copy k, copy.Sound → k.Carries copy copy.session → k.Anchors copy copy.session →
      Q (copy, copy.session) k) :
    Truthful Q (openCopy path) k := by
  refine truthful_bind (truthful_bind (truthful_bind (truthful_perform fun x hx => ?_)))
  refine truthful_settle fun text htext => truthful_settle fun copy hcopy => truthful_pure ?_
  have hread := copyOf?_of_parse htext hcopy
  obtain ⟨hcarries, hanchors⟩ := Evidence.carries_read (k := k) hread (hx copy hread)
  exact h copy _ (hx copy hread) hcarries hanchors

/-- Asking before a working copy is replaced. -/
theorem truthful_confirmReplace {Q : Bool → Evidence → Prop} (h : ∀ b k, Q b k) (path : String) :
    Truthful Q (confirmReplace path) k := by
  refine truthful_bind (truthful_perform fun x _ => ?_)
  refine truthful_bind (truthful_settle fun found _ => ?_)
  cases found with
  | none => exact truthful_pure (h _ _)
  | some copy =>
    dsimp only
    split
    · exact truthful_perform fun b => h b _
    · exact truthful_pure (h _ _)

/-- **Writing a session back** to its working copy. -/
theorem truthful_storeCopy {Q : Unit → Evidence → Prop} (hs : k.Carries copy s)
    (hcopy : ∀ t ∈ copy.synced, IsHashText t) (h : Q () k) (path : String) :
    Truthful Q (storeCopy path copy s) k := by
  refine ⟨hs.backs_updateFrom hcopy, fun x => ?_⟩
  cases x with
  | ok u => exact fun _ _ => h
  | error e => exact fun _ ha => (nomatch ha)

/-- Writing a session to a working copy of its own. -/
theorem truthful_saveSession {Q : Unit → Evidence → Prop}
    (hs : k.Carries { template := {} } s) (h : Q () k) (path : String) :
    Truthful Q (saveCopy path (.ofSession s)) k :=
  truthful_storeCopy hs (fun _ ht => (nomatch ht)) h path

/-! ## Loading -/

/-- **Fetching a document is truthful.** -/
theorem truthful_pull (id path : String) : Truthful (fun _ _ => True) (pull id path) k := by
  refine truthful_bind (truthful_confirmReplace (fun b k => ?_) path)
  split
  · exact truthful_pure trivial
  · have hblank : k.Carries { template := {} } {} :=
      .of_unlinked Registry.wellFormed_initial rfl rfl
    refine truthful_bind (truthful_perform ((truthful_fetchWithPrompt hblank id).mono
      fun out k hs => ?_))
    refine truthful_bind (truthful_settle fun summary _ => ?_)
    refine truthful_bind (truthful_saveSession hs ?_ path)
    exact truthful_pure trivial

-- How links are read is of no interest here, and takes long to unfold.
attribute [local irreducible] Link.parse

/-- **Opening a link is truthful.** -/
theorem truthful_openLink (link path : String) :
    Truthful (fun _ _ => True) (openLink link path) k := by
  refine truthful_bind (truthful_settle fun target htarget => ?_)
  cases target with
  | remote id => exact truthful_pull id path
  | inline dt =>
    refine truthful_bind (truthful_confirmReplace (fun b k => ?_) path)
    split
    · exact truthful_pure trivial
    · have hs : k.Carries { template := {} } (Session.ofTemplate dt) :=
        .of_unlinked (Link.wellFormed_of_parse htarget) rfl rfl
      exact truthful_bind (truthful_saveSession hs (truthful_pure trivial) path)

/-- **Pasting is truthful.** -/
theorem truthful_paste (text path : String) : Truthful (fun _ _ => True) (paste text path) k := by
  refine truthful_bind (truthful_settle fun dt hdt => ?_)
  have hdt := Pasted.wellFormed_of_parse (liftEncoding_eq_ok.1 hdt)
  refine truthful_bind (truthful_perform fun x _ => ?_)
  refine truthful_bind (truthful_settle fun found _ => ?_)
  extract_lets s jp
  have hsave (r : Report) : Truthful (fun _ _ => True)
      (saveCopy path (.ofSession (s.applyPasted dt)) >>= fun _ => pure r) (k.read x) :=
    truthful_bind (truthful_saveSession (.of_unlinked hdt rfl rfl) (truthful_pure trivial) path)
  unfold Session.paste
  by_cases hdirty : s.dirty = true
  · rw [if_pos hdirty]
    refine truthful_bind (truthful_perform fun agreed => ?_)
    cases agreed with
    | false => exact truthful_bind (truthful_pure (truthful_pure trivial))
    | true => exact truthful_bind (truthful_pure (hsave _))
  · rw [if_neg hdirty]
    exact truthful_bind (truthful_pure (hsave _))

/-! ## Datasets -/

/-- Listing datasets is truthful. -/
theorem truthful_listDatasets (path : String) : Truthful (fun _ _ => True) (listDatasets path) k :=
  truthful_bind (truthful_openCopy fun _ _ _ _ _ => truthful_pure trivial)

/-- **An edit that leaves something to save** may be written back. -/
theorem carries_of_edits (h : k.Anchors copy s) (hs : k.Carries copy s) {op : Session.Operation}
    {result : Session.Result} {s' : Session} (hedits : Session.Edits s op result s')
    (hmarks : op.marks s result = true) : k.Carries copy s' := by
  obtain ⟨hid, hrevision, -⟩ := hedits.edited.identity
  have hdirty : s'.dirty = true := by rw [hedits.dirty_eq, hmarks, Bool.or_true]
  exact .of_changed h (hs.covers.of_edits hedits) hid hrevision hdirty

/-- **Adding a dataset is truthful.** -/
theorem truthful_addDataset (path name : String) :
    Truthful (fun _ _ => True) (addDataset path name) k := by
  refine truthful_bind (truthful_openCopy fun copy k hcopy hs hanchors => ?_)
  refine truthful_bind (truthful_settle fun s hadd => ?_)
  have hs := carries_of_edits hanchors hs (Session.edits_of_added (liftValidation_eq_ok.1 hadd)) rfl
  exact truthful_bind (truthful_storeCopy hs hcopy.synced (truthful_pure trivial) path)

/-- **Removing a dataset is truthful.** -/
theorem truthful_removeDataset (path name : String) :
    Truthful (fun _ _ => True) (removeDataset path name) k := by
  refine truthful_bind (truthful_openCopy fun copy k hcopy hs hanchors => ?_)
  have hstore {s : Session} (hs : k.Carries copy s) (r : Report) :
      Truthful (fun _ _ => True) (do storeCopy path copy s; return r) k :=
    truthful_bind (truthful_storeCopy hs hcopy.synced (truthful_pure trivial) path)
  dsimp only
  generalize copy.session = opened at hs hanchors
  have hedits := Session.edits_of_removeDataset (s := opened) name
  generalize opened.removeDataset name = first at hedits
  obtain ⟨first, s⟩ := first
  refine truthful_bind (truthful_settle fun decision hdecision => ?_)
  obtain rfl := liftValidation_eq_ok.1 hdecision
  -- A dataset without texts is removed at once, and any other one if the user agrees.
  cases decision with
  | done removal =>
    exact truthful_bind (truthful_pure (hstore (carries_of_edits hanchors hs hedits rfl) _))
  | ask q =>
    obtain rfl := hedits.eq_of_asked
    refine truthful_bind (truthful_perform fun agreed => ?_)
    cases agreed with
    | false => exact truthful_bind (truthful_pure (truthful_pure trivial))
    | true =>
      refine truthful_bind (truthful_settle fun removal hremove => ?_)
      have hmarks : Session.Operation.marks s (.removed ((s.removeNow q.action).1.map .done))
          (.confirmRemove q.action) = true := by
        rw [liftValidation_eq_ok.1 hremove]
        rfl
      exact truthful_bind
        (truthful_pure (hstore (carries_of_edits hanchors hs .confirmed hmarks) _))

/-! ## Saving -/

/-- **The end of a push is truthful.** -/
theorem truthful_finishPush (ctx : Context) (path : String) (hcopy : ∀ t ∈ copy.synced, IsHashText t)
    (r : Report) (outcome : Sync.SaveOutcome) (hs : k.Carries copy s) :
    Truthful (fun _ _ => True) (finishPush ctx path copy s r outcome) k := by
  refine truthful_bind (truthful_perform ((truthful_saveWithPrompt hs _ _ _).mono fun out k hs => ?_))
  have hpushed (id text : String) :
      Truthful (fun _ _ => True) (pushed ctx path copy out.2 r id text) k := by
    refine truthful_bind (truthful_storeCopy hs hcopy ?_ path)
    exact truthful_bind (truthful_settle fun _ _ => truthful_pure trivial)
  refine truthful_bind (truthful_settle fun result _ => ?_)
  cases result with
  | created id => exact hpushed id _
  | updated id revision => exact hpushed id _
  | noChanges => exact truthful_pure trivial
  | notUpdated => exact truthful_pure trivial
  | discarded => exact truthful_pure trivial
  | passwordRequired p => exact truthful_pure trivial

/-- **A push is truthful**, with any options. -/
theorem truthful_push (ctx : Context) (path : String) (o : PushOptions) :
    Truthful (fun _ _ => True) (push ctx path o) k := by
  refine truthful_bind (truthful_openCopy fun copy k hcopy hs _ => ?_)
  -- A copy that is detached has no identity, so there is nothing it could be wrong about.
  have hchosen : ∃ chosen : WorkingCopy,
      chosen = (if o.newLink && !copy.session.isUnsaved then detached copy else copy) ∧
        chosen.Sound ∧ k.Carries chosen chosen.session := by
    refine ⟨_, rfl, ?_⟩
    split
    · exact ⟨⟨hcopy.template, fun _ hr => (nomatch hr), fun _ hs => (nomatch hs)⟩,
        .of_unlinked hcopy.template rfl rfl⟩
    · exact ⟨hcopy, hs⟩
  obtain ⟨chosen, hchosen, hsound, hs⟩ := hchosen
  dsimp only
  rw [← hchosen]
  refine truthful_bind (truthful_perform ((Sync.truthful_save hs _).mono fun out k hs => ?_))
  obtain ⟨first, s⟩ := out
  refine truthful_bind (truthful_settle fun start _ => ?_)
  cases start with
  | saved outcome => exact truthful_finishPush ctx path hsound.synced _ _ hs
  | conflict q =>
    -- The conflict is settled by an overwrite, with or without a question before it.
    have hoverwrite (r : Report) : Truthful (fun _ _ => True)
        (perform (Sync.overwrite ctx.options s q.action) >>= fun out =>
          settle out.1 >>= finishPush ctx path chosen out.2 r) k := by
      refine truthful_bind (truthful_perform ((Sync.truthful_overwrite hs _ _).mono
        fun out k hs => ?_))
      exact truthful_bind (truthful_settle fun outcome _ =>
        truthful_finishPush ctx path hsound.synced _ _ hs)
    dsimp only
    split
    · exact truthful_bind (truthful_pure (hoverwrite _))
    · refine truthful_bind (truthful_perform fun agreed => ?_)
      cases agreed with
      | false => exact truthful_pure (Q := fun _ _ => True) (k := k) trivial
      | true => exact hoverwrite _

/-- **Setting passwords is truthful.** -/
theorem truthful_protect (ctx : Context) (path : String) (p : Protection) :
    Truthful (fun _ _ => True) (protect ctx path p) k := by
  refine truthful_bind (truthful_openCopy fun copy k hcopy hs hanchors => ?_)
  refine truthful_bind (truthful_settle fun s hprotect => ?_)
  -- Setting passwords changes neither document nor record.
  have hs : k.Carries copy s := by
    obtain ⟨-, -, rfl⟩ := Session.protect_eq_ok (liftValidation_eq_ok.1 hprotect)
    exact .of_changed hanchors (hs.covers.of_registry hs.covers.registry rfl rfl rfl) rfl rfl rfl
  refine truthful_bind (truthful_perform ((Sync.truthful_update hs _).mono fun out k hs => ?_))
  obtain ⟨first, s⟩ := out
  refine truthful_bind (truthful_settle fun outcome _ => ?_)
  refine truthful_bind (truthful_perform ((truthful_saveWithPrompt hs _ _ _).mono
    fun out k hs => ?_))
  refine truthful_bind (truthful_settle fun result _ => ?_)
  cases result with
  | updated id revision =>
    exact truthful_bind (truthful_storeCopy hs hcopy.synced (truthful_pure trivial) path)
  | _ => exact truthful_pure trivial

end Command

end TemplateShare
