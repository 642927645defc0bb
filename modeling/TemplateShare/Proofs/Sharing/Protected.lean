import TemplateShare.Proofs.Command.Outcome
import TemplateShare.Proofs.Portable.Readable
import TemplateShare.Proofs.Session.Edit
import TemplateShare.Proofs.Sharing.Accepted
import TemplateShare.Proofs.Store.Guarded
import TemplateShare.Proofs.Wire.RoundTrip

/-! # What it means to set passwords

A session sets passwords for its document with an update. From then on, as long as nobody else
writes the document, session and store mean the same by them: an update needs the password that
guards changes, a fetch either of them if there is one for opening, and the session itself is never
asked for a password.

* **`Solo`**, **`Solo.Step`** — a session and a store in which nobody else writes.
* **`Solo.Secured`** — the passwords that were set are those that are asked for and presented;
  **`Solo.secured_of_updated`** — so it is after the update.
* **`Solo.agrees_of_protect`** — what the store answers from then on.
* **`Solo.exists_unreadable_fetch`** — the session may still be unable to read what it has sent. -/

namespace TemplateShare

/-! ## What edits and updates leave -/

namespace Session

variable {s s' : Session} {p : Protection}

/-- **An update that sets passwords leaves the session with them.** -/
theorem access_completeUpdate_of_pending (h : s.pendingProtection = some p) (revision : Nat)
    (hash presented : Option String) (now : Instant) :
    (s.completeUpdate revision hash presented now).access =
        (s.remoteId, p.openPassword, p.modifyPassword) ∧
      (s.completeUpdate revision hash presented now).pendingProtection = none := by
  rw [completeUpdate, settlePasswords, h]
  exact ⟨rfl, rfl⟩

/-- **An update that presents the password that is held** leaves the passwords as they were. -/
theorem access_completeUpdate_own (h : s.pendingProtection = none) (revision : Nat)
    (hash : Option String) (now : Instant) :
    (s.completeUpdate revision hash s.updateCredential now).access = s.access ∧
      (s.completeUpdate revision hash s.updateCredential now).pendingProtection = none := by
  have hown : s.settlePasswords s.updateCredential = s := by
    rw [settlePasswords, h]
    exact if_neg fun hother => hother.2 rfl
  rw [completeUpdate, hown]
  exact ⟨rfl, h⟩

end Session

/-! ## Fetches of the session -/

namespace Sync

variable {envs : Nat → Store.Setting} {u : User} {σ : Surroundings} {s : Session} {id : String}

/-- **What a fetch of the session's document comes to** is what its reply is applied to. -/
theorem run_fetch (hid : DocumentId.isValid id = true) (hlinked : s.remoteId = some id)
    {reply : Reply} {store : Store}
    (h : σ.store.send (envs σ.store.requests.length) (fetchRequest id s.fetchCredential) =
      (reply, store)) :
    (fetch s id).run (.settled envs u) σ =
      (applyFetch (s.beginLoad id).2 ⟨(s.beginLoad id).1, s.fetchCredential⟩ reply,
        { σ with store }) := by
  have hbegin : beginFetch s id =
      .ok (⟨(s.beginLoad id).1, s.fetchCredential⟩, (s.beginLoad id).2) := by
    rw [beginFetch, if_pos hid, if_pos hlinked]
  rw [fetch, hbegin]
  exact Dialogue.run_exchange h _

/-- A fetch that is answered with what cannot be read. -/
theorem applyFetch_unreadable {p : PendingFetch} {r : Response} {e : EncodingError}
    (current : s.generation = p.ticket.generation) (success : r.status = 200)
    (unread : RemoteDocument.parse r.body = .error e) :
    applyFetch s p (.ok r) = (.error (.encoding e), s.abortLoad p.ticket .failed) := by
  rw [applyFetch, if_neg (not_not_intro current)]
  simp only [success, unread]

end Sync

/-! ## A session and a store -/

/-- **A session by itself with a store**, and whatever else there is around them. -/
structure Solo where
  session : Session
  surroundings : Surroundings

namespace Solo

/-- The store. -/
abbrev store (w : Solo) : Store := w.surroundings.store

variable (envs : Nat → Store.Setting) (u : User) (o : Sync.Options)

/-- **The session is updated.** -/
def update (w : Solo) : Except Error Sync.SaveOutcome × Solo :=
  let ((out, s), σ) := (Sync.update o w.session).run (.settled envs u) w.surroundings
  (out, ⟨s, σ⟩)

/-- **The session fetches** a document. -/
def fetch (id : String) (w : Solo) : Except Error Sync.FetchOutcome × Solo :=
  let ((out, s), σ) := (Sync.fetch w.session id).run (.settled envs u) w.surroundings
  (out, ⟨s, σ⟩)

/-- A request of someone else. -/
def send (env : Store.Setting) (r : Request) (w : Solo) : Solo :=
  { w with surroundings.store := (w.store.send env r).2 }

/-- **A session is edited.** The edit may fail. -/
def Edit (s s' : Session) : Prop :=
  ∃ op result, op.isEdit = true ∧ Session.Step s op [] result s'

/-- **What happens while nobody else writes**: edits, updates of the session as far as revisions go,
and requests of others that change no document. -/
inductive Step (w : Solo) : Solo → Prop
  | edit {s' : Session} (edit : Edit w.session s') : Step w ⟨s', w.surroundings⟩
  | update (o : Sync.Options) (bound : w.session.revision + 1 < Nat.pow 2 64) :
      Step w (w.update envs u o).2
  | other {env : Store.Setting} {r : Request}
      (same : (w.store.send env r).2.documents = w.store.documents) : Step w (w.send env r)

variable {envs u o} {w w' : Solo} {s s' : Session} {id : String} {n : Nat} {p : Protection}

/-- Edits leave well-formed sessions. -/
theorem wellFormed_of_edit (h : Edit s s') (hs : s.WellFormed) : s'.WellFormed := by
  obtain ⟨op, result, hop, hstep⟩ := h
  refine Session.wellFormed_of_step hstep ?_ hs
  cases op <;> trivial

/-- An edit changes the document and marks it as changed, and nothing else. -/
theorem edited_of_edit (h : Edit s s') : s.Edited s' := by
  obtain ⟨op, result, hop, hstep⟩ := h
  exact Session.edited_of_step hstep hop

/-! ## Exchanges of the session -/

/-- **A fetch of the session's document** comes to what its reply is applied to. -/
theorem fetch_answered {reply : Reply} {store : Store} {out : Except Error Sync.FetchOutcome}
    (hid : DocumentId.isValid id = true) (hlinked : w.session.remoteId = some id)
    (hsend : w.store.send (envs w.store.requests.length)
      (Sync.fetchRequest id w.session.fetchCredential) = (reply, store))
    (happly : Sync.applyFetch (w.session.beginLoad id).2
      ⟨(w.session.beginLoad id).1, w.session.fetchCredential⟩ reply = (out, s')) :
    w.fetch envs u id = (out, ⟨s', { w.surroundings with store }⟩) := by
  rw [fetch, Sync.run_fetch hid hlinked hsend, happly]

/-- **An update that is let in comes to the next revision.** -/
theorem update_accepted {d : Store.Document} (hid : DocumentId.isValid id = true)
    (hfaults : w.store.faults = []) (hwell : w.session.WellFormed)
    (hlinked : w.session.remoteId = some id) (hdirty : w.session.dirty = true)
    (hd : w.store.get? id = some d) (hadmits : d.admits id w.session.updateCredential = true)
    (hrevision : d.revision = w.session.revision) (hbound : w.session.revision + 1 < Nat.pow 2 64) :
    w.update envs u o = (.ok (.updated id (w.session.revision + 1)),
      ⟨w.session.beginSave.2.completeUpdate (w.session.revision + 1)
          (some (RemoteDocument.hashOf w.session.snapshot.sent (w.session.revision + 1)))
          w.session.updateCredential o.now,
        (w.surroundings.noted (Sync.updateRequest o w.session.beginSave.2 id
            (w.session.revision + 1) w.session.updateCredential)).put id
          (Store.updatedDocument (envs w.store.requests.length) id w.session.beginSave.2
            (w.session.revision + 1) d)⟩) := by
  have hlater : d.revision < w.session.revision + 1 := by omega
  rw [update, Sync.update_eq_sendUpdate hlinked hdirty, Sync.run_sendUpdate_accepted
    (s := w.session.beginSave.2) hid hlinked hwell hbound hfaults hd (beq_self_eq_true _) hadmits
    hlater]
  rfl

/-- Without changes nothing is sent. -/
theorem update_unchanged (hlinked : w.session.remoteId = some id)
    (hclean : w.session.dirty = false) : w.update envs u o = (.ok .noChanges, w) := by
  have hsaved : ¬w.session.isUnsaved = true := by rw [Session.isUnsaved, hlinked]; simp
  rw [update, Sync.update, if_neg hsaved, hclean]
  rfl

/-- **What an update has been that is accepted**: one exchange, whose answer the session has
read. -/
theorem exchange_of_updated (h : w.update envs u o = (.ok (.updated id n), w')) :
    w.session.remoteId = some id ∧ n = w.session.revision + 1 ∧ ∃ env r named hash,
      w.store.send env (Sync.updateRequest o w.session.beginSave.2 id n w.session.updateCredential) =
        (.ok r, w'.store) ∧ r.status = 200 ∧ Sync.parseAnswer r.body = .ok (named, hash) ∧
      w'.session = w.session.beginSave.2.completeUpdate n hash w.session.updateCredential o.now := by
  unfold update at h
  cases hlinked : w.session.remoteId with
  | none =>
    rw [Sync.update, if_pos (by rw [Session.isUnsaved, hlinked]; rfl)] at h
    cases (Prod.mk.inj h).1
  | some id' =>
    cases hdirty : w.session.dirty with
    | false =>
      have hnothing : w.update envs u o = (.ok .noChanges, w) := update_unchanged hlinked hdirty
      cases (Prod.mk.inj (hnothing.symm.trans h)).1
    | true =>
      -- There is something to save, so the update is sent, in one exchange.
      generalize hsend : w.store.send (envs w.store.requests.length)
        (Sync.updateRequest o w.session.beginSave.2 id' (w.session.revision + 1)
          w.session.updateCredential) = answer at h
      obtain ⟨reply, store⟩ := answer
      have hrun := Sync.run_sendUpdate (u := u) (t := w.session.beginSave.1)
        (show w.session.beginSave.2.remoteId = some id' from hlinked) hsend
      rw [Sync.update_eq_sendUpdate hlinked hdirty, hrun] at h
      have hcases := Sync.updated_applyUpdate o w.session.beginSave.2 w.session.beginSave.1 id'
        (w.session.revision + 1) w.session.updateCredential reply
      generalize Sync.applyUpdate o w.session.beginSave.2 w.session.beginSave.1 id'
        (w.session.revision + 1) w.session.updateCredential reply = out at hcases h
      cases hcases with
      | updated _ answered success read =>
        cases h
        subst answered
        exact ⟨rfl, rfl, _, _, _, _, hsend, success, read, rfl⟩
      | _ => cases h

/-! ## Passwords that are set -/

/-- **A document is secured** by passwords that the session has set: the session holds them, the
document has them, and both are at one revision. -/
structure Secured (id : String) (p : Protection) (w : Solo) : Prop where
  valid : DocumentId.isValid id = true
  faults : w.store.faults = []
  wellFormed : w.session.WellFormed
  access : w.session.access = (some id, p.openPassword, p.modifyPassword)
  pending : w.session.pendingProtection = none
  stored : ∃ d, w.store.get? id = some d ∧ d.IsGuardedBy id p ∧ d.Sound ∧
    d.revision = w.session.revision ∧ w.session.revision < Nat.pow 2 64

/-- **An update that sets passwords secures the document.** -/
theorem secured_of_updated (hs : w.session.WellFormed)
    (hpending : w.session.pendingProtection = some p)
    (h : w.update envs u o = (.ok (.updated id n), w')) : w'.Secured id p := by
  obtain ⟨hlinked, -, env, r, named, hash, hsend, success, read, hsession⟩ := exchange_of_updated h
  have hbegun : w.session.beginSave.2.pendingProtection = some p := hpending
  obtain ⟨hid, hfaults, d, hd, hguarded, hsound, hrevision, hbound⟩ :=
    Store.exists_isGuardedBy hbegun hsend success read
  obtain ⟨haccess, hsettled⟩ := Session.access_completeUpdate_of_pending hbegun n hash
    w.session.updateCredential o.now
  obtain ⟨hregistry, -⟩ := Session.document_completeUpdate w.session.beginSave.2 n hash
    w.session.updateCredential o.now
  rw [← hsession] at haccess hsettled hregistry
  refine ⟨hid, hfaults, ?_, ?_, hsettled, d, hd, hguarded, hsound, ?_⟩
  · rw [Session.WellFormed, hregistry]
    exact hs
  · rw [haccess, ← hlinked]
    rfl
  · rw [hsession]
    exact ⟨hrevision, hbound⟩

/-- **How a fetch of the session's document ends**: the document is loaded if it can be read. -/
structure Fetches (envs : Nat → Store.Setting) (u : User) (id : String) (d : Store.Document)
    (w : Solo) : Prop where
  stored : w.store.get? id = some d
  revision : d.revision = w.session.revision
  sound : d.Sound
  loaded : ∀ dt, d.Holds dt → Portable.IsReadable dt → ∃ updated,
    (w.fetch envs u id).1 = .ok (.loaded ⟨id, d.revision, updated, true⟩) ∧
      (w.fetch envs u id).2.session.snapshot = dt.reloaded
  unreadable : ∀ dt, d.Holds dt → ¬Portable.IsReadable dt →
    ∃ e, (w.fetch envs u id).1 = .error (.encoding e)

namespace Secured

variable (h : w.Secured id p)

include h

/-- The session has the document. -/
theorem linked : w.session.remoteId = some id := congrArg Prod.fst h.access

/-- **The session presents the password that guards changes.** -/
theorem updateCredential_eq : w.session.updateCredential = p.guard? := by
  have hopen : w.session.openPassword = p.openPassword := congrArg (·.2.1) h.access
  have hmodify : w.session.modifyPassword = p.modifyPassword := congrArg (·.2.2) h.access
  rw [Session.updateCredential, hopen, hmodify, Protection.guard?]

/-- **The session presents a password that opens the document.** -/
theorem fetchCredential_eq :
    w.session.fetchCredential = (p.openPassword <|> p.modifyPassword) := by
  have hopen : w.session.openPassword = p.openPassword := congrArg (·.2.1) h.access
  have hmodify : w.session.modifyPassword = p.modifyPassword := congrArg (·.2.2) h.access
  rw [Session.fetchCredential, hopen, hmodify]

/-- **An update of a session that has changed is accepted**, and the document stays secured. -/
theorem update (envs : Nat → Store.Setting) (u : User) (o : Sync.Options)
    (hdirty : w.session.dirty = true) (hbound : w.session.revision + 1 < Nat.pow 2 64) :
    ∃ w', w.update envs u o = (.ok (.updated id (w.session.revision + 1)), w') ∧
      w'.Secured id p ∧
        ∃ d, w'.store.get? id = some d ∧ d.Holds w.session.snapshot.sent := by
  obtain ⟨d, hd, hguarded, hsound, hrevision, -⟩ := h.stored
  have hadmits : d.admits id w.session.updateCredential = true := by
    rw [h.updateCredential_eq]
    exact hguarded.admits_guard?
  have hbegun : w.session.beginSave.2.pendingProtection = none := h.pending
  obtain ⟨hholds, hrevision'⟩ := hsound.holds_update (x := w.session.beginSave.2) h.wellFormed
    (envs w.store.requests.length) id (w.session.revision + 1)
  obtain ⟨haccess, hsettled⟩ := Session.access_completeUpdate_own hbegun (w.session.revision + 1)
    (some (RemoteDocument.hashOf w.session.snapshot.sent (w.session.revision + 1))) o.now
  obtain ⟨hregistry, -⟩ := Session.document_completeUpdate w.session.beginSave.2
    (w.session.revision + 1)
    (some (RemoteDocument.hashOf w.session.snapshot.sent (w.session.revision + 1)))
    w.session.updateCredential o.now
  refine ⟨_, update_accepted h.valid h.faults h.wellFormed h.linked hdirty hd hadmits hrevision
      hbound, ⟨h.valid, h.faults, ?_, haccess.trans h.access, hsettled, _, Store.get?_put_self _ _ _,
      hguarded.update hbegun _ _, ⟨_, hholds⟩, hrevision', hbound⟩,
    _, Store.get?_put_self _ _ _, hholds⟩
  rw [Session.WellFormed, hregistry]
  exact h.wellFormed

/-- **A fetch is let in without a question**, and loads the document if it can be read. -/
theorem fetch (envs : Nat → Store.Setting) (u : User) :
    ∃ d, w.Fetches envs u id d := by
  obtain ⟨d, hd, hguarded, hsound, hrevision, hbound⟩ := h.stored
  have hsend := Store.send_fetchRequest h.faults h.valid hd (envs w.store.requests.length)
    w.session.fetchCredential
  have hopens : d.opens id w.session.fetchCredential = true := by
    rw [h.fetchCredential_eq]
    exact hguarded.opens_own
  rw [hopens, if_pos rfl] at hsend
  -- The load is still the latest one when its reply arrives.
  have hcurrent : (w.session.beginLoad id).2.generation =
    (w.session.beginLoad id).1.generation := rfl
  refine ⟨d, hd, hrevision, hsound, fun dt hholds hread => ?_, fun dt hholds hread => ?_⟩
  · obtain ⟨x, hx⟩ := hholds.exists_parse_text.2 ⟨hread, hrevision ▸ hbound⟩
    obtain ⟨htemplate, -, hheld, hprotected⟩ := hholds.parse_text hx
    rw [fetch_answered h.valid h.linked hsend
      (Sharing.applyFetch_document (r := Store.okResponse d.text) hcurrent rfl hx), hheld,
      hprotected, hguarded.isProtected_eq]
    refine ⟨x.updated, rfl, ?_⟩
    rw [← htemplate]
    exact Session.snapshot_completeLoad hcurrent _ _
  · cases hx : RemoteDocument.parse d.text with
    | ok x => exact absurd (hholds.exists_parse_text.1 ⟨x, hx⟩).1 hread
    | error e =>
      rw [fetch_answered h.valid h.linked hsend
        (Sync.applyFetch_unreadable (r := Store.okResponse d.text) hcurrent rfl hx)]
      exact ⟨e, rfl⟩

/-- **Whatever happens while nobody else writes, the document stays secured.** -/
theorem step (hstep : Step envs u w w') : w'.Secured id p := by
  cases hstep with
  | edit hedit =>
    have hedited := edited_of_edit hedit
    obtain ⟨d, hd, hguarded, hsound, hrevision, hbound⟩ := h.stored
    refine ⟨h.valid, h.faults, wellFormed_of_edit hedit h.wellFormed, hedited.access.trans h.access,
      hedited.pendingProtection.trans h.pending, d, hd, hguarded, hsound, ?_⟩
    rw [hedited.revision]
    exact ⟨hrevision, hbound⟩
  | update o hbound =>
    cases hdirty : w.session.dirty with
    | false =>
      rw [update_unchanged h.linked hdirty]
      exact h
    | true =>
      obtain ⟨w', hrun, hsecured, -⟩ := h.update envs u o hdirty hbound
      rw [hrun]
      exact hsecured
  | @other env r hsame =>
    obtain ⟨d, hd, hrest⟩ := h.stored
    exact ⟨h.valid, Store.faults_send h.faults env r, h.wellFormed, h.access, h.pending, d,
      (Store.get?_congr hsame id).trans hd, hrest⟩

end Secured

/-- Passwords that are to be set, and edits, leave what an update needs to set them. -/
theorem pending_of_protect {s₁ s₂ : Session} (hs : s.WellFormed) (protect : s.protect p = .ok s₁)
    (edits : Relation.ReflTransGen Edit s₁ s₂) :
    s₂.WellFormed ∧ s₂.pendingProtection = some p := by
  induction edits with
  | refl =>
    obtain ⟨-, -, rfl⟩ := Session.protect_eq_ok protect
    exact ⟨hs, rfl⟩
  | tail _ edit ih =>
    exact ⟨wellFormed_of_edit edit ih.1, (edited_of_edit edit).pendingProtection.trans ih.2⟩

/-! ## What passwords mean -/

/-- **Session and store agree on the passwords of a document**, as far as their hashes tell them apart.
The store refuses an update without a password and accepts one with a password if and only if it is
the one that guards changes; it opens the document to either password, and to all where none is for
opening. The session's own updates are accepted, and its fetch is let in, without a question. -/
structure Agrees (envs : Nat → Store.Setting) (u : User) (id : String) (p : Protection) (w : Solo) :
    Prop where
  refused : ∀ env r, w.store.IsUpdate id r → r.header? Header.password = none →
    ∃ x, (w.store.send env r).1 = .ok x ∧ x.status = 401
  accepted : ∀ env r q, w.store.IsUpdate id r → r.header? Header.password = some q →
    p.TellsApart id q → ∃ x, (w.store.send env r).1 = .ok x ∧ (x.status = 200 ↔ p.guard? = some q)
  opened : ∀ env r q, r.method = .get → Store.target? r.path = some (.document id) →
    r.header? Header.password = some q → p.TellsApart id q →
    ∃ x, (w.store.send env r).1 = .ok x ∧ (x.status = 200 ↔
      p.openPassword = none ∨ p.openPassword = some q ∨ p.modifyPassword = some q)
  updates : ∀ o, w.session.revision + 1 < Nat.pow 2 64 → (w.update envs u o).1 =
    .ok (if w.session.dirty then .updated id (w.session.revision + 1) else .noChanges)
  fetches : ∃ d, w.Fetches envs u id d

/-- Where a document is secured, session and store agree. -/
theorem Secured.agrees (h : w.Secured id p) (envs : Nat → Store.Setting) (u : User) :
    w.Agrees envs u id p := by
  obtain ⟨d, hd, hguarded, -⟩ := h.stored
  refine ⟨fun env r hr hnone => ?_, fun env r q hr hq hapart => ?_,
    fun env r q hmethod htarget hq hapart => ?_, fun o hbound => ?_, h.fetch envs u⟩
  · obtain ⟨x, hx, hstatus⟩ := Store.status_of_isUpdate h.faults hd hr env
    rw [hnone, hguarded.not_admits_none] at hstatus
    exact ⟨x, hx, hstatus⟩
  · obtain ⟨x, hx, hstatus⟩ := Store.status_of_isUpdate h.faults hd hr env
    refine ⟨x, hx, ?_⟩
    rw [hstatus, hq, ← hguarded.admits_iff hapart]
    cases d.admits id (some q) <;> decide
  · obtain ⟨x, hx, hstatus⟩ := Store.status_of_get h.faults hd hmethod htarget env
    rw [hq] at hstatus
    exact ⟨x, hx, hstatus.trans (hguarded.opens_iff hapart)⟩
  · cases hdirty : w.session.dirty with
    | false => rw [update_unchanged h.linked hdirty]; rfl
    | true =>
      obtain ⟨w', hrun, -⟩ := h.update envs u o hdirty hbound
      rw [hrun]
      rfl

/-- **After passwords have been set, session and store agree on them.** A session is to set
passwords, is edited further, and updated. From then on, whatever it edits and however often it is
updated while nobody else writes, the passwords mean to the store what they mean to the session. -/
theorem agrees_of_protect {s₁ s₂ : Session} {σ : Surroundings} (hs : s.WellFormed)
    (protect : s.protect p = .ok s₁) (edits : Relation.ReflTransGen Edit s₁ s₂)
    (updated : (⟨s₂, σ⟩ : Solo).update envs u o = (.ok (.updated id n), w))
    (since : Relation.ReflTransGen (Step envs u) w w') : w'.Agrees envs u id p := by
  obtain ⟨hs₂, hpending⟩ := pending_of_protect hs protect edits
  have hsecured : w'.Secured id p := by
    induction since with
    | refl => exact secured_of_updated hs₂ hpending updated
    | tail _ step ih => exact ih.step step
  exact hsecured.agrees envs u

/-! ## A document that gets passwords -/

open Sharing (plainDocument stillSetting plainOptions)

/-- A document without passwords in the store. -/
def openSurroundings : Surroundings where
  files := {}
  store := Store.seed stillSetting "doc1" plainDocument 1 none none {}

/-- A session with the document, as it is in the store. -/
def openSession : Session := .linked plainDocument ⟨"doc1", 1, none, false, none⟩ false

/-- The passwords that the document gets. -/
def bothPasswords : Protection := ⟨some "secret", some "change", .inl rfl⟩

/-- The session once it is to set them. -/
def protectingSession : Session :=
  { openSession with
    pendingProtection := some bothPasswords
    openPassword := none
    modifyPassword := none
    dirty := true }

/-- The session is well-formed. -/
theorem wellFormed_openSession : openSession.WellFormed := DataTemplate.wellFormed_single "" "" "t"

/-- The passwords can be set. -/
theorem protect_openSession : openSession.protect bothPasswords = .ok protectingSession := rfl

/-- A clock that stands still at every request. -/
def stillSettings (_ : Nat) : Store.Setting := stillSetting

/-- A user who gives no answer and agrees to nothing. -/
def silentUser : User := ⟨fun _ => none, fun _ => false⟩

/-- **The store accepts them.** -/
theorem exists_protected : ∃ w,
    (⟨protectingSession, openSurroundings⟩ : Solo).update stillSettings silentUser plainOptions =
      (.ok (.updated "doc1" 2), w) ∧ w.session.template = "t" ∧ w.session.revision = 2 :=
  ⟨_, update_accepted (d := .write stillSetting plainDocument 1 none none) (by decide) rfl
    wellFormed_openSession rfl rfl (Store.get?_put_self _ _ _) rfl rfl
    (show 2 < Nat.pow 2 64 by decide), rfl, rfl⟩

/-- The passwords are told apart. -/
theorem tellsApart_bothPasswords : bothPasswords.TellsApart "doc1" "secret" := by
  have hne : Store.passwordHash "doc1" "secret" ≠ Store.passwordHash "doc1" "change" := by
    decide +kernel
  intro v hv hhash
  obtain rfl | rfl : v = "secret" ∨ v = "change" := by
    simpa [Protection.passwords, bothPasswords] using hv
  · rfl
  · exact absurd hhash hne

/-- The document that has got the passwords opens to the one for opening. -/
theorem agrees_of_protect_openSession : ∃ w,
    openSession.protect bothPasswords = .ok protectingSession ∧
    (⟨protectingSession, openSurroundings⟩ : Solo).update stillSettings silentUser plainOptions =
      (.ok (.updated "doc1" 2), w) ∧ w.Agrees stillSettings silentUser "doc1" bothPasswords ∧
    ∃ x, (w.store.send stillSetting (Sync.fetchRequest "doc1" (some "secret"))).1 = .ok x ∧
      x.status = 200 := by
  obtain ⟨w, hupdated, -⟩ := exists_protected
  have hagrees := agrees_of_protect wellFormed_openSession protect_openSession .refl hupdated .refl
  obtain ⟨x, hx, hstatus⟩ := hagrees.opened stillSetting (Sync.fetchRequest "doc1" (some "secret"))
    "secret" (Sync.method_fetchRequest _ _) (Store.target?_documentPath "doc1")
    (Sync.header?_fetchRequest _ _) tellsApart_bothPasswords
  exact ⟨w, rfl, hupdated, hagrees, x, hx, hstatus.2 (.inr (.inl rfl))⟩

/-- **A session that cannot read what it has sent.** It sets passwords, and its next update is
accepted as well; but there is a character in the template that YAML refuses, so a fetch of the
document comes to nothing. -/
theorem exists_unreadable_fetch : ∃ w w₁ w₂ e,
    openSession.protect bothPasswords = .ok protectingSession ∧
    (⟨protectingSession, openSurroundings⟩ : Solo).update stillSettings silentUser plainOptions =
      (.ok (.updated "doc1" 2), w) ∧ Step stillSettings silentUser w w₁ ∧
    w₁.update stillSettings silentUser plainOptions = (.ok (.updated "doc1" 3), w₂) ∧
    (w₂.fetch stillSettings silentUser "doc1").1 = .error (.encoding e) := by
  obtain ⟨w, hupdated, htemplate, hrevision⟩ := exists_protected
  have hsecured : w.Secured "doc1" bothPasswords :=
    secured_of_updated wellFormed_openSession rfl hupdated
  obtain ⟨s, hedit, htext, hrevised, hdirty⟩ : ∃ s, Edit w.session s ∧ s.template = "\uFFFF" ∧
      s.revision = 2 ∧ s.dirty = true := by
    have hne : w.session.template ≠ "\uFFFF" := by rw [htemplate]; decide
    have hedit : w.session.editTemplate "\uFFFF" =
        { w.session with template := "\uFFFF", dirty := true } := if_neg hne
    refine ⟨_, ⟨.editTemplate "\uFFFF", _, rfl, .done _⟩, ?_⟩
    rw [hedit]
    exact ⟨rfl, hrevision, rfl⟩
  have hstep : Step stillSettings silentUser w ⟨s, w.surroundings⟩ := .edit hedit
  have hbound : s.revision + 1 < Nat.pow 2 64 := by
    rw [hrevised]
    decide
  obtain ⟨w₂, hupdated', hsecured', d, hd, hholds⟩ :=
    (hsecured.step hstep).update stillSettings silentUser plainOptions hdirty hbound
  obtain ⟨d', hfetches⟩ := hsecured'.fetch stillSettings silentUser
  obtain rfl := Option.some.inj (hd.symm.trans hfetches.stored)
  -- The store holds the character as it was typed.
  have hunreadable : ¬Portable.IsReadable s.snapshot.sent := by
    rw [Portable.isReadable_iff hholds.template]
    rintro ⟨⟨hclean, -⟩, -⟩
    rw [DataTemplate.template_sent, Session.snapshot_template, htext] at hclean
    exact absurd hclean (by decide)
  obtain ⟨e, he⟩ := hfetches.unreadable _ hholds hunreadable
  have hthird : s.revision + 1 = 3 := by rw [hrevised]
  refine ⟨w, _, w₂, e, rfl, hupdated, hstep, ?_, he⟩
  rw [← hthird]
  exact hupdated'

end Solo

end TemplateShare
