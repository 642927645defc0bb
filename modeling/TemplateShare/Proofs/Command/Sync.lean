import TemplateShare.Proofs.Command.Covered
import TemplateShare.Proofs.Session.Passwords

/-! # Loading and saving go by what is known

Every exchange of a session that stands at the opened record is guarded, and leaves a session of a
revision that is known, since the reply has told of it.

* **`Knowledge.Fetches`**, **`Knowledge.Saves`** — what a load and a save may come to.
* **`Sync.guarded_fetch`**, **`Sync.guarded_save`**, **`Sync.guarded_resumeUpdate`** — that they do. -/

namespace TemplateShare

namespace Knowledge

/-- **What a load may come to**: a session of a known revision, or a question about a valid id. -/
structure Fetches (k : Knowledge) (out : Sync.Outcome Sync.FetchOutcome) : Prop where
  session : k.Covers out.2
  ticket : ∀ t, out.1 = .ok (.passwordRequired t) → DocumentId.isValid t.id = true

/-- **What a save may come to**: a session of a known revision. A question for a password is about the
document of the opened record, and about the revision after the record's. -/
structure Saves (k : Knowledge) (out : Sync.Outcome Sync.SaveOutcome) : Prop where
  session : k.Covers out.2
  prompt : ∀ p, out.1 = .ok (.passwordRequired p) → ∃ record, k.opened = some record ∧
    out.2.remoteId = some record.id ∧ p.revision = record.revision + 1

variable {k : Knowledge} {s : Session} {r : Request} {reply : Reply}

/-- A save that does not ask for a password. -/
theorem Saves.of_not_asked {x : Except Error Sync.SaveOutcome} (h : k.Covers s)
    (hx : ∀ p, x ≠ .ok (.passwordRequired p)) : k.Saves (x, s) :=
  ⟨h, fun p hp => absurd hp (hx p)⟩

/-- A request for a document replaces nothing. -/
theorem permits_fetchRequest (id : String) (password : Option String) :
    k.Permits (Sync.fetchRequest id password) := by
  intro id' hpost
  rw [Sync.method_fetchRequest] at hpost
  cases hpost

/-- A new document replaces nothing. -/
theorem permits_writeRequest (o : Sync.Options) (s : Session) :
    k.Permits (Sync.writeRequest o s none) := by
  intro id _ hpath
  rw [Sync.path_writeRequest] at hpath
  cases documentPath_injective hpath

/-- **An update of the opened record** to the next revision is permitted. -/
theorem permits_updateRequest {record : SyncRecord} (h : k.opened = some record) (o : Sync.Options)
    (s : Session) (password : Option String) :
    k.Permits (Sync.updateRequest o s record.id (record.revision + 1) password) := by
  intro id _ hpath
  rw [Sync.path_updateRequest] at hpath
  refine ⟨record, h, Option.some.inj (documentPath_injective hpath), fun n hn => ?_⟩
  rw [Store.requestedRevision?_updateRequest] at hn
  split at hn
  · exact (Option.some.inj hn).symm
  · cases hn

end Knowledge

namespace Sync

open Session

variable {k : Knowledge} {s : Session} {r : Request} {reply : Reply}

/-! ## Replies that can be relied on -/

/-- **A document that is brought** has a hash, and tells of its revision. -/
theorem Honest.loaded {p : PendingFetch} {x : Response} {d : RemoteDocument}
    (h : Honest p.request (.ok x)) (success : x.status = 200)
    (read : RemoteDocument.parse x.body = .ok d) :
    IsHashText d.hash ∧ d.revision.getD 1 < Nat.pow 2 64 ∧
      Tells p.request (.ok x) p.ticket.id (d.revision.getD 1) := by
  have hmethod : p.request.method = .get := method_fetchRequest _ _
  have hpath : p.request.path = documentPath (some p.ticket.id) := path_fetchRequest _ _
  obtain ⟨hhash, hlimit⟩ := h.document x d rfl success hmethod read
  exact ⟨hhash, hlimit, .loaded hmethod hpath success read⟩

/-- **A new document that is accepted** has the revision that was asked for, which is the first one. -/
theorem Honest.created {o : Options} {x : Response} {id : String} {hash : Option String}
    (h : Honest (writeRequest o s none) (.ok x)) (success : x.status = 200)
    (read : parseAnswer x.body = .ok (id, hash)) :
    (∀ h ∈ hash, IsHashText h) ∧ Tells (writeRequest o s none) (.ok x) id 1 := by
  have hmethod := method_writeRequest o s none
  have hrequested : Store.requestedRevision? (writeRequest o s none) = some 1 := by
    rw [Store.requestedRevision?, header?_writeRequest_revision]
  exact ⟨(h.answer x id hash rfl success hmethod read).1,
    .created hmethod (path_writeRequest o s none) success read hrequested⟩

/-- **An update that is accepted** tells of the revision that was asked for, which has 64 bits: the
store reads no larger one, so it would not have answered. -/
theorem Honest.updated {o : Options} {x : Response} {id named : String} {revision : Nat}
    {password hash : Option String} (h : Honest (updateRequest o s id revision password) (.ok x))
    (success : x.status = 200) (read : parseAnswer x.body = .ok (named, hash)) :
    (∀ h ∈ hash, IsHashText h) ∧ revision < Nat.pow 2 64 ∧
      Tells (updateRequest o s id revision password) (.ok x) id revision := by
  have hmethod := method_updateRequest o s id revision password
  have hrequested := Store.requestedRevision?_updateRequest o s id revision password
  obtain ⟨hhash, hsome⟩ := h.answer x named hash rfl success hmethod read
  by_cases hlimit : revision < Nat.pow 2 64
  · rw [if_pos hlimit] at hrequested
    exact ⟨hhash, hlimit,
      .updated hmethod (path_updateRequest o s id revision password) success read hrequested⟩
  · rw [hrequested, if_neg hlimit] at hsome
    cases hsome

/-! ## Loading -/

/-- **A load takes over what the reply tells of.** -/
theorem fetches_applyFetch (hs : k.Covers s) {p : PendingFetch}
    (hid : DocumentId.isValid p.ticket.id = true) (hreply : Honest p.request reply) :
    (k.learn p.request reply).Fetches (applyFetch s p reply) := by
  have hs := hs.learn p.request reply
  have hfetched := fetched_applyFetch s p reply
  generalize applyFetch s p reply = out at hfetched
  cases hfetched with
  | @loaded x d current answered success read =>
    subst answered
    obtain ⟨hhash, hlimit, htells⟩ := hreply.loaded success read
    refine ⟨?_, fun t ht => by cases ht⟩
    unfold completeLoad
    rw [if_neg (not_not_intro current)]
    refine ⟨RemoteDocument.wellFormed_of_parse read, fun id hmem => ?_, fun h hmem => ?_⟩
    · obtain rfl := Option.some.inj hmem
      exact ⟨hid, hlimit, .inr htells⟩
    · obtain rfl := Option.some.inj hmem
      exact hhash
  | asked =>
    refine ⟨hs, fun t ht => ?_⟩
    obtain rfl := FetchOutcome.passwordRequired.inj (Except.ok.inj ht)
    exact hid
  | discarded => exact ⟨hs, fun t ht => by cases ht⟩
  | failed e state => exact ⟨hs.of_kept (kept_abortLoad _ _ _), fun t ht => by cases ht⟩

/-- **A fetch is guarded.** -/
theorem guarded_fetch (hs : k.Covers s) (id : String) :
    (fetch s id).Guarded (fun out k => k.Fetches out) k := by
  unfold fetch beginFetch
  by_cases hid : DocumentId.isValid id = true
  · rw [if_pos hid]
    exact ⟨Knowledge.permits_fetchRequest _ _, fun reply hreply =>
      fetches_applyFetch (hs.of_kept (kept_beginLoad s id)) hid hreply⟩
  · rw [if_neg hid]
    exact ⟨hs, fun t ht => by cases ht⟩

/-- **An answer to a fetch's question is guarded.** -/
theorem guarded_fetchWithPassword (hs : k.Covers s) {t : LoadTicket}
    (hid : DocumentId.isValid t.id = true) (answer : Option String) :
    (fetchWithPassword s t answer).Guarded (fun out k => k.Fetches out) k := by
  unfold fetchWithPassword
  split
  · exact ⟨hs, fun t ht => by cases ht⟩
  · split
    · exact ⟨hs.of_kept (kept_abortLoad _ _ _), fun t ht => by cases ht⟩
    · exact ⟨Knowledge.permits_fetchRequest _ _, fun reply hreply =>
        fetches_applyFetch hs hid hreply⟩

/-! ## Saving -/

/-- **A creation takes over the first revision**, of which the reply tells. -/
theorem saves_applyCreate (hs : k.Covers s) (o : Options) (s₀ : Session) (t : SaveTicket)
    (hreply : Honest (writeRequest o s₀ none) reply) :
    (k.learn (writeRequest o s₀ none) reply).Saves (applyCreate o s t reply) := by
  have hs := hs.learn (writeRequest o s₀ none) reply
  have hcreated := created_applyCreate o s t reply
  generalize applyCreate o s t reply = out at hcreated
  cases hcreated with
  | created _ answered success read =>
    subst answered
    obtain ⟨hhash, htells⟩ := hreply.created success read
    refine .of_not_asked ⟨hs.registry, fun id' hmem => ?_, hhash⟩ fun p hp => by cases hp
    obtain rfl := Option.some.inj hmem
    exact ⟨isValid_of_parseAnswer read, show 1 < Nat.pow 2 64 by decide, .inr htells⟩
  | discarded => exact .of_not_asked hs fun p hp => by cases hp
  | unreadable e => exact .of_not_asked hs fun p hp => by cases hp
  | failed e state =>
    exact .of_not_asked (hs.of_kept (kept_markState _ _ _)) fun p hp => by cases hp

/-- **A creation is guarded.** -/
theorem guarded_create (hs : k.Covers s) (o : Options) :
    (create o s).Guarded (fun out k => k.Saves out) k :=
  ⟨Knowledge.permits_writeRequest o s, fun _ hreply =>
    saves_applyCreate (hs.of_kept (kept_beginSave s)) o s s.beginSave.1 hreply⟩

/-- The passwords that are settled are no part of the document and its record. -/
theorem settlePasswords_document (s : Session) (password : Option String) :
    (s.settlePasswords password).registry = s.registry ∧
      (s.settlePasswords password).remoteId = s.remoteId ∧
      (s.settlePasswords password).contentHash = s.contentHash := by
  unfold settlePasswords
  split
  · exact ⟨rfl, rfl, rfl⟩
  · split <;> exact ⟨rfl, rfl, rfl⟩

/-- **An update takes over its revision**, of which the reply tells. -/
theorem saves_applyUpdate (hs : k.Covers s) {record : SyncRecord} (hopened : k.opened = some record)
    (hid : s.remoteId = some record.id) (o : Options) (t : SaveTicket) (password : Option String)
    (hreply : Honest (updateRequest o s record.id (record.revision + 1) password) reply) :
    (k.learn (updateRequest o s record.id (record.revision + 1) password) reply).Saves
      (applyUpdate o s t record.id (record.revision + 1) password reply) := by
  have hs := hs.learn (updateRequest o s record.id (record.revision + 1) password) reply
  have hupdated := updated_applyUpdate o s t record.id (record.revision + 1) password reply
  generalize applyUpdate o s t record.id (record.revision + 1) password reply = out at hupdated
  cases hupdated with
  | @updated x named hash _ answered success read =>
    subst answered
    obtain ⟨hhash, hlimit, htells⟩ := hreply.updated success read
    -- Settling the passwords changes neither the datasets nor the identity.
    obtain ⟨hregistry, hremote, hsettled⟩ := settlePasswords_document s password
    refine .of_not_asked ⟨?_, fun id hmem => ?_, fun h hmem => ?_⟩ fun p hp => by cases hp
    · show (s.settlePasswords password).registry.WellFormed
      rw [hregistry]
      exact hs.registry
    · obtain rfl : record.id = id := by
        have hmem : (s.settlePasswords password).remoteId = some id := hmem
        rw [hremote, hid] at hmem
        exact Option.some.inj hmem
      exact ⟨(hs.identity record.id hid).1, hlimit, .inr htells⟩
    · cases hash with
      | none => exact hs.hash h (hsettled ▸ hmem)
      | some hash => exact hhash h hmem
  | asked =>
    refine ⟨hs, fun p hp => ?_⟩
    obtain rfl := SaveOutcome.passwordRequired.inj (Except.ok.inj hp)
    exact ⟨record, hopened, hid, rfl⟩
  | discarded => exact .of_not_asked hs fun p hp => by cases hp
  | unreadable e => exact .of_not_asked hs fun p hp => by cases hp
  | failed e state =>
    exact .of_not_asked (hs.of_kept (kept_markState _ _ _)) fun p hp => by cases hp

/-- **An update of the opened record is guarded.** -/
theorem guarded_sendUpdate (hs : k.Covers s) {record : SyncRecord} (hopened : k.opened = some record)
    (hid : s.remoteId = some record.id) (o : Options) (t : SaveTicket) (password : Option String) :
    (sendUpdate o s t (record.revision + 1) password).Guarded (fun out k => k.Saves out) k := by
  unfold sendUpdate
  rw [hid]
  exact ⟨Knowledge.permits_updateRequest hopened o s password, fun _ hreply =>
    saves_applyUpdate hs hopened hid o t password hreply⟩

/-- **An update is guarded** if the session is at the opened record. -/
theorem guarded_update (hs : k.Covers s) (hat : k.IsAt s) (o : Options) :
    (update o s).Guarded (fun out k => k.Saves out) k := by
  unfold update
  cases hid : s.remoteId with
  | none =>
    rw [isUnsaved, hid, if_pos (show Option.isNone none = true from rfl)]
    exact .of_not_asked hs fun p hp => by cases hp
  | some id =>
    obtain ⟨record, hopened, rfl, hrevision⟩ := hat id hid
    rw [isUnsaved, hid, if_neg (show ¬Option.isNone (some record.id) = true from Bool.false_ne_true)]
    split
    · exact .of_not_asked hs fun p hp => by cases hp
    · rw [← hrevision]
      exact guarded_sendUpdate (hs.of_kept (kept_beginSave s)) hopened hid o _ _

/-- **A save is guarded** if the session is at the opened record. -/
theorem guarded_save (hs : k.Covers s) (hat : k.IsAt s) (o : Options) :
    (save o s).Guarded (fun out k => k.Saves out) k := by
  unfold save
  split
  · exact guarded_create hs o
  · exact guarded_update hs hat o

/-- **An answer to an update's question is guarded** if the question is about the opened record. -/
theorem guarded_resumeUpdate {p : UpdatePrompt} (h : k.Saves (.ok (.passwordRequired p), s))
    (o : Options) (answer : Option String) :
    (resumeUpdate o s p answer).Guarded (fun out k => k.Saves out) k := by
  obtain ⟨record, hopened, hid, hrevision⟩ := h.prompt p rfl
  unfold resumeUpdate
  split
  · exact .of_not_asked h.session fun p hp => by cases hp
  · split
    · rw [hrevision]
      exact guarded_sendUpdate h.session hopened hid o _ _
    · exact .of_not_asked (h.session.of_kept (kept_markState _ _ _)) fun p hp => by cases hp

end Sync

namespace Command

variable {k : Knowledge} {s : Session}

/-! ## Questions -/

/-- **A fetch with its question is guarded.** -/
theorem guarded_fetchWithPrompt (hs : k.Covers s) (id : String) :
    (fetchWithPrompt s id).Guarded (fun out k => k.Covers out.2) k := by
  unfold fetchWithPrompt
  rw [Dialogue.bind_eq, Dialogue.guarded_bind]
  refine (Sync.guarded_fetch hs id).mono fun out k hout => ?_
  obtain ⟨first, s⟩ := out
  cases first with
  | error e => exact hout.session
  | ok outcome =>
    cases outcome with
    | loaded summary => exact hout.session
    | discarded => exact hout.session
    | passwordRequired t =>
      show Dialogue.Guarded _ (((askPassword _).bind (Sync.fetchWithPassword s t)).bind _) k
      rw [Dialogue.guarded_bind, Dialogue.guarded_bind]
      -- The second fetch is for the document of the ticket, as the first one was.
      intro answer
      refine (Sync.guarded_fetchWithPassword hout.session (hout.ticket t rfl) answer).mono
        fun out k hout => ?_
      obtain ⟨outcome, s⟩ := out
      cases outcome with
      | error e => exact hout.session
      | ok outcome => cases outcome <;> exact hout.session

/-- **A save with its questions is guarded**, however often it asks. -/
theorem guarded_saveWithPrompt (o : Sync.Options) (attempts : Nat) {outcome : Sync.SaveOutcome}
    (h : k.Saves (.ok outcome, s)) :
    (saveWithPrompt o attempts s outcome).Guarded (fun out k => k.Covers out.2) k := by
  induction attempts generalizing k s outcome with
  | zero => exact h.session
  | succ attempts ih =>
    cases outcome with
    | passwordRequired p =>
      intro answer
      rw [Dialogue.guarded_bind]
      refine (Sync.guarded_resumeUpdate h o answer).mono fun out k hout => ?_
      obtain ⟨result, s⟩ := out
      cases result with
      | error e => exact hout.session
      | ok outcome => exact ih hout
    | _ => exact h.session

end Command

end TemplateShare
