import TemplateShare.Proofs.Session.Run
import TemplateShare.Proofs.Session.Saved
import TemplateShare.WorkingCopy

/-! # Requests stay among the documents

Where the requests of a session go. The transport joins a path to the address of the server as it
is, so an id is checked before it becomes part of a path: when it is typed, when the store gives it,
when a link leads to it. An id in the file of a working copy is not checked, and goes where it
leads.

* **`Request.InNamespace`** — a request for documents.
* **`Session.Stage.Addressed`** — all ids that a session holds or has handed out are valid.
* **`Session.StaysInNamespace`** — all that a session can come to send is for documents.
* **`Session.staysInNamespace_iff`** — this is so if and only if it is linked to no id or a valid
  one.
* **`Session.exists_stray_request`** — a file whose session sends a request elsewhere. -/

namespace TemplateShare

/-! ## Requests for documents -/

namespace Request

/-- **A request for documents**: for new ones, or for one with a valid id. -/
def InNamespace (r : Request) : Prop :=
  r.path = "/document" ∨ ∃ id, DocumentId.isValid id = true ∧ r.path = "/document/" ++ id

variable {r : Request} {id : String}

/-- A request for a document is one if the id is valid. -/
theorem inNamespace_of_path (h : r.path = documentPath (some id))
    (hid : DocumentId.isValid id = true) : r.InNamespace :=
  .inr ⟨id, hid, h⟩

/-- **A request for a document is one only if the id is valid.** -/
theorem isValid_of_inNamespace (h : r.path = documentPath (some id)) (hr : r.InNamespace) :
    DocumentId.isValid id = true := by
  obtain hnew | ⟨id', hid', hpath⟩ := hr
  · have hsame : documentPath (some id) = documentPath none := h.symm.trans hnew
    cases documentPath_injective hsame
  · have hsame : documentPath (some id) = documentPath (some id') := h.symm.trans hpath
    cases documentPath_injective hsame
    exact hid'

end Request

namespace Session

variable {s s' : Session} {es : List (Request × Reply)} {result : Result} {op : Operation}

/-! ## Requests of one operation -/

/-- **Whether an operation goes on with a valid id**, where it goes on with a load. -/
def Operation.Addressed : Operation → Prop
  | .applyFetch p _ => DocumentId.isValid p.ticket.id = true
  | .fetchWithPassword t _ => DocumentId.isValid t.id = true
  | _ => True

/-- A fetch is started only for a valid id, which its ticket remembers. -/
theorem isValid_of_beginFetch {id : String} {p : Sync.PendingFetch}
    (h : Sync.beginFetch s id = .ok (p, s')) : DocumentId.isValid p.ticket.id = true := by
  obtain ⟨rfl, -⟩ := beginFetch_eq_ok h
  unfold Sync.beginFetch at h
  split at h
  · next hid => exact hid
  · cases h

/-- A fetch that is started is for a document. -/
theorem inNamespace_of_beginFetch {id : String} {p : Sync.PendingFetch}
    (h : Sync.beginFetch s id = .ok (p, s')) : p.request.InNamespace :=
  Request.inNamespace_of_path (Sync.path_fetchRequest _ _) (isValid_of_beginFetch h)

/-- A load sends requests for documents only. -/
theorem Loads.inNamespace {out : Sync.Outcome Sync.FetchOutcome} (h : Loads s op es out)
    (hop : op.Addressed) : ∀ e ∈ es, e.1.InNamespace := by
  intro e he
  cases h with
  | invalid | late | givenUp | applied => cases he
  | fetched _ _ begins =>
    rw [List.mem_singleton.1 he]
    exact inNamespace_of_beginFetch begins
  | answered =>
    rw [List.mem_singleton.1 he]
    exact Request.inNamespace_of_path (Sync.path_fetchRequest _ _) hop

/-- What a save looks at is the document that the session is linked to. -/
theorem Looked.inNamespace (h : Looked s op es)
    (hlinked : ∀ id ∈ s.remoteId, DocumentId.isValid id = true) : ∀ e ∈ es, e.1.InNamespace := by
  intro e he
  cases h with
  | nothing => cases he
  | document reply linked =>
    rw [List.mem_singleton.1 he]
    exact Request.inNamespace_of_path (Sync.path_fetchRequest _ _) (hlinked _ linked)

/-- **A save sends requests for documents only**, if the session is linked to a valid id. -/
theorem Saves.inNamespace {out : Sync.Outcome Sync.SaveOutcome} (h : Saves s op es out)
    (hlinked : ∀ id ∈ s.remoteId, DocumentId.isValid id = true) : ∀ e ∈ es, e.1.InNamespace := by
  intro e he
  cases h with
  | idle _ _ looked => exact looked.inNamespace hlinked e he
  | late | givenUp | unlinked => cases he
  | @created _ o =>
    rw [List.mem_singleton.1 he]
    exact .inl (Sync.path_writeRequest o s none)
  | @begun _ o id revision _ look _ linked looked =>
    obtain he | he := List.mem_append.1 he
    · exact looked.inNamespace hlinked e he
    · rw [List.mem_singleton.1 he]
      exact Request.inNamespace_of_path (Sync.path_updateRequest o _ id revision _) (hlinked id linked)
  | @resumed o p _ _ id _ _ linked =>
    rw [List.mem_singleton.1 he]
    exact Request.inNamespace_of_path (Sync.path_updateRequest o s id p.revision _) (hlinked id linked)

/-- **An operation sends requests for documents only**, if the session is linked to a valid id. -/
theorem inNamespace_of_step (h : Step s op es result s')
    (hlinked : ∀ id ∈ s.remoteId, DocumentId.isValid id = true) (hop : op.Addressed) :
    ∀ r ∈ requests es result, r.InNamespace := by
  intro r hr
  have hexchanged (hes : ∀ e ∈ es, e.1.InNamespace) (hr : r ∈ es.map (·.1)) : r.InNamespace := by
    obtain ⟨e, he, rfl⟩ := List.mem_map.1 hr
    exact hes e he
  cases performed_of_step h with
  | acts silent hacts =>
    subst silent
    cases hacts with
    | begins _ begins =>
      rw [List.mem_singleton.1 hr]
      exact inNamespace_of_beginFetch begins
    | edits hedits => obtain ⟨x, rfl⟩ | ⟨x, rfl⟩ := hedits.result_eq <;> cases hr
    | _ => cases hr
  | loads _ hloads => exact hexchanged (hloads.inNamespace hop) hr
  | saves _ hsaves => exact hexchanged (hsaves.inNamespace hlinked) hr

/-! ## Ids that come in -/

/-- **The id of the document** that a fetch has loaded or asks a password for. -/
def documentOf : Sync.FetchOutcome → Option String
  | .loaded summary => some summary.id
  | .passwordRequired t => some t.id
  | .discarded => none

/-- It is the id of the ticket. -/
theorem documentOf_of_fetched {p : Sync.PendingFetch} {reply : Reply}
    {x : Sync.Outcome Sync.FetchOutcome} (h : Sync.Fetched s p reply x) {out : Sync.FetchOutcome}
    (hout : x.1 = .ok out) : ∀ id ∈ documentOf out, id = p.ticket.id := by
  intro id hid
  cases h with
  | loaded | asked =>
    cases hout
    exact (Option.some.inj hid).symm
  | discarded =>
    cases hout
    cases hid
  | failed => cases hout

/-- **A fetch loads or asks for a valid id**: the ids that are typed are checked, and a ticket has
a valid one. -/
theorem isValid_documentOf {out : Sync.FetchOutcome} (h : Step s op es (.fetched (.ok out)) s')
    (hop : op.Addressed) : ∀ id ∈ documentOf out, DocumentId.isValid id = true := by
  intro id hid
  obtain ⟨x, hloads, hresult, -⟩ := loads_of_step h (isLoad_of_fetched h)
  have hout : x.1 = .ok out := (Result.fetched.inj hresult).symm
  cases hloads with
  | invalid | givenUp => cases hout
  | late =>
    cases hout
    cases hid
  | applied p reply =>
    rw [documentOf_of_fetched (Sync.fetched_applyFetch s p reply) hout id hid]
    exact hop
  | fetched reply valid begins =>
    rw [documentOf_of_fetched (Sync.fetched_applyFetch _ _ reply) hout id hid]
    exact isValid_of_beginFetch begins
  | answered reply =>
    rw [documentOf_of_fetched (Sync.fetched_applyFetch s _ reply) hout id hid]
    exact hop

/-- **All ids are valid**: that of the session, and those of the loads that it has handed out. -/
structure Stage.Addressed (st : Stage) : Prop where
  linked : ∀ id ∈ st.session.remoteId, DocumentId.isValid id = true
  fetches : ∀ p ∈ st.handout.fetches, DocumentId.isValid p.ticket.id = true
  loads : ∀ t ∈ st.handout.loads, DocumentId.isValid t.id = true

namespace Call

variable {c : Call}

/-- What has been handed out is gone on with a valid id. -/
theorem addressed_operation (h : c.Valid) (hbefore : c.before.Addressed) :
    c.operation.Addressed := by
  have hpossible := h.possible
  cases hop : c.operation with
  | applyFetch p reply =>
    rw [hop] at hpossible
    exact hbefore.fetches p hpossible
  | fetchWithPassword t answer =>
    rw [hop] at hpossible
    exact hbefore.loads t hpossible
  | _ => trivial

/-- The id that a session is linked to stays valid. -/
theorem linked_after (h : c.Valid) (hbefore : c.before.Addressed) :
    ∀ id ∈ c.session.remoteId, DocumentId.isValid id = true := by
  intro id hid
  cases changed_of_step h.step with
  | kept _ _ hsame | secured _ _ _ _ hsame | answered _ _ _ _ _ hsame =>
    exact hbefore.linked id (hsame ▸ hid)
  | reset _ _ hnone => rw [hnone] at hid; cases hid
  | created _ hvalid _ hlinked =>
    rw [hlinked] at hid
    cases hid
    exact hvalid
  | loaded hloaded _ _ hlinked =>
    rw [hlinked] at hid
    have hstep := h.step
    rw [hloaded] at hstep
    exact isValid_documentOf hstep (addressed_operation h hbefore) id hid

/-- **All ids stay valid.** -/
theorem addressed_after (h : c.Valid) (hbefore : c.before.Addressed) : c.after.Addressed := by
  have hop := addressed_operation h hbefore
  have hstep := h.step
  -- Only a fetch that is started and one that asks hand out an id.
  refine ⟨linked_after h hbefore, fun p hp => ?_, fun t ht => ?_⟩
  · obtain hresult | hp := Handout.mem_fetches_add.1 hp
    · rw [hresult] at hstep
      obtain ⟨id, hbegin⟩ := started_of_step hstep
      exact isValid_of_beginFetch hbegin
    · exact hbefore.fetches p hp
  · obtain hresult | ht := Handout.mem_loads_add.1 ht
    · rw [hresult] at hstep
      exact isValid_documentOf hstep hop _ rfl
    · exact hbefore.loads t ht

/-- **A call sends requests for documents only**, if all ids are valid. -/
theorem inNamespace_of_mem_sent (h : c.Valid) (hbefore : c.before.Addressed) :
    ∀ r ∈ c.sent, r.InNamespace :=
  inNamespace_of_step h.step hbefore.linked (addressed_operation h hbefore)

end Call

/-! ## Requests of all runs -/

/-- **All that a session can come to send is for documents**, whatever is done with it and whatever
the store replies. -/
def StaysInNamespace (s : Session) : Prop :=
  ∀ calls fin, Run ⟨s, {}⟩ calls fin → ∀ c ∈ calls, ∀ r ∈ c.sent, r.InNamespace

/-- A session that is linked to no id or a valid one sends requests for documents only. -/
theorem staysInNamespace_of_isValid (h : ∀ id ∈ s.remoteId, DocumentId.isValid id = true) :
    s.StaysInNamespace := by
  intro calls fin run c hc
  have hstart : Stage.Addressed ⟨s, {}⟩ := ⟨h, nofun, nofun⟩
  obtain ⟨hvalid, earlier, hreached⟩ := run.reached hc
  exact Call.inNamespace_of_mem_sent hvalid
    (hreached.preserves (fun c => Call.addressed_after) hstart)

/-- **An update after an edit** sends a request for the id that the session is linked to. -/
theorem exists_run_update {id : String} (hid : s.remoteId = some id) :
    ∃ calls fin, Run ⟨s, {}⟩ calls fin ∧
      ∃ c ∈ calls, ∃ r ∈ c.sent, r.path = documentPath (some id) := by
  -- The template is edited, so that there is something to save.
  let o : Sync.Options := ⟨1024, ⟨0, 0⟩⟩
  let edited : Session := { s with template := s.template ++ "x", dirty := true }
  have hedited : s.editTemplate (s.template ++ "x") = edited := by
    refine if_neg fun h => ?_
    have hlength := congrArg String.length h
    rw [String.length_append, show "x".length = 1 by decide] at hlength
    omega
  let request := Sync.updateRequest o edited id (s.revision + 1) s.updateCredential
  let out := Sync.applyUpdate o edited.beginSave.2 edited.beginSave.1 id (s.revision + 1)
    s.updateCredential (.error .timeout)
  let edit : Call := .quiet ⟨s, {}⟩ (.editTemplate (s.template ++ "x")) (.edited (.ok ()), edited)
  let update : Call :=
    ⟨edit.after, .update o, [(request, .error .timeout)], .saved out.1, out.2⟩
  have hedit : edit.Valid := Call.valid_quiet trivial (by rw [Operation.perform, hedited])
  have hupdate : update.Valid := by
    refine ⟨trivial, Dialogue.exchanged_map_iff.2 ⟨out, ?_, rfl⟩⟩
    show (Sync.update o edited).Exchanged _ _
    rw [Sync.update_eq (show edited.remoteId = some id from hid) rfl]
    exact .exchange (.done _)
  have run : Run ⟨s, {}⟩ ([] ++ [edit] ++ [update]) update.after := .snoc (.snoc .nil hedit) hupdate
  exact ⟨_, _, run, update, by simp, request, List.mem_singleton_self _,
    Sync.path_updateRequest _ _ _ _ _⟩

/-- **A session stays among the documents if and only if it is linked to no id or a valid one.** -/
theorem staysInNamespace_iff_isValid :
    s.StaysInNamespace ↔ ∀ id ∈ s.remoteId, DocumentId.isValid id = true := by
  refine ⟨fun h id hid => ?_, staysInNamespace_of_isValid⟩
  obtain ⟨calls, fin, run, c, hc, r, hr, hpath⟩ := exists_run_update hid
  exact Request.isValid_of_inNamespace hpath (h calls fin run c hc r hr)

/-- The session of a working copy is linked to the id of its record. -/
theorem remoteId_session (c : WorkingCopy) : c.session.remoteId = c.record.map (·.id) := by
  unfold WorkingCopy.session
  cases c.record <;> rfl

/-- **Where the requests of a session go.** They stay among the documents, whatever is done with the
session and whatever the store replies, if and only if it is linked to no id or a valid one. The
session of a working copy is linked to the id of its link, which is any text. -/
theorem staysInNamespace_iff (s : Session) (c : WorkingCopy) :
    (s.StaysInNamespace ↔ ∀ id ∈ s.remoteId, DocumentId.isValid id = true) ∧
      (c.session.StaysInNamespace ↔ ∀ r ∈ c.record, DocumentId.isValid r.id = true) := by
  refine ⟨staysInNamespace_iff_isValid, ?_⟩
  rw [staysInNamespace_iff_isValid, remoteId_session]
  cases c.record <;> simp

/-- **A stray request**: the file of a working copy names an id that leads out of the documents, and
an update goes there. -/
theorem exists_stray_request :
    ∃ text c, WorkingCopy.parse text = .ok c ∧ ∃ calls fin, Run ⟨c.session, {}⟩ calls fin ∧
      ∃ call ∈ calls, ∃ r ∈ call.sent, r.path = "/document/../admin" ∧ ¬r.InNamespace := by
  let text := "---\ndt:\n  template: t\nlink:\n  id: ../admin\n  revision: 1\n  synced: x\n"
  let c : WorkingCopy := ⟨.single "" "" "t", some ⟨"../admin", 1, none, false, none⟩, some "x"⟩
  have hread : (WorkingCopy.parse text).toOption = some c := by decide +kernel
  have hparse : WorkingCopy.parse text = .ok c := by
    cases h : WorkingCopy.parse text with
    | error e => rw [h] at hread; cases hread
    | ok c' => rw [h] at hread; exact congrArg _ (Option.some.inj hread)
  obtain ⟨calls, fin, run, call, hcall, r, hr, hpath⟩ :=
    exists_run_update (show c.session.remoteId = some "../admin" from rfl)
  refine ⟨text, c, hparse, calls, fin, run, call, hcall, r, hr, hpath, fun h => ?_⟩
  exact absurd (Request.isValid_of_inNamespace hpath h) (by decide)

end Session

end TemplateShare
