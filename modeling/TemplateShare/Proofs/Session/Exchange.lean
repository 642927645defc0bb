import TemplateShare.Proofs.Session.Local

/-! # What loads and saves come to

A load has three forms and a save has five. Each form is opened once, here: a statement about loads
or saves goes by cases on what they come to, which says everything that they can do, with the
requests that they send and the guards that they have passed.

* **`Session.Loads`**, **`Session.loads_of_step`** — what a load comes to.
* **`Session.Looked`** — what a save looks at before it writes.
* **`Session.Saves`**, **`Session.saves_of_step`** — what a save comes to.
* **`Session.Performed`**, **`Session.performed_of_step`** — what any operation comes to.
* **`Session.Requested`**, **`Session.requested_of_step`** — what requests an operation sends. -/

namespace TemplateShare

/-! ## Updates that are sent -/

namespace Sync

variable {o : Options} {s : Session} {t : Session.SaveTicket} {id : String} {revision : Nat}
  {password : Option String}

/-- An update that is sent is one exchange. -/
theorem sendUpdate_eq (hid : s.remoteId = some id) : sendUpdate o s t revision password =
    .exchange (updateRequest o s id revision password) fun reply =>
      .done (applyUpdate o s t id revision password reply) := by
  rw [sendUpdate, hid]

/-- **A session that has changed** is updated to its next revision, with the password held for
changes. -/
theorem update_eq_sendUpdate (hid : s.remoteId = some id) (hdirty : s.dirty = true) :
    update o s = sendUpdate o s.beginSave.2 s.beginSave.1 (s.revision + 1) s.updateCredential := by
  have hsaved : ¬ s.isUnsaved = true := by rw [Session.isUnsaved, hid]; simp
  rw [update, if_neg hsaved, hdirty]
  rfl

end Sync

namespace Session

variable {s s' : Session} {op : Operation} {es : List (Request × Reply)} {result : Result}
  {o : Sync.Options}

/-! ## Kinds of operations -/

/-- **Operations that complete a load.** -/
def Operation.isLoad : Operation → Bool
  | .applyFetch .. | .fetch _ | .fetchWithPassword .. => true
  | _ => false

/-- **Operations that write to the store.** -/
def Operation.isSave : Operation → Bool
  | .create _ | .update _ | .save _ | .resumeUpdate .. | .overwrite .. => true
  | _ => false

/-- A step of a save is an exchange of its dialogue. -/
theorem exchanged_saved {d : Dialogue (Sync.Outcome Sync.SaveOutcome)}
    (h : (saved d).Exchanged es (result, s')) :
    ∃ out, d.Exchanged es out ∧ result = .saved out.1 ∧ s' = out.2 := by
  obtain ⟨out, hd, heq⟩ := Dialogue.exchanged_map_iff.1 h
  exact ⟨out, hd, Prod.mk.inj heq⟩

/-- A step of a fetch is an exchange of its dialogue. -/
theorem exchanged_fetched {d : Dialogue (Sync.Outcome Sync.FetchOutcome)}
    (h : (fetched d).Exchanged es (result, s')) :
    ∃ out, d.Exchanged es out ∧ result = .fetched out.1 ∧ s' = out.2 := by
  obtain ⟨out, hd, heq⟩ := Dialogue.exchanged_map_iff.1 h
  exact ⟨out, hd, Prod.mk.inj heq⟩

/-! ## Loads -/

/-- **What a load comes to.** Nothing is sent, for an id that is not valid or an answer that comes
too late or is blank; or a reply is applied, to a fetch that was started before, to one that is
started now, or to one that goes on with an answer. -/
inductive Loads (s : Session) :
    Operation → List (Request × Reply) → Sync.Outcome Sync.FetchOutcome → Prop
  | invalid {id : String} (invalid : DocumentId.isValid id = false) :
      Loads s (.fetch id) [] (.error (.validation (.invalidRemoteId id)), s)
  | late {t : LoadTicket} {answer : Option String} (stale : s.generation ≠ t.generation) :
      Loads s (.fetchWithPassword t answer) [] (.ok .discarded, s)
  | givenUp {t : LoadTicket} {answer : Option String} (current : s.generation = t.generation)
      (blank : Password.answer answer = none) :
      Loads s (.fetchWithPassword t answer) [] (.error .unauthorized, s.abortLoad t .accessDenied)
  | applied (p : Sync.PendingFetch) (reply : Reply) :
      Loads s (.applyFetch p reply) [] (Sync.applyFetch s p reply)
  | fetched {id : String} {p : Sync.PendingFetch} (reply : Reply)
      (valid : DocumentId.isValid id = true)
      (begins : Sync.beginFetch s id = .ok (p, (s.beginLoad id).2)) :
      Loads s (.fetch id) [(p.request, reply)] (Sync.applyFetch (s.beginLoad id).2 p reply)
  | answered {t : LoadTicket} {answer : Option String} {password : String} (reply : Reply)
      (current : s.generation = t.generation) (answered : Password.answer answer = some password) :
      Loads s (.fetchWithPassword t answer)
        [(Sync.PendingFetch.request ⟨t, some password⟩, reply)]
        (Sync.applyFetch s ⟨t, some password⟩ reply)

/-- What a fetch comes to. -/
theorem loads_of_fetch {id : String} {out : Sync.Outcome Sync.FetchOutcome}
    (h : (Sync.fetch s id).Exchanged es out) : Loads s (.fetch id) es out := by
  cases hid : DocumentId.isValid id with
  | false =>
    rw [Sync.fetch, Sync.beginFetch, hid] at h
    obtain ⟨rfl, rfl⟩ := Dialogue.exchanged_done_iff.1 h
    exact .invalid hid
  | true =>
    rw [Sync.fetch, Sync.beginFetch, hid] at h
    obtain ⟨reply, rest, rfl, hdone⟩ := Dialogue.exchanged_exchange_iff.1 h
    obtain ⟨rfl, rfl⟩ := Dialogue.exchanged_done_iff.1 hdone
    exact .fetched reply hid (by rw [Sync.beginFetch, hid]; rfl)

/-- What an answer to a fetch's question comes to. -/
theorem loads_of_fetchWithPassword {t : LoadTicket} {answer : Option String}
    {out : Sync.Outcome Sync.FetchOutcome}
    (h : (Sync.fetchWithPassword s t answer).Exchanged es out) :
    Loads s (.fetchWithPassword t answer) es out := by
  unfold Sync.fetchWithPassword at h
  by_cases hcurrent : s.generation = t.generation
  · rw [if_neg (not_not_intro hcurrent)] at h
    cases hanswer : Password.answer answer with
    | none =>
      rw [hanswer] at h
      obtain ⟨rfl, rfl⟩ := Dialogue.exchanged_done_iff.1 h
      exact .givenUp hcurrent hanswer
    | some password =>
      rw [hanswer] at h
      obtain ⟨reply, rest, rfl, hdone⟩ := Dialogue.exchanged_exchange_iff.1 h
      obtain ⟨rfl, rfl⟩ := Dialogue.exchanged_done_iff.1 hdone
      exact .answered reply hcurrent hanswer
  · rw [if_pos hcurrent] at h
    obtain ⟨rfl, rfl⟩ := Dialogue.exchanged_done_iff.1 h
    exact .late hcurrent

/-- **Every load comes to that.** -/
theorem loads_of_step (h : Step s op es result s') (hop : op.isLoad = true) :
    ∃ out, Loads s op es out ∧ result = .fetched out.1 ∧ s' = out.2 := by
  cases op with
  | applyFetch p reply =>
    obtain ⟨rfl, hresult, hs⟩ := h.of_done rfl
    exact ⟨_, .applied p reply, hresult, hs⟩
  | fetch id =>
    obtain ⟨out, hd, hout⟩ := exchanged_fetched h
    exact ⟨out, loads_of_fetch hd, hout⟩
  | fetchWithPassword t answer =>
    obtain ⟨out, hd, hout⟩ := exchanged_fetched h
    exact ⟨out, loads_of_fetchWithPassword hd, hout⟩
  | _ => cases hop

/-! ## Saves -/

/-- **Whether an operation writes to a document**, from the session it is carried out on and what the
store replies: an update of changes, the answer to a question that is still open, or an overwrite of
the document that the session has a copy of, if that can be looked up. -/
def Operation.writes (s : Session) (es : List (Request × Reply)) : Operation → Bool
  | .update _ | .save _ => s.remoteId.isSome && s.dirty
  | .resumeUpdate _ p answer =>
    s.remoteId.isSome && s.isCurrent p.ticket.generation && (Password.answer answer).isSome
  | .overwrite _ id =>
    s.remoteId == some id && es.head?.any fun e => (Sync.heldRevision id e.2).isOk
  | _ => false

/-- **What a save looks at before it writes**: nothing, or, for an overwrite, the document that the
session is linked to, with the password held for opening it. -/
inductive Looked (s : Session) : Operation → List (Request × Reply) → Prop
  | nothing {op : Operation} : Looked s op []
  | document {o : Sync.Options} {id : String} (reply : Reply) (linked : s.remoteId = some id) :
      Looked s (.overwrite o id) [(Sync.fetchRequest id s.fetchCredential, reply)]

/-- **What a save comes to.** Nothing is written and the session stays as it is, or a question is
given up; or a document is created; or an update is sent, either one that has begun with the save,
after at most a look at the document, or one that goes on after a question. -/
inductive Saves (s : Session) :
    Operation → List (Request × Reply) → Sync.Outcome Sync.SaveOutcome → Prop
  | idle {op : Operation} {es : List (Request × Reply)} {out : Except Error Sync.SaveOutcome}
      (begins : ∀ o p answer, op ≠ .resumeUpdate o p answer)
      (fruitless : (∃ e, out = .error e) ∨ out = .ok .noChanges) (looked : Looked s op es)
      (unwritten : op.writes s es = false) : Saves s op es (out, s)
  | late {o : Sync.Options} {p : Sync.UpdatePrompt} {answer : Option String}
      (stale : s.generation ≠ p.ticket.generation) :
      Saves s (.resumeUpdate o p answer) [] (.ok .discarded, s)
  | givenUp {o : Sync.Options} {p : Sync.UpdatePrompt} {answer : Option String}
      (current : s.generation = p.ticket.generation) (blank : Password.answer answer = none) :
      Saves s (.resumeUpdate o p answer) [] (.ok .notUpdated, s.markState p.ticket p.ticket.prior)
  | unlinked {o : Sync.Options} {p : Sync.UpdatePrompt} {answer : Option String}
      {password : String} (current : s.generation = p.ticket.generation)
      (answered : Password.answer answer = some password) (unlinked : s.remoteId = none) :
      Saves s (.resumeUpdate o p answer) [] (.error (.validation .noRemoteCopy), s)
  | created {op : Operation} {o : Sync.Options} {reply : Reply}
      (creates : op = .create o ∨ op = .save o ∧ s.remoteId = none) :
      Saves s op [(Sync.writeRequest o s none, reply)]
        (Sync.applyCreate o s.beginSave.2 s.beginSave.1 reply)
  | begun {op : Operation} {o : Sync.Options} {id : String} {revision : Nat} {reply : Reply}
      (look : List (Request × Reply))
      (updates : op = .update o ∨ op = .save o ∨ op = .overwrite o id)
      (linked : s.remoteId = some id) (looked : Looked s op look)
      (written : ∀ rest, op.writes s (look ++ rest) = true) :
      Saves s op
        (look ++ [(Sync.updateRequest o s.beginSave.2 id revision s.updateCredential, reply)])
        (Sync.applyUpdate o s.beginSave.2 s.beginSave.1 id revision s.updateCredential reply)
  | resumed {o : Sync.Options} {p : Sync.UpdatePrompt} {answer : Option String}
      {password id : String} {reply : Reply} (current : s.generation = p.ticket.generation)
      (linked : s.remoteId = some id) (answered : Password.answer answer = some password) :
      Saves s (.resumeUpdate o p answer)
        [(Sync.updateRequest o s id p.revision (some password), reply)]
        (Sync.applyUpdate o s p.ticket id p.revision (some password) reply)

/-- The exchange of an update that is sent for a document. -/
theorem exchanged_sendUpdate {t : SaveTicket} {id : String} {revision : Nat}
    {password : Option String} {out : Sync.Outcome Sync.SaveOutcome} (hid : s.remoteId = some id)
    (h : (Sync.sendUpdate o s t revision password).Exchanged es out) :
    ∃ reply, es = [(Sync.updateRequest o s id revision password, reply)] ∧
      out = Sync.applyUpdate o s t id revision password reply := by
  rw [Sync.sendUpdate_eq hid] at h
  obtain ⟨reply, rest, rfl, hdone⟩ := Dialogue.exchanged_exchange_iff.1 h
  obtain ⟨rfl, rfl⟩ := Dialogue.exchanged_done_iff.1 hdone
  exact ⟨reply, rfl, rfl⟩

/-- What a creation comes to. -/
theorem saves_of_create {out : Sync.Outcome Sync.SaveOutcome}
    (h : (Sync.create o s).Exchanged es out)
    (hcreates : op = .create o ∨ op = .save o ∧ s.remoteId = none) : Saves s op es out := by
  obtain ⟨reply, rest, rfl, hdone⟩ := Dialogue.exchanged_exchange_iff.1 h
  obtain ⟨rfl, rfl⟩ := Dialogue.exchanged_done_iff.1 hdone
  exact .created hcreates

/-- What an update comes to. -/
theorem saves_of_update {out : Sync.Outcome Sync.SaveOutcome}
    (h : (Sync.update o s).Exchanged es out) (hop : op = .update o ∨ op = .save o) :
    Saves s op es out := by
  have hbegins : ∀ o' p answer, op ≠ .resumeUpdate o' p answer := by
    obtain rfl | rfl := hop <;> exact fun _ _ _ hop => nomatch hop
  have hwrites (es : List (Request × Reply)) :
      op.writes s es = (s.remoteId.isSome && s.dirty) := by
    obtain rfl | rfl := hop <;> rfl
  cases hid : s.remoteId with
  | none =>
    rw [Sync.update, if_pos (by rw [isUnsaved, hid]; rfl)] at h
    obtain ⟨rfl, rfl⟩ := Dialogue.exchanged_done_iff.1 h
    exact .idle hbegins (.inl ⟨_, rfl⟩) .nothing (by rw [hwrites, hid]; rfl)
  | some id =>
    cases hdirty : s.dirty with
    | false =>
      have hsaved : ¬ s.isUnsaved = true := by rw [isUnsaved, hid]; simp
      rw [Sync.update, if_neg hsaved, hdirty] at h
      obtain ⟨rfl, rfl⟩ := Dialogue.exchanged_done_iff.1 h
      exact .idle hbegins (.inr rfl) .nothing (by rw [hwrites, hdirty, Bool.and_false])
    | true =>
      rw [Sync.update_eq_sendUpdate hid hdirty] at h
      have hbegun : s.beginSave.2.remoteId = some id := hid
      obtain ⟨reply, rfl, rfl⟩ := exchanged_sendUpdate hbegun h
      exact .begun [] (hop.imp_right .inl) hid .nothing fun rest => by rw [hwrites, hid, hdirty]; rfl

/-- What an answer to a question comes to. -/
theorem saves_of_resumeUpdate {p : Sync.UpdatePrompt} {answer : Option String}
    {out : Sync.Outcome Sync.SaveOutcome} (h : (Sync.resumeUpdate o s p answer).Exchanged es out) :
    Saves s (.resumeUpdate o p answer) es out := by
  unfold Sync.resumeUpdate at h
  by_cases hcurrent : s.generation = p.ticket.generation
  · rw [if_neg (by simpa [isCurrent] using hcurrent)] at h
    cases hanswer : Password.answer answer with
    | none =>
      rw [hanswer] at h
      obtain ⟨rfl, rfl⟩ := Dialogue.exchanged_done_iff.1 h
      exact .givenUp hcurrent hanswer
    | some password =>
      rw [hanswer] at h
      have hsent : (Sync.sendUpdate o s p.ticket p.revision (some password)).Exchanged es out := h
      cases hid : s.remoteId with
      | none =>
        rw [Sync.sendUpdate, hid] at hsent
        obtain ⟨rfl, rfl⟩ := Dialogue.exchanged_done_iff.1 hsent
        exact .unlinked hcurrent hanswer hid
      | some id =>
        obtain ⟨reply, rfl, rfl⟩ := exchanged_sendUpdate hid hsent
        exact .resumed hcurrent hid hanswer
  · rw [if_pos (by simpa [isCurrent] using hcurrent)] at h
    obtain ⟨rfl, rfl⟩ := Dialogue.exchanged_done_iff.1 h
    exact .late hcurrent

/-- What an overwrite comes to. -/
theorem saves_of_overwrite {id : String} {out : Sync.Outcome Sync.SaveOutcome}
    (h : (Sync.overwrite o s id).Exchanged es out) : Saves s (.overwrite o id) es out := by
  have hbegins : ∀ o' p answer, Operation.overwrite o id ≠ .resumeUpdate o' p answer :=
    fun _ _ _ hop => nomatch hop
  unfold Sync.overwrite at h
  by_cases hid : s.remoteId = some id
  · rw [if_neg (not_not_intro hid)] at h
    obtain ⟨reply, rest, rfl, hnext⟩ := Dialogue.exchanged_exchange_iff.1 h
    -- The revision to replace is the one that the store holds now.
    cases hheld : Sync.heldRevision id reply with
    | error e =>
      rw [hheld] at hnext
      obtain ⟨rfl, rfl⟩ := Dialogue.exchanged_done_iff.1 hnext
      refine .idle hbegins (.inl ⟨_, rfl⟩) (.document reply hid) ?_
      simp [Operation.writes, hheld, Except.isOk, Except.toBool]
    | ok held =>
      rw [hheld] at hnext
      have hbegun : s.beginSave.2.remoteId = some id := hid
      obtain ⟨answer, rfl, rfl⟩ := exchanged_sendUpdate hbegun hnext
      refine .begun [_] (.inr (.inr rfl)) hid (.document reply hid) fun rest => ?_
      simp [Operation.writes, hid, hheld, Except.isOk, Except.toBool]
  · rw [if_pos hid] at h
    obtain ⟨rfl, rfl⟩ := Dialogue.exchanged_done_iff.1 h
    exact .idle hbegins (.inl ⟨_, rfl⟩) .nothing (Bool.and_false _)

/-- A creation is no answer to a question. -/
theorem begins_of_creates (h : op = .create o ∨ op = .save o ∧ s.remoteId = none) :
    ∀ o p answer, op ≠ .resumeUpdate o p answer := by
  obtain rfl | ⟨rfl, -⟩ := h <;> exact fun _ _ _ hop => nomatch hop

/-- An update that begins with the save is no answer to a question. -/
theorem begins_of_updates {id : String}
    (h : op = .update o ∨ op = .save o ∨ op = .overwrite o id) :
    ∀ o p answer, op ≠ .resumeUpdate o p answer := by
  obtain rfl | rfl | rfl := h <;> exact fun _ _ _ hop => nomatch hop

/-- **Every save comes to that.** -/
theorem saves_of_step (h : Step s op es result s') (hop : op.isSave = true) :
    ∃ out, Saves s op es out ∧ result = .saved out.1 ∧ s' = out.2 := by
  cases op with
  | create o =>
    obtain ⟨out, hd, hout⟩ := exchanged_saved h
    exact ⟨out, saves_of_create hd (.inl rfl), hout⟩
  | update o =>
    obtain ⟨out, hd, hout⟩ := exchanged_saved h
    exact ⟨out, saves_of_update hd (.inl rfl), hout⟩
  | save o =>
    obtain ⟨out, hd, hout⟩ := exchanged_saved h
    refine ⟨out, ?_, hout⟩
    unfold Sync.save at hd
    by_cases hunsaved : s.isUnsaved = true
    · rw [if_pos hunsaved] at hd
      exact saves_of_create hd (.inr ⟨rfl, Option.isNone_iff_eq_none.1 hunsaved⟩)
    · rw [if_neg hunsaved] at hd
      exact saves_of_update hd (.inr rfl)
  | resumeUpdate o p answer =>
    obtain ⟨out, hd, hout⟩ := exchanged_saved h
    exact ⟨out, saves_of_resumeUpdate hd, hout⟩
  | overwrite o id =>
    obtain ⟨out, hd, hout⟩ := exchanged_saved h
    exact ⟨out, saves_of_overwrite hd, hout⟩
  | _ => cases hop

/-! ## All operations -/

/-- **What an operation comes to**: it acts without the store, or it completes a load or a save. -/
inductive Performed (s : Session) (op : Operation) (es : List (Request × Reply)) :
    Result → Session → Prop
  | acts {result : Result} {s' : Session} (silent : es = []) (acts : Acts s op result s') :
      Performed s op es result s'
  | loads {out : Sync.Outcome Sync.FetchOutcome} (load : op.isLoad = true)
      (loads : Loads s op es out) : Performed s op es (.fetched out.1) out.2
  | saves {out : Sync.Outcome Sync.SaveOutcome} (save : op.isSave = true)
      (saves : Saves s op es out) : Performed s op es (.saved out.1) out.2

/-- **Every operation comes to one of these.** -/
theorem performed_of_step (h : Step s op es result s') : Performed s op es result s' := by
  have hact {x : Result × Session} (hx : op.perform s = .done x) (hacts : Acts s op x.1 x.2) :
      Performed s op es result s' := by
    obtain ⟨hes, rfl, rfl⟩ := h.of_done hx
    exact .acts hes hacts
  cases op with
  | editData text => exact hact rfl (.edits (edits_of_text text).1)
  | editVars text => exact hact rfl (.edits (edits_of_text text).2.1)
  | editTemplate text => exact hact rfl (.edits (edits_of_text text).2.2)
  | addDataset name => exact hact rfl (.edits (edits_of_addDataset name))
  | switchDataset name persist => exact hact rfl (.edits (edits_of_switchDataset name persist))
  | removeDataset name => exact hact rfl (.edits (edits_of_removeDataset name))
  | confirmRemove name => exact hact rfl (.edits .confirmed)
  | paste dt => exact hact rfl (acts_of_paste dt)
  | confirmPaste dt => exact hact rfl .confirms
  | protect p => exact hact rfl (acts_of_protect p)
  | beginFetch id => exact hact rfl (acts_of_beginFetch id)
  | applyFetch | fetch | fetchWithPassword =>
    obtain ⟨out, hloads, rfl, rfl⟩ := loads_of_step h rfl
    exact .loads rfl hloads
  | create | update | save | resumeUpdate | overwrite =>
    obtain ⟨out, hsaves, rfl, rfl⟩ := saves_of_step h rfl
    exact .saves rfl hsaves

/-- Only loads have the result of a load. -/
theorem isLoad_of_fetched {out : Except Error Sync.FetchOutcome}
    (h : Step s op es (.fetched out) s') : op.isLoad = true := by
  cases performed_of_step h with
  | acts _ hacts =>
    cases hacts with
    | edits hedits => cases hedits
  | loads load => exact load

/-- Only saves have the result of a save. -/
theorem isSave_of_saved {out : Except Error Sync.SaveOutcome}
    (h : Step s op es (.saved out) s') : op.isSave = true := by
  cases performed_of_step h with
  | acts _ hacts =>
    cases hacts with
    | edits hedits => cases hedits
  | saves save => exact save

/-! ## Requests -/

/-- **The requests of a session**: fetches of documents, and writes of its own document. -/
inductive Requested (s : Session) : Request → Prop
  | fetch (id : String) (password : Option String) : Requested s (Sync.fetchRequest id password)
  | write (o : Sync.Options) : Requested s (Sync.writeRequest o s none)
  | update (o : Sync.Options) (id : String) (revision : Nat) (password : Option String) :
      Requested s (Sync.updateRequest o s id revision password)

/-- The request of a fetch. -/
theorem requested_request (p : Sync.PendingFetch) : Requested s p.request := .fetch _ p.password

/-- What a save looks at is fetched. -/
theorem Looked.requested (h : Looked s op es) : ∀ e ∈ es, Requested s e.1 := by
  intro e he
  cases h with
  | nothing => cases he
  | @document _ id =>
    obtain rfl := List.mem_singleton.1 he
    dsimp only
    exact .fetch id s.fetchCredential

/-- A load sends a fetch. -/
theorem Loads.requested {out : Sync.Outcome Sync.FetchOutcome} (h : Loads s op es out) :
    ∀ e ∈ es, Requested s e.1 := by
  intro e he
  cases h with
  | invalid | late | givenUp | applied => cases he
  | fetched | answered =>
    obtain rfl := List.mem_singleton.1 he
    dsimp only
    exact requested_request _

/-- A save sends the document of the session, after at most a look. -/
theorem Saves.requested {out : Sync.Outcome Sync.SaveOutcome} (h : Saves s op es out) :
    ∀ e ∈ es, Requested s e.1 := by
  intro e he
  cases h with
  | idle _ _ looked => exact looked.requested e he
  | late | givenUp | unlinked => cases he
  | @created _ o =>
    obtain rfl := List.mem_singleton.1 he
    dsimp only
    exact .write o
  | @begun _ o id revision _ look _ _ looked =>
    obtain he | he := List.mem_append.1 he
    · exact looked.requested e he
    · obtain rfl := List.mem_singleton.1 he
      dsimp only
      exact .update o id revision s.updateCredential
  | @resumed o p _ password id =>
    obtain rfl := List.mem_singleton.1 he
    dsimp only
    exact .update o id p.revision (some password)

/-- **An operation sends nothing else.** -/
theorem requested_of_step (h : Step s op es result s') : ∀ e ∈ es, Requested s e.1 := by
  cases performed_of_step h with
  | acts silent => exact silent ▸ fun e he => nomatch he
  | loads _ hloads => exact hloads.requested
  | saves _ hsaves => exact hsaves.requested

end Session

end TemplateShare
