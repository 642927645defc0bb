import TemplateShare.Sync

/-! # Runs of a session

All that can be done with a session as one type of operations, so that a statement can speak of
every run. An operation that talks to the store is carried out with any replies.

* **`Dialogue.Exchanged`** — a dialogue with the store, with the requests sent and their replies.
* **`Session.Operation`**, **`Session.Operation.perform`** — the operations and what they do.
* **`Session.Step`** — one operation with its replies, its result and the session after it.
* **`Sync.Fetched`**, **`Sync.Created`**, **`Sync.Updated`** — everything that applying a reply can
  come to, guards included; statements about runs go by cases on these. -/

namespace TemplateShare

/-! ## Dialogues with the store -/

namespace Dialogue

variable {α β : Type}

/-- **A dialogue carried out with the store**: the requests in order, each with its reply, and the
value at the end. -/
inductive Exchanged : Dialogue α → List (Request × Reply) → α → Prop
  | done (a : α) : Exchanged (.done a) [] a
  | exchange {r : Request} {next : Reply → Dialogue α} {x : Reply} {es : List (Request × Reply)}
      {a : α} (h : Exchanged (next x) es a) : Exchanged (.exchange r next) ((r, x) :: es) a

/-- A dialogue at its end sends nothing more. -/
@[simp] theorem exchanged_done_iff {a b : α} {es : List (Request × Reply)} :
    Exchanged (.done a) es b ↔ es = [] ∧ b = a := by
  constructor
  · intro h
    cases h
    exact ⟨rfl, rfl⟩
  · rintro ⟨rfl, rfl⟩
    exact .done _

/-- A dialogue that sends a request goes on with some reply to it. -/
@[simp] theorem exchanged_exchange_iff {r : Request} {next : Reply → Dialogue α}
    {es : List (Request × Reply)} {a : α} :
    Exchanged (.exchange r next) es a ↔
      ∃ x rest, es = (r, x) :: rest ∧ Exchanged (next x) rest a := by
  constructor
  · intro h
    cases h with
    | exchange h => exact ⟨_, _, rfl, h⟩
  · rintro ⟨x, rest, rfl, h⟩
    exact .exchange h

/-- **A dialogue that only reshapes its value** sends the same requests. -/
theorem exchanged_map_iff {d : Dialogue α} {f : α → β} {es : List (Request × Reply)} {b : β} :
    Exchanged (d.bind fun a => .done (f a)) es b ↔ ∃ a, Exchanged d es a ∧ b = f a := by
  constructor
  · intro h
    induction d generalizing es with
    | done a => exact ⟨a, by simpa [bind] using h⟩
    | exchange r next ih =>
      rw [bind, exchanged_exchange_iff] at h
      obtain ⟨x, rest, rfl, h⟩ := h
      obtain ⟨a, ha, rfl⟩ := ih x h
      exact ⟨a, .exchange ha, rfl⟩
    | askPassword | confirm | loadFile | saveFile => cases h
  · rintro ⟨a, h, rfl⟩
    induction h with
    | done a => exact .done _
    | exchange _ ih => exact .exchange ih

end Dialogue

/-! ## Applying replies -/

namespace Sync

open Session

/-- **All that applying the reply to a fetch can come to.** -/
inductive Fetched (s : Session) (p : PendingFetch) (reply : Reply) : Outcome FetchOutcome → Prop
  | loaded {r : Response} {d : RemoteDocument} (current : s.generation = p.ticket.generation)
      (answered : reply = .ok r) (success : r.status = 200)
      (read : RemoteDocument.parse r.body = .ok d) :
      Fetched s p reply (.ok (.loaded ⟨p.ticket.id, d.revision.getD 1, d.updated, d.isProtected⟩),
        s.completeLoad p.ticket d p.password)
  | asked (current : s.generation = p.ticket.generation) (bare : p.password = none) :
      Fetched s p reply (.ok (.passwordRequired p.ticket), s)
  | discarded (stale : s.generation ≠ p.ticket.generation) :
      Fetched s p reply (.ok .discarded, s)
  | failed (e : Error) (state : SyncState) :
      Fetched s p reply (.error e, s.abortLoad p.ticket state)

/-- Applying a reply comes to one of the cases. -/
theorem fetched_applyFetch (s : Session) (p : PendingFetch) (reply : Reply) :
    Fetched s p reply (applyFetch s p reply) := by
  unfold applyFetch
  by_cases hg : s.generation = p.ticket.generation
  · rw [if_neg (not_not_intro hg)]
    cases reply with
    | error e => exact .failed _ _
    | ok r =>
      dsimp only
      split
      · next hstatus =>
        split
        · exact .failed _ _
        · next hread => exact .loaded hg rfl hstatus hread
      · split
        · next hbare => exact .asked hg hbare
        · exact .failed _ _
      · exact .failed _ _
      · exact .failed _ _
      · exact .failed _ _
  · rw [if_pos hg]
    exact .discarded hg

/-- **All that applying the reply to a creation can come to.** -/
inductive Created (o : Options) (s : Session) (t : SaveTicket) (reply : Reply) :
    Outcome SaveOutcome → Prop
  | created {r : Response} {id : String} {hash : Option String}
      (current : s.generation = t.generation) (answered : reply = .ok r) (success : r.status = 200)
      (read : parseAnswer r.body = .ok (id, hash)) :
      Created o s t reply (.ok (.created id), s.completeCreate id hash o.now)
  | discarded : Created o s t reply (.ok .discarded, s)
  | unreadable (e : Error) : Created o s t reply (.error e, s)
  | failed (e : Error) (state : SyncState) : Created o s t reply (.error e, s.markState t state)

/-- **A refused save** is a fault that changes at most the state. -/
theorem refused_snd (s : Session) (t : SaveTicket) (r : Response) (id : Option String) :
    ∃ state, (refused s t r id).2 = s.markState t state := by
  unfold refused
  split <;> exact ⟨_, rfl⟩

/-- Applying a reply comes to one of the cases. -/
theorem created_applyCreate (o : Options) (s : Session) (t : SaveTicket) (reply : Reply) :
    Created o s t reply (applyCreate o s t reply) := by
  unfold applyCreate
  cases reply with
  | error e => exact .failed _ _
  | ok r =>
    dsimp only
    by_cases hstatus : r.status = 200
    · rw [if_pos hstatus]
      split
      · exact .unreadable _
      · next hread =>
        by_cases hg : s.generation = t.generation
        · rw [if_pos (by simpa [isCurrent] using hg)]
          exact .created hg rfl hstatus hread
        · rw [if_neg (by simpa [isCurrent] using hg)]
          exact .discarded
    · rw [if_neg hstatus]
      obtain ⟨state, h⟩ := refused_snd s t r none
      rw [failed, h]
      exact .failed _ _

/-- **All that applying the reply to an update can come to.** -/
inductive Updated (o : Options) (s : Session) (t : SaveTicket) (id : String) (revision : Nat)
    (password : Option String) (reply : Reply) : Outcome SaveOutcome → Prop
  | updated {r : Response} {named : String} {hash : Option String}
      (current : s.generation = t.generation) (answered : reply = .ok r) (success : r.status = 200)
      (read : parseAnswer r.body = .ok (named, hash)) :
      Updated o s t id revision password reply
        (.ok (.updated id revision), s.completeUpdate revision hash password o.now)
  | asked : Updated o s t id revision password reply
      (.ok (.passwordRequired ⟨t, revision, password.isSome⟩), s)
  | discarded : Updated o s t id revision password reply (.ok .discarded, s)
  | unreadable (e : Error) : Updated o s t id revision password reply (.error e, s)
  | failed (e : Error) (state : SyncState) :
      Updated o s t id revision password reply (.error e, s.markState t state)

/-- Applying a reply comes to one of the cases. -/
theorem updated_applyUpdate (o : Options) (s : Session) (t : SaveTicket) (id : String)
    (revision : Nat) (password : Option String) (reply : Reply) :
    Updated o s t id revision password reply (applyUpdate o s t id revision password reply) := by
  unfold applyUpdate
  cases reply with
  | error e => exact .failed _ _
  | ok r =>
    dsimp only
    split
    · next hstatus =>
      split
      · exact .unreadable _
      · next hread =>
        by_cases hg : s.generation = t.generation
        · rw [if_pos (by simpa [isCurrent] using hg)]
          exact .updated hg rfl hstatus hread
        · rw [if_neg (by simpa [isCurrent] using hg)]
          exact .discarded
    · exact .asked
    · obtain ⟨state, h⟩ := refused_snd s t r (some id)
      rw [Sync.failed, h]
      exact .failed _ _

end Sync

/-! ## Operations -/

namespace Session

/-- **An operation on a session.** Those that go on from something handed out before, such as a
prompt, carry it with them. -/
inductive Operation where
  | editData (text : String)
  | editVars (text : String)
  | editTemplate (text : String)
  | addDataset (name : String)
  | switchDataset (name : String) (persist : Bool)
  | removeDataset (name : String)
  | confirmRemove (name : String)
  | paste (dt : DataTemplate)
  | confirmPaste (dt : DataTemplate)
  | protect (p : Protection)
  | beginFetch (id : String)
  | applyFetch (p : Sync.PendingFetch) (reply : Reply)
  | fetch (id : String)
  | fetchWithPassword (t : LoadTicket) (answer : Option String)
  | create (o : Sync.Options)
  | update (o : Sync.Options)
  | save (o : Sync.Options)
  | resumeUpdate (o : Sync.Options) (p : Sync.UpdatePrompt) (answer : Option String)
  | overwrite (o : Sync.Options) (id : String)

/-- **What an operation comes to**, by its kind. -/
inductive Result where
  | edited (r : Except ValidationError Unit)
  | removed (r : Except ValidationError (Decision Registry.Removal String))
  | pasted (d : Decision Unit DataTemplate)
  | started (r : Except Error Sync.PendingFetch)
  | fetched (r : Except Error Sync.FetchOutcome)
  | saved (r : Except Error Sync.SaveOutcome)

/-- **Whether session and store are in step** after an operation with this result: a document was
loaded, created or updated. -/
def Result.isSync : Result → Bool
  | .fetched (.ok (.loaded _)) | .saved (.ok (.created _)) | .saved (.ok (.updated ..)) => true
  | _ => false

/-- The result of an edit that may fail, which then changes nothing. -/
def edited (s : Session) : Except ValidationError Session → Result × Session
  | .ok s' => (.edited (.ok ()), s')
  | .error e => (.edited (.error e), s)

/-- The result of an attempt to start a fetch, which changes nothing if the id is not valid. -/
def started (s : Session) : Except Error (Sync.PendingFetch × Session) → Result × Session
  | .ok (p, s') => (.started (.ok p), s')
  | .error e => (.started (.error e), s)

/-- The result of a fetch. -/
def fetched (d : Dialogue (Sync.Outcome Sync.FetchOutcome)) : Dialogue (Result × Session) :=
  d.bind fun x => .done (.fetched x.1, x.2)

/-- The result of a save. -/
def saved (d : Dialogue (Sync.Outcome Sync.SaveOutcome)) : Dialogue (Result × Session) :=
  d.bind fun x => .done (.saved x.1, x.2)

/-- **Carry out an operation.** -/
def Operation.perform (s : Session) : Operation → Dialogue (Result × Session)
  | .editData text => .done (.edited (.ok ()), s.editData text)
  | .editVars text => .done (.edited (.ok ()), s.editVars text)
  | .editTemplate text => .done (.edited (.ok ()), s.editTemplate text)
  | .addDataset name => .done (s.edited (s.addDataset name))
  | .switchDataset name persist => .done (s.edited (s.switchDataset name persist))
  | .removeDataset name => .done ((.removed (s.removeDataset name).1), (s.removeDataset name).2)
  | .confirmRemove name =>
    .done (.removed ((s.removeNow name).1.map .done), (s.removeNow name).2)
  | .paste dt => .done (.pasted (s.paste dt).1, (s.paste dt).2)
  | .confirmPaste dt => .done (.pasted (.done ()), s.applyPasted dt)
  | .protect p => .done (s.edited (s.protect p))
  | .beginFetch id => .done (s.started (Sync.beginFetch s id))
  | .applyFetch p reply =>
    .done (.fetched (Sync.applyFetch s p reply).1, (Sync.applyFetch s p reply).2)
  | .fetch id => fetched (Sync.fetch s id)
  | .fetchWithPassword t answer => fetched (Sync.fetchWithPassword s t answer)
  | .create o => saved (Sync.create o s)
  | .update o => saved (Sync.update o s)
  | .save o => saved (Sync.save o s)
  | .resumeUpdate o p answer => saved (Sync.resumeUpdate o s p answer)
  | .overwrite o id => saved (Sync.overwrite o s id)

/-- **One operation of a run**: carried out on `s` with the exchanges `es`, it gives the result and
leaves the session `s'`. -/
def Step (s : Session) (op : Operation) (es : List (Request × Reply)) (result : Result)
    (s' : Session) : Prop :=
  (op.perform s).Exchanged es (result, s')

/-- **An operation without exchanges** comes to what it is carried out to at once. -/
theorem Step.of_done {s s' : Session} {op : Operation} {es : List (Request × Reply)}
    {result : Result} {x : Result × Session} (h : Step s op es result s')
    (hx : op.perform s = .done x) : es = [] ∧ result = x.1 ∧ s' = x.2 := by
  rw [Step, hx, Dialogue.exchanged_done_iff] at h
  exact ⟨h.1, Prod.mk.inj h.2⟩

/-- **Another template** is taken over at once. -/
theorem step_editTemplate {s : Session} {text : String} (h : s.template ≠ text) :
    Step s (.editTemplate text) [] (.edited (.ok ())) { s with template := text, dirty := true } := by
  have htouched : s.editTemplate text = { s with template := text, dirty := true } := if_neg h
  rw [← htouched]
  exact .done _

/-- **Passwords that can be set** are taken over at once, for the next update. -/
theorem step_protect {s s' : Session} {p : Protection} (h : s.protect p = .ok s') :
    Step s (.protect p) [] (.edited (.ok ())) s' := by
  have hperform : Operation.perform s (.protect p) = .done (.edited (.ok ()), s') := by
    rw [Operation.perform, h]
    rfl
  rw [Step, hperform]
  exact .done _

/-- The result of an attempt to start a fetch is the fetch that has been started. -/
theorem fst_started (s : Session) (r : Except Error (Sync.PendingFetch × Session)) :
    (s.started r).1 = .started (r.map Prod.fst) := by
  cases r <;> rfl

/-- A dataset that becomes active changes only the registry and the editor. -/
theorem switchDataset_eq_ok {s s' : Session} {name : String} {persist : Bool}
    (h : s.switchDataset name persist = .ok s') :
    ∃ r, s.registry.switch name (if persist then some s.editor else none) = .ok r ∧
      s' = { s with registry := r, editor := r.active.buffers } := by
  unfold switchDataset at h
  cases hr : s.registry.switch name (if persist then some s.editor else none) with
  | error e => rw [hr] at h; cases h
  | ok r =>
    rw [hr] at h
    cases h
    exact ⟨r, rfl, rfl⟩

end Session

end TemplateShare
