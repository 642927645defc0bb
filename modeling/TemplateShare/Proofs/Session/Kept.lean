import TemplateShare.Proofs.Session.Exchange

/-! # What operations leave alone

An exchange with the store leaves a session as it was, apart from its state, its location and its
generation, none of which is part of the document or of what is known of its copy in the store. An
edit changes the document and marks it as changed.

* **`Session.kept`** — a session apart from state, location and generation.
* **`Session.kept_of_step`** — an exchange changes it only where it loads, creates or updates.
* **`Session.edits_of_step`** — what a step of an edit comes to.
* **`Session.Edited`**, **`Session.edited_of_step`** — an edit changes nothing but the document and its
  mark. -/

namespace TemplateShare.Session

variable {s s' : Session} {op : Operation} {es : List (Request × Reply)} {result : Result}

/-! ## Exchanges -/

/-- **The lasting part of a session**: all but its state, location and generation. -/
def kept (s : Session) : Session := { s with state := .unsaved, location := none, generation := 0 }

@[simp] theorem kept_beginLoad (s : Session) (id : String) : (s.beginLoad id).2.kept = s.kept := rfl

@[simp] theorem kept_beginSave (s : Session) : s.beginSave.2.kept = s.kept := rfl

@[simp] theorem kept_abortLoad (s : Session) (t : LoadTicket) (state : SyncState) :
    (s.abortLoad t state).kept = s.kept := by
  unfold abortLoad
  split <;> rfl

@[simp] theorem kept_markState (s : Session) (t : SaveTicket) (state : SyncState) :
    (s.markState t state).kept = s.kept := by
  unfold markState
  split <;> rfl

/-- Sessions with the same lasting part hold the same document and record. -/
theorem eq_of_kept_eq (h : s'.kept = s.kept) :
    s'.registry = s.registry ∧ s'.editor = s.editor ∧ s'.template = s.template ∧
      s'.remoteId = s.remoteId ∧ s'.dirty = s.dirty ∧ s'.openPassword = s.openPassword ∧
      s'.modifyPassword = s.modifyPassword ∧ s'.pendingProtection = s.pendingProtection := by
  simp only [kept, Session.mk.injEq] at h
  obtain ⟨h₁, h₂, h₃, h₄, -, -, h₇, h₈, h₉, h₁₀, -⟩ := h
  exact ⟨h₁, h₂, h₃, h₄, h₁₀, h₇, h₈, h₉⟩

/-- A reply to a fetch that loads nothing changes nothing that lasts. -/
theorem kept_of_fetched {p : Sync.PendingFetch} {reply : Reply}
    {out : Sync.Outcome Sync.FetchOutcome} (h : Sync.Fetched s p reply out)
    (hr : (Result.fetched out.1).isSync = false) : out.2.kept = s.kept := by
  cases h with
  | loaded => simp [Result.isSync] at hr
  | asked => rfl
  | discarded => rfl
  | failed e state => exact kept_abortLoad _ _ _

/-- A creation that is not accepted changes nothing that lasts. -/
theorem kept_of_created {o : Sync.Options} {t : SaveTicket} {reply : Reply}
    {out : Sync.Outcome Sync.SaveOutcome} (h : Sync.Created o s t reply out)
    (hr : (Result.saved out.1).isSync = false) : out.2.kept = s.kept := by
  cases h with
  | created => simp [Result.isSync] at hr
  | discarded => rfl
  | unreadable => rfl
  | failed e state => exact kept_markState _ _ _

/-- An update that is not accepted changes nothing that lasts. -/
theorem kept_of_updated {o : Sync.Options} {t : SaveTicket} {id : String} {revision : Nat}
    {password : Option String} {reply : Reply} {out : Sync.Outcome Sync.SaveOutcome}
    (h : Sync.Updated o s t id revision password reply out)
    (hr : (Result.saved out.1).isSync = false) : out.2.kept = s.kept := by
  cases h with
  | updated => simp [Result.isSync] at hr
  | asked => rfl
  | discarded => rfl
  | unreadable => rfl
  | failed e state => exact kept_markState _ _ _

/-- A load that comes to nothing changes nothing that lasts. -/
theorem Loads.kept_eq {out : Sync.Outcome Sync.FetchOutcome} (h : Loads s op es out)
    (hr : (Result.fetched out.1).isSync = false) : out.2.kept = s.kept := by
  cases h with
  | invalid => rfl
  | late => rfl
  | givenUp => exact kept_abortLoad _ _ _
  | applied => exact kept_of_fetched (Sync.fetched_applyFetch ..) hr
  | @fetched id =>
    exact (kept_of_fetched (Sync.fetched_applyFetch ..) hr).trans (kept_beginLoad s id)
  | answered => exact kept_of_fetched (Sync.fetched_applyFetch ..) hr

/-- A save that comes to nothing changes nothing that lasts. -/
theorem Saves.kept_eq {out : Sync.Outcome Sync.SaveOutcome} (h : Saves s op es out)
    (hr : (Result.saved out.1).isSync = false) : out.2.kept = s.kept := by
  cases h with
  | idle => rfl
  | late => rfl
  | givenUp => exact kept_markState _ _ _
  | unlinked => rfl
  | created => exact (kept_of_created (Sync.created_applyCreate ..) hr).trans (kept_beginSave s)
  | begun => exact (kept_of_updated (Sync.updated_applyUpdate ..) hr).trans (kept_beginSave s)
  | resumed => exact kept_of_updated (Sync.updated_applyUpdate ..) hr

/-- **Operations that talk to the store**, among them the two halves of a fetch. -/
def Operation.isExchange : Operation → Bool
  | .beginFetch _ | .applyFetch .. | .fetch _ | .fetchWithPassword .. | .create _ | .update _
  | .save _ | .resumeUpdate .. | .overwrite .. => true
  | _ => false

/-- A load talks to the store. -/
theorem isExchange_of_isLoad (h : op.isLoad = true) : op.isExchange = true := by
  cases op <;> cases h <;> rfl

/-- A save talks to the store. -/
theorem isExchange_of_isSave (h : op.isSave = true) : op.isExchange = true := by
  cases op <;> cases h <;> rfl

/-- Operations that do not talk to the store come to what they do without it. -/
theorem acts_of_step (h : Step s op es result s') (hx : op.isExchange = false) :
    es = [] ∧ Acts s op result s' := by
  cases performed_of_step h with
  | acts silent hacts => exact ⟨silent, hacts⟩
  | loads load => cases (isExchange_of_isLoad load).symm.trans hx
  | saves save => cases (isExchange_of_isSave save).symm.trans hx

/-- **An exchange that neither loads, creates nor updates leaves the session as it was**, apart
from its state, location and generation. -/
theorem kept_of_step (h : Step s op es result s') (hx : op.isExchange = true)
    (hr : result.isSync = false) : s'.kept = s.kept := by
  -- Only an exchange that comes to its aim changes what is kept, and its result says so.
  cases performed_of_step h with
  | acts _ hacts =>
    cases hacts with
    | invalid => rfl
    | begins => exact kept_beginLoad s _
    | edits hedits => cases hedits <;> cases hx
    | _ => cases hx
  | loads _ hloads => exact hloads.kept_eq hr
  | saves _ hsaves => exact hsaves.kept_eq hr

/-! ## Edits -/

/-- **A session after an edit**: at most the document and its mark are others. -/
def Edited (s s' : Session) : Prop :=
  s' = { s with registry := s'.registry, editor := s'.editor, template := s'.template,
                dirty := s'.dirty }

/-- An edit begins no generation. -/
theorem Edited.generation (h : Edited s s') : s'.generation = s.generation := by
  rw [h]

/-- An edit leaves the passwords that are to be set. -/
theorem Edited.pendingProtection (h : Edited s s') :
    s'.pendingProtection = s.pendingProtection := by
  rw [h]

/-- An edit leaves the revision. -/
theorem Edited.revision (h : Edited s s') : s'.revision = s.revision := by
  rw [h]

/-- An edit leaves what is known of the copy in the store. -/
theorem Edited.identity (h : Edited s s') :
    s'.remoteId = s.remoteId ∧ s'.revision = s.revision ∧ s'.contentHash = s.contentHash := by
  rw [h]
  exact ⟨rfl, rfl, rfl⟩

/-- A dataset that is removed is an edit. -/
theorem edited_removeNow (s : Session) (name : String) : Edited s (s.removeNow name).2 := by
  unfold removeNow
  by_cases hname : name = s.registry.activeName
  · simp only [if_pos hname]
    split <;> exact rfl
  · simp only [if_neg hname]
    split <;> exact rfl

/-- **An edit changes the document and marks it as changed**, and nothing else. -/
theorem Edits.edited (h : Edits s op result s') : Edited s s' := by
  cases h with
  | removed | confirmed => exact edited_removeNow s _
  | _ => exact rfl

/-- What an edit comes to. -/
theorem edits_of_step (h : Step s op es result s') (hop : op.isEdit = true) :
    es = [] ∧ Edits s op result s' := by
  obtain ⟨silent, hacts⟩ := acts_of_step h (by cases op <;> cases hop <;> rfl)
  cases hacts with
  | edits hedits => exact ⟨silent, hedits⟩
  | _ => cases hop

/-- What an edit leaves. -/
theorem edited_of_step (h : Step s op es result s') (hop : op.isEdit = true) : Edited s s' :=
  (edits_of_step h hop).2.edited

/-- The result of an edit is that of a change to texts or datasets. -/
theorem Edits.result_eq (h : Edits s op result s') :
    (∃ r, result = .edited r) ∨ ∃ r, result = .removed r := by
  cases h with
  | unknown | last | asked | removed | confirmed => exact .inr ⟨_, rfl⟩
  | _ => exact .inl ⟨_, rfl⟩

end TemplateShare.Session
