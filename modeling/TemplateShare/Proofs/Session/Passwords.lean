import TemplateShare.Proofs.Session.Kept

/-! # The passwords that a session holds and sends

What an operation does to the document that a session is linked to, to its generation and to the
passwords that it holds, and which passwords go out with the requests. Every operation is one of
few cases, from which the statements about runs go on.

* **`Session.held`** — the passwords of a session, those for the next update among them.
* **`Request.secrets`** — the passwords that a request carries.
* **`Session.Changed`**, **`Session.changed_of_step`** — what becomes of document and passwords.
* **`Session.Sent`**, **`Session.sent_of_step`** — where the requests go and what they carry. -/

namespace TemplateShare

/-- **Different documents lie at different paths.** -/
theorem documentPath_injective : Function.Injective documentPath := by
  have hshort (id : String) : "/document" ≠ "/document/" ++ id := by
    intro h
    have hlength := congrArg String.length h
    rw [String.length_append, show "/document".length = 9 by decide,
      show "/document/".length = 10 by decide] at hlength
    omega
  intro a b h
  cases a with
  | none =>
    cases b with
    | none => rfl
    | some id => exact absurd h (hshort id)
  | some id =>
    cases b with
    | none => exact absurd h.symm (hshort id)
    | some id' => exact congrArg some ((String.append_right_inj _).1 h)

/-- The passwords to set. -/
def Protection.passwords (p : Protection) : List String :=
  p.openPassword.toList ++ p.modifyPassword.toList

/-! ## Passwords in requests -/

namespace Request

/-- **The passwords that a request carries.** -/
def secrets (r : Request) : List String :=
  (r.headers.filter fun h => Header.secrets.any (Header.same h.1)).map (·.2)

/-- A header that is not secret adds no password. -/
theorem secrets_withHeader (r : Request) {name : String} (value : String)
    (h : Header.secrets.any (Header.same name) = false) :
    (r.withHeader name value).secrets = r.secrets := by
  simp [secrets, withHeader, List.filter_append, h]

/-- A secret header adds its password, if any. -/
theorem secrets_withOptionalHeader (r : Request) {name : String} (value : Option String)
    (h : name ∈ Header.secrets) :
    (r.withOptionalHeader name value).secrets = r.secrets ++ value.toList := by
  have hsecret : Header.secrets.any (Header.same name) = true :=
    List.any_eq_true.2 ⟨name, h, Header.same_self name⟩
  cases value with
  | none => simp
  | some v => simp [secrets, withOptionalHeader, withHeader, List.filter_append, hsecret]

end Request

namespace Sync

@[simp] theorem path_fetchRequest (id : String) (password : Option String) :
    (fetchRequest id password).path = documentPath (some id) := by
  rw [fetchRequest, Request.path_withOptionalHeader]

@[simp] theorem secrets_fetchRequest (id : String) (password : Option String) :
    (fetchRequest id password).secrets = password.toList := by
  rw [fetchRequest, Request.secrets_withOptionalHeader _ _ (by simp [Header.secrets])]
  rfl

@[simp] theorem path_writeRequest (o : Options) (s : Session) (id : Option String) :
    (writeRequest o s id).path = documentPath id := by
  unfold writeRequest
  dsimp only
  split <;> rfl

@[simp] theorem secrets_writeRequest (o : Options) (s : Session) (id : Option String) :
    (writeRequest o s id).secrets = [] := by
  unfold writeRequest
  dsimp only
  split <;> rfl

@[simp] theorem path_updateRequest (o : Options) (s : Session) (id : String) (revision : Nat)
    (password : Option String) :
    (updateRequest o s id revision password).path = documentPath (some id) := by
  unfold updateRequest
  dsimp only
  split <;> simp only [Request.path_withOptionalHeader, Request.path_withHeader, path_writeRequest]

/-- **An update carries the password that it presents and those that it sets.** -/
theorem secrets_updateRequest (o : Options) (s : Session) (id : String) (revision : Nat)
    (password : Option String) :
    (updateRequest o s id revision password).secrets =
      password.toList ++ s.pendingProtection.toList.flatMap Protection.passwords := by
  have hwrite := secrets_writeRequest o s (some id)
  have hpassword : Header.password ∈ Header.secrets := by simp [Header.secrets]
  have hopen : Header.openPassword ∈ Header.secrets := by simp [Header.secrets]
  have hmodify : Header.modifyPassword ∈ Header.secrets := by simp [Header.secrets]
  have hrevision : Header.secrets.any (Header.same Header.revision) = false := by decide
  unfold updateRequest
  -- What the body looks like does not matter.
  generalize writeRequest o s (some id) = r at hwrite
  have hquery (q : List (String × String)) : Request.secrets { r with query := q } = [] := hwrite
  cases s.pendingProtection with
  | none =>
    simp only [Request.secrets_withOptionalHeader _ _ hpassword,
      Request.secrets_withHeader _ _ hrevision, hquery]
    simp
  | some p =>
    simp only [Request.secrets_withOptionalHeader _ _ hpassword,
      Request.secrets_withOptionalHeader _ _ hopen, Request.secrets_withOptionalHeader _ _ hmodify,
      Request.secrets_withHeader _ _ hrevision, hquery]
    simp [Protection.passwords]

end Sync

namespace Session

variable {s s' : Session} {es : List (Request × Reply)} {result : Result} {op : Operation}

/-! ## Passwords in sessions -/

/-- **The passwords that a session holds**: the accepted ones and those to be set. -/
def held (s : Session) : List String :=
  s.openPassword.toList ++ s.modifyPassword.toList ++
    s.pendingProtection.toList.flatMap Protection.passwords

/-- The password for a fetch is one of those held. -/
theorem fetchCredential_subset_held (s : Session) : s.fetchCredential.toList ⊆ s.held := by
  unfold fetchCredential held
  cases s.openPassword <;> simp

/-- The password for an update is one of those held, and so are those that it sets. -/
theorem updateCredential_subset_held (s : Session) :
    s.updateCredential.toList ++ s.pendingProtection.toList.flatMap Protection.passwords ⊆
      s.held := by
  unfold updateCredential held
  cases s.modifyPassword <;> simp

/-- **The document that a result links the session to.** -/
def Result.linked? : Result → Option String
  | .fetched (.ok (.loaded summary)) => some summary.id
  | .saved (.ok (.created id)) => some id
  | _ => none

/-- **The password that a load presents** for a document. -/
def Operation.presents (s : Session) (id : String) (password : Option String) : Operation → Prop
  | .applyFetch p _ => id = p.ticket.id ∧ password = p.password
  | .fetch x => id = x ∧ password = if s.remoteId = some id then s.fetchCredential else none
  | .fetchWithPassword t answer => id = t.id ∧ password = Password.answer answer
  | _ => False

/-- **What becomes of the document and the passwords of a session.** -/
inductive Changed (s : Session) (op : Operation) (result : Result) (s' : Session) : Prop
  | kept (unlinked : result.linked? = none) (generation : s.generation ≤ s'.generation)
      (remoteId : s'.remoteId = s.remoteId) (held : s'.held ⊆ s.held)
  | reset (unlinked : result.linked? = none) (generation : s.generation < s'.generation)
      (remoteId : s'.remoteId = none) (held : s'.held = [])
  | secured {p : Protection} {id : String} (isProtect : op = .protect p)
      (linked : s.remoteId = some id) (unlinked : result.linked? = none)
      (generation : s'.generation = s.generation) (remoteId : s'.remoteId = s.remoteId)
      (held : s'.held = p.passwords)
  | loaded {summary : Sync.LoadSummary} {password : Option String}
      (loaded : result = .fetched (.ok (.loaded summary)))
      (presents : op.presents s summary.id password) (generation : s.generation ≤ s'.generation)
      (remoteId : s'.remoteId = some summary.id) (held : s'.held = password.toList)
  | created {id : String} (created : result = .saved (.ok (.created id)))
      (valid : DocumentId.isValid id = true)
      (generation : s'.generation = s.generation) (remoteId : s'.remoteId = some id)
      (held : s'.held = s.held)
  | answered {o : Sync.Options} {p : Sync.UpdatePrompt} {answer : Option String}
      {password : String} (isAnswer : op = .resumeUpdate o p answer)
      (answer : Password.answer answer = some password)
      (current : s.generation = p.ticket.generation) (unlinked : result.linked? = none)
      (generation : s'.generation = s.generation) (remoteId : s'.remoteId = s.remoteId)
      (held : s'.held ⊆ password :: s.held)

/-! ## Changes of document and passwords -/

@[simp] theorem generation_abortLoad (s : Session) (t : LoadTicket) (state : SyncState) :
    (s.abortLoad t state).generation = s.generation := by
  unfold abortLoad
  split <;> rfl

@[simp] theorem generation_markState (s : Session) (t : SaveTicket) (state : SyncState) :
    (s.markState t state).generation = s.generation := by
  unfold markState
  split <;> rfl

/-- Sessions with the same lasting part have the same document and passwords. -/
theorem linked_of_kept_eq (h : s'.kept = s.kept) :
    s'.remoteId = s.remoteId ∧ s'.held = s.held := by
  obtain ⟨-, -, -, hid, -, hopen, hmodify, hpending⟩ := eq_of_kept_eq h
  exact ⟨hid, by rw [held, held, hopen, hmodify, hpending]⟩

/-- Settling the passwords settles nothing else. -/
theorem settlePasswords_linked (s : Session) (presented : Option String) :
    (s.settlePasswords presented).generation = s.generation ∧
      (s.settlePasswords presented).remoteId = s.remoteId := by
  unfold settlePasswords
  split
  · exact ⟨rfl, rfl⟩
  · split <;> exact ⟨rfl, rfl⟩

/-- **Passwords after an update**: those held and the one presented. -/
theorem held_settlePasswords (s : Session) (presented : Option String) :
    (s.settlePasswords presented).held ⊆ presented.toList ++ s.held := by
  unfold settlePasswords
  split
  · next p hpending =>
    intro v hv
    simp [held, hpending, Protection.passwords] at hv ⊢
    exact .inr (.inr (.inr hv))
  · next hpending =>
    split
    · intro v hv
      simp [held, hpending] at hv ⊢
      obtain hopen | hpresented := hv
      · exact .inr (.inl hopen)
      · exact .inl hpresented
    · exact List.subset_append_right _ _

/-- **A fetch that is started** presents a password only for the document that the session is
linked to. -/
theorem beginFetch_eq_ok {id : String} {p : Sync.PendingFetch}
    (h : Sync.beginFetch s id = .ok (p, s')) :
    p = ⟨(s.beginLoad id).1, if s.remoteId = some id then s.fetchCredential else none⟩ ∧
      s' = (s.beginLoad id).2 := by
  unfold Sync.beginFetch at h
  split at h
  · obtain ⟨rfl, rfl⟩ := Prod.mk.inj (Except.ok.inj h)
    exact ⟨rfl, rfl⟩
  · cases h

/-- What a reply to a fetch changes: a load links to its document and leaves only the password
presented. -/
theorem changed_of_fetched {p : Sync.PendingFetch} {reply : Reply}
    {out : Sync.Outcome Sync.FetchOutcome} (h : Sync.Fetched s p reply out) :
    out.2.generation = s.generation ∧
      ((Result.linked? (.fetched out.1) = none ∧ out.2.remoteId = s.remoteId ∧
          out.2.held = s.held) ∨
        ∃ summary, out.1 = .ok (.loaded summary) ∧ summary.id = p.ticket.id ∧
          out.2.remoteId = some p.ticket.id ∧ out.2.held = p.password.toList) := by
  cases h with
  | loaded current =>
    unfold completeLoad
    rw [if_neg (not_not_intro current)]
    exact ⟨rfl, .inr ⟨_, rfl, rfl, rfl, by simp [held]⟩⟩
  | asked => exact ⟨rfl, .inl ⟨rfl, rfl, rfl⟩⟩
  | discarded => exact ⟨rfl, .inl ⟨rfl, rfl, rfl⟩⟩
  | failed e state => exact ⟨by simp, .inl ⟨rfl, linked_of_kept_eq (by simp)⟩⟩

/-- An answer that can be read names a valid id. -/
theorem isValid_of_parseAnswer {body id : String} {hash : Option String}
    (h : Sync.parseAnswer body = .ok (id, hash)) : DocumentId.isValid id = true := by
  unfold Sync.parseAnswer at h
  dsimp only at h
  split at h
  · next hvalid =>
    obtain ⟨rfl, -⟩ := Prod.mk.inj (Except.ok.inj h)
    exact hvalid
  · cases h

/-- An operation that changes neither document nor generation nor passwords. -/
theorem Changed.same (hlinked : result.linked? = none) (hgen : s'.generation = s.generation)
    (hid : s'.remoteId = s.remoteId) (hheld : s'.held = s.held) : Changed s op result s' :=
  .kept hlinked (Nat.le_of_eq hgen.symm) hid (hheld ▸ List.Subset.refl _)

/-- **A reply that is applied to a load** links to its document, or changes nothing. -/
theorem changed_of_applyFetch {s₀ : Session} {p : Sync.PendingFetch} (reply : Reply)
    (hpresents : op.presents s p.ticket.id p.password) (hgen : s.generation ≤ s₀.generation)
    (hid : s₀.remoteId = s.remoteId) (hheld : s₀.held = s.held) :
    Changed s op (.fetched (Sync.applyFetch s₀ p reply).1) (Sync.applyFetch s₀ p reply).2 := by
  obtain ⟨hgen', ⟨hlinked, hid', hheld'⟩ | ⟨summary, hout, hsummary, hid', hheld'⟩⟩ :=
    changed_of_fetched (Sync.fetched_applyFetch s₀ p reply)
  · exact .kept hlinked (hgen' ▸ hgen) (hid'.trans hid)
      (hheld'.trans hheld ▸ List.Subset.refl _)
  · exact .loaded (congrArg _ hout) (hsummary ▸ hpresents) (hgen' ▸ hgen) (hsummary ▸ hid') hheld'

/-- **What a load changes.** -/
theorem Loads.changed {out : Sync.Outcome Sync.FetchOutcome} (h : Loads s op es out) :
    Changed s op (.fetched out.1) out.2 := by
  cases h with
  | invalid => exact .same rfl rfl rfl rfl
  | late => exact .same rfl rfl rfl rfl
  | @givenUp t =>
    obtain ⟨hid, hheld⟩ := linked_of_kept_eq (kept_abortLoad s t .accessDenied)
    exact .same rfl (generation_abortLoad ..) hid hheld
  | applied p reply => exact changed_of_applyFetch reply ⟨rfl, rfl⟩ (Nat.le_refl _) rfl rfl
  | fetched reply _ begins =>
    obtain ⟨rfl, -⟩ := beginFetch_eq_ok begins
    exact changed_of_applyFetch reply ⟨rfl, rfl⟩ (Nat.le_succ _) rfl rfl
  | answered reply _ answered =>
    exact changed_of_applyFetch reply ⟨rfl, answered.symm⟩ (Nat.le_refl _) rfl rfl

/-- What a creation changes: one that is accepted links to the new document. -/
theorem changed_of_created {o : Sync.Options} {reply : Reply}
    {out : Sync.Outcome Sync.SaveOutcome}
    (h : Sync.Created o s.beginSave.2 s.beginSave.1 reply out) :
    Changed s op (.saved out.1) out.2 := by
  cases h with
  | created _ _ _ hread => exact .created rfl (isValid_of_parseAnswer hread) rfl rfl rfl
  | discarded => exact .same rfl rfl rfl rfl
  | unreadable => exact .same rfl rfl rfl rfl
  | failed e state =>
    obtain ⟨hid, hheld⟩ := linked_of_kept_eq (kept_markState s.beginSave.2 s.beginSave.1 state)
    exact .same rfl (generation_markState ..) hid hheld

/-- What an update that is sent changes: at most the passwords, which may be the one presented. -/
theorem changed_of_updated {o : Sync.Options} {t : SaveTicket} {id : String} {revision : Nat}
    {password : Option String} {reply : Reply} {out : Sync.Outcome Sync.SaveOutcome}
    (h : Sync.Updated o s t id revision password reply out) :
    Result.linked? (.saved out.1) = none ∧ out.2.generation = s.generation ∧
      out.2.remoteId = s.remoteId ∧ out.2.held ⊆ password.toList ++ s.held := by
  cases h with
  | updated =>
    obtain ⟨hgen, hid⟩ := settlePasswords_linked s password
    exact ⟨rfl, hgen, hid, held_settlePasswords s password⟩
  | asked => exact ⟨rfl, rfl, rfl, List.subset_append_right _ _⟩
  | discarded => exact ⟨rfl, rfl, rfl, List.subset_append_right _ _⟩
  | unreadable => exact ⟨rfl, rfl, rfl, List.subset_append_right _ _⟩
  | failed e state =>
    obtain ⟨hid, hheld⟩ := linked_of_kept_eq (kept_markState s t state)
    exact ⟨rfl, by simp, hid, hheld ▸ List.subset_append_right _ _⟩

/-- **What a save changes.** -/
theorem Saves.changed {out : Sync.Outcome Sync.SaveOutcome} (h : Saves s op es out) :
    Changed s op (.saved out.1) out.2 := by
  cases h with
  | idle _ fruitless => obtain ⟨e, rfl⟩ | rfl := fruitless <;> exact .same rfl rfl rfl rfl
  | late => exact .same rfl rfl rfl rfl
  | @givenUp _ p =>
    obtain ⟨hid, hheld⟩ := linked_of_kept_eq (kept_markState s p.ticket p.ticket.prior)
    exact .same rfl (generation_markState ..) hid hheld
  | unlinked => exact .same rfl rfl rfl rfl
  | created => exact changed_of_created (Sync.created_applyCreate ..)
  | begun =>
    -- The password that is presented is one of those held.
    obtain ⟨hlinked, hgen, hid, hheld⟩ := changed_of_updated (Sync.updated_applyUpdate ..)
    have hcredential := (List.append_subset.1 s.updateCredential_subset_held).1
    exact .kept hlinked (Nat.le_of_eq hgen.symm) hid
      (List.Subset.trans hheld (List.append_subset.2 ⟨hcredential, List.Subset.refl _⟩))
  | resumed current _ answered =>
    obtain ⟨hlinked, hgen, hid, hheld⟩ := changed_of_updated (Sync.updated_applyUpdate ..)
    exact .answered rfl answered current hlinked hgen hid hheld

/-- An edit changes neither document nor passwords. -/
theorem Edits.changed (h : Edits s op result s') : Changed s op result s' := by
  have hlinked : result.linked? = none := by
    obtain ⟨r, rfl⟩ | ⟨r, rfl⟩ := h.result_eq <;> rfl
  rw [h.edited]
  exact .same hlinked rfl rfl rfl

/-- A pasted document has no copy in the store and no passwords. -/
theorem changed_of_applyPasted (s : Session) (dt : DataTemplate) (d : Decision Unit DataTemplate) :
    Changed s op (.pasted d) (s.applyPasted dt) :=
  .reset rfl (Nat.lt_succ_self _) rfl rfl

/-- **What an operation does to document and passwords** is one of the cases. -/
theorem changed_of_step (h : Step s op es result s') : Changed s op result s' := by
  -- What is held changes only where a document is pasted, protected, fetched or saved.
  cases performed_of_step h with
  | acts _ hacts =>
    cases hacts with
    | edits hedits => exact hedits.changed
    | asks => exact .same rfl rfl rfl rfl
    | pastes => exact changed_of_applyPasted s _ _
    | confirms => exact changed_of_applyPasted s _ _
    | notProtected => exact .same rfl rfl rfl rfl
    | protects linked => exact .secured rfl linked rfl rfl rfl (by simp [held])
    | invalid => exact .same rfl rfl rfl rfl
    | begins => exact .kept rfl (Nat.le_succ _) rfl (List.Subset.refl _)
  | loads _ hloads => exact hloads.changed
  | saves _ hsaves => exact hsaves.changed

/-! ## Requests that are sent -/

/-- **Where a request goes and which passwords it carries.** -/
inductive Sent (s : Session) (op : Operation) (r : Request) : Prop
  | bare {doc : Option String} (path : r.path = documentPath doc) (secrets : r.secrets = [])
  | linked {id : String} (linked : s.remoteId = some id) (path : r.path = documentPath (some id))
      (secrets : r.secrets ⊆ s.held)
  | opened {t : LoadTicket} {answer : Option String} {password : String}
      (isAnswer : op = .fetchWithPassword t answer)
      (answer : Password.answer answer = some password)
      (path : r.path = documentPath (some t.id)) (secrets : r.secrets = [password])
  | answered {o : Sync.Options} {p : Sync.UpdatePrompt} {answer : Option String}
      {password id : String} (isAnswer : op = .resumeUpdate o p answer)
      (answer : Password.answer answer = some password)
      (current : s.generation = p.ticket.generation) (linked : s.remoteId = some id)
      (path : r.path = documentPath (some id)) (secrets : r.secrets ⊆ password :: s.held)

/-- **The requests of a step**: those exchanged, and that of a fetch it has started. -/
def requests (es : List (Request × Reply)) : Result → List Request
  | .started (.ok p) => p.request :: es.map (·.1)
  | _ => es.map (·.1)

/-- Its request goes to the document of the fetch. -/
theorem sent_of_beginFetch {id : String} {p : Sync.PendingFetch}
    (h : Sync.beginFetch s id = .ok (p, s')) : Sent s op p.request := by
  obtain ⟨rfl, -⟩ := beginFetch_eq_ok h
  by_cases hid : s.remoteId = some id
  · refine .linked hid (Sync.path_fetchRequest _ _) ?_
    rw [Sync.PendingFetch.request, Sync.secrets_fetchRequest, if_pos hid]
    exact fetchCredential_subset_held s
  · refine .bare (Sync.path_fetchRequest _ _) ?_
    rw [Sync.PendingFetch.request, Sync.secrets_fetchRequest, if_neg hid]
    rfl

/-- An answer to a fetch's question goes to the document of the ticket, and any other request of a
load to that of the fetch. -/
theorem Loads.sent {out : Sync.Outcome Sync.FetchOutcome} (h : Loads s op es out) :
    ∀ e ∈ es, Sent s op e.1 := by
  cases h with
  | invalid | late | givenUp | applied => exact fun e he => nomatch he
  | fetched reply _ begins =>
    intro e he
    rw [List.mem_singleton.1 he]
    exact sent_of_beginFetch begins
  | answered reply _ answered =>
    intro e he
    rw [List.mem_singleton.1 he]
    exact .opened rfl answered (Sync.path_fetchRequest _ _) (Sync.secrets_fetchRequest _ _)

/-- A look goes to the document that the session is linked to, and presents a held password. -/
theorem Looked.sent (h : Looked s op es) : ∀ e ∈ es, Sent s op e.1 := by
  cases h with
  | nothing => exact fun e he => nomatch he
  | document reply linked =>
    intro e he
    rw [List.mem_singleton.1 he]
    refine .linked linked (Sync.path_fetchRequest _ _) ?_
    rw [Sync.secrets_fetchRequest]
    exact fetchCredential_subset_held s

/-- **The requests of a save** go to the document that the session is linked to, or carry no
password. -/
theorem Saves.sent {out : Sync.Outcome Sync.SaveOutcome} (h : Saves s op es out) :
    ∀ e ∈ es, Sent s op e.1 := by
  cases h with
  | idle _ _ looked => exact looked.sent
  | late | givenUp | unlinked => exact fun e he => nomatch he
  | @created op o =>
    intro e he
    have hrequest : e.1 = Sync.writeRequest o s none := by rw [List.mem_singleton.1 he]
    rw [hrequest]
    exact .bare (Sync.path_writeRequest o s none) (Sync.secrets_writeRequest o s none)
  | begun look _ linked looked =>
    intro e he
    obtain he | he := List.mem_append.1 he
    · exact looked.sent e he
    · rw [List.mem_singleton.1 he]
      refine .linked linked (Sync.path_updateRequest ..) ?_
      rw [Sync.secrets_updateRequest]
      exact updateCredential_subset_held s
  | resumed current linked answered =>
    intro e he
    rw [List.mem_singleton.1 he]
    refine .answered rfl answered current linked (Sync.path_updateRequest ..) ?_
    rw [Sync.secrets_updateRequest]
    exact List.cons_subset_cons _ (List.append_subset.1 s.updateCredential_subset_held).2

/-- **Every request of a step** goes where one of the cases says, with the passwords it says. -/
theorem sent_of_step (h : Step s op es result s') : ∀ r ∈ requests es result, Sent s op r := by
  have hexchanged (hes : ∀ e ∈ es, Sent s op e.1) : ∀ r ∈ es.map (·.1), Sent s op r := by
    intro r hr
    obtain ⟨e, he, rfl⟩ := List.mem_map.1 hr
    exact hes e he
  intro r hr
  cases performed_of_step h with
  | acts silent hacts =>
    -- Only a fetch that is started adds a request to those exchanged, of which there are none.
    subst silent
    cases hacts with
    | begins _ begins =>
      rw [List.mem_singleton.1 hr]
      exact sent_of_beginFetch begins
    | edits hedits => obtain ⟨x, rfl⟩ | ⟨x, rfl⟩ := hedits.result_eq <;> cases hr
    | _ => cases hr
  | loads _ hloads => exact hexchanged hloads.sent r hr
  | saves _ hsaves => exact hexchanged hsaves.sent r hr

/-! ## What is handed out -/

/-- A fetch is started by the operation for it. -/
theorem started_of_step {p : Sync.PendingFetch} (h : Step s op es (.started (.ok p)) s') :
    ∃ id, Sync.beginFetch s id = .ok (p, s') := by
  cases performed_of_step h with
  | acts _ hacts =>
    cases hacts with
    | begins _ begins => exact ⟨_, begins⟩
    | edits hedits => cases hedits

/-- An update that asks for a password asks it for its own ticket. -/
theorem asked_of_updated {o : Sync.Options} {t : SaveTicket} {id : String} {revision : Nat}
    {password : Option String} {reply : Reply} {out : Sync.Outcome Sync.SaveOutcome}
    (h : Sync.Updated o s t id revision password reply out) {p : Sync.UpdatePrompt}
    (hasked : out.1 = .ok (.passwordRequired p)) : p.ticket = t ∧ out.2 = s := by
  cases h with
  | asked =>
    cases hasked
    exact ⟨rfl, rfl⟩
  | _ => cases hasked

/-- **A save that asks for a password** has a copy in the store. Its question is for the ticket with
which it has begun, or for that of the question that it answers. -/
theorem Saves.asked {out : Sync.Outcome Sync.SaveOutcome} (h : Saves s op es out)
    {p : Sync.UpdatePrompt} (hasked : out.1 = .ok (.passwordRequired p)) :
    (∃ id, s.remoteId = some id) ∧
      (((∀ o q answer, op ≠ .resumeUpdate o q answer) ∧ p.ticket = s.beginSave.1 ∧
          out.2 = s.beginSave.2) ∨
        ∃ o q answer, op = .resumeUpdate o q answer ∧ s.generation = q.ticket.generation ∧
          p.ticket = q.ticket ∧ out.2 = s) := by
  cases h with
  | idle _ fruitless => obtain ⟨e, heq⟩ | heq := fruitless <;> cases heq.symm.trans hasked
  | late | givenUp | unlinked => cases hasked
  | @created op o reply =>
    have hcreated := Sync.created_applyCreate o s.beginSave.2 s.beginSave.1 reply
    generalize Sync.applyCreate o s.beginSave.2 s.beginSave.1 reply = out at hcreated hasked
    cases hcreated <;> cases hasked
  | begun look updates linked =>
    obtain ⟨hticket, hsame⟩ := asked_of_updated (Sync.updated_applyUpdate ..) hasked
    exact ⟨⟨_, linked⟩, .inl ⟨begins_of_updates updates, hticket, hsame⟩⟩
  | @resumed o q answer _ _ _ current linked =>
    obtain ⟨hticket, hsame⟩ := asked_of_updated (Sync.updated_applyUpdate ..) hasked
    exact ⟨⟨_, linked⟩, .inr ⟨o, q, answer, rfl, current, hticket, hsame⟩⟩

/-- **A prompt is of the generation and for the document** that the session is left with. -/
theorem prompt_of_step {p : Sync.UpdatePrompt}
    (h : Step s op es (.saved (.ok (.passwordRequired p))) s') :
    p.ticket.generation = s'.generation ∧ ∃ id, s'.remoteId = some id := by
  obtain ⟨out, hsaves, hout, rfl⟩ := saves_of_step h (isSave_of_saved h)
  obtain ⟨⟨id, hid⟩, ⟨-, hticket, hsame⟩ | ⟨o, q, answer, -, hcurrent, hticket, hsame⟩⟩ :=
    hsaves.asked (Result.saved.inj hout).symm
  · rw [hticket, hsame]
    exact ⟨rfl, id, hid⟩
  · rw [hticket, hsame]
    exact ⟨hcurrent.symm, id, hid⟩

end Session

end TemplateShare
