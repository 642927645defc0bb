import TemplateShare.Proofs.Session.Kept

/-! # What a save leaves in the session

A save, whichever of its forms it has, leaves one of three things: nothing that lasts, a new copy
in the store, or another revision of the copy. In the last two the store has accepted the last
request that was sent.

* **`Sync.update_eq`**, **`Sync.resumeUpdate_eq`** — an update as the one exchange that it is.
* **`Session.Settled`**, **`Session.settled_of_step`** — the three cases, with that request.
* **`Session.unchanged_of_step`** — what exchanges leave alone: all but state, location and
  generation where they fail, and the document in every save. -/

namespace TemplateShare

/-! ## Updates that are sent -/

namespace Sync

variable {o : Options} {s : Session} {t : Session.SaveTicket} {id : String} {revision : Nat}
  {password : Option String} {r : Response}

/-- **An update of a session that has changed** is one exchange. -/
theorem update_eq (hid : s.remoteId = some id) (hdirty : s.dirty = true) :
    update o s = .exchange (updateRequest o s id (s.revision + 1) s.updateCredential) fun reply =>
      .done (applyUpdate o s.beginSave.2 s.beginSave.1 id (s.revision + 1) s.updateCredential
        reply) := by
  have hlinked : s.beginSave.2.remoteId = some id := hid
  rw [update_eq_sendUpdate hid hdirty, sendUpdate_eq hlinked]
  rfl

/-- A save of a session with a copy in the store is an update. -/
theorem save_eq_update (hid : s.remoteId = some id) : save o s = update o s := by
  have hsaved : ¬ s.isUnsaved = true := by rw [Session.isUnsaved, hid]; simp
  rw [save, if_neg hsaved]

/-- **An answer to an update's question** sends the update once more and presents the answer. -/
theorem resumeUpdate_eq {p : UpdatePrompt} {answer : Option String} {given : String}
    (hid : s.remoteId = some id) (hcurrent : s.isCurrent p.ticket.generation = true)
    (hanswer : Password.answer answer = some given) :
    resumeUpdate o s p answer =
      .exchange (updateRequest o s id p.revision (some given)) fun reply =>
        .done (applyUpdate o s p.ticket id p.revision (some given) reply) := by
  rw [resumeUpdate, if_neg (by rw [hcurrent]; simp), hanswer]
  exact sendUpdate_eq hid

/-- An update that is accepted. -/
theorem applyUpdate_accepted {named : String} {hash : Option String}
    (current : s.isCurrent t.generation = true) (success : r.status = 200)
    (read : parseAnswer r.body = .ok (named, hash)) :
    applyUpdate o s t id revision password (.ok r) =
      (.ok (.updated id revision), s.completeUpdate revision hash password o.now) := by
  rw [applyUpdate]
  simp only [success, read, current, if_true]

/-- An update that is refused for its password. -/
theorem applyUpdate_asked (refused : r.status = 401) :
    applyUpdate o s t id revision password (.ok r) =
      (.ok (.passwordRequired ⟨t, revision, password.isSome⟩), s) := by
  rw [applyUpdate]
  simp only [refused]

/-- An update that is in conflict with a later revision. -/
theorem applyUpdate_conflict (refused : r.status = 409) :
    applyUpdate o s t id revision password (.ok r) =
      (.error (.conflict s.revision), s.markState t .conflict) := by
  rw [applyUpdate]
  simp only [refused, Sync.refused, failed]

end Sync

namespace Session

variable {s s' : Session} {o : Sync.Options} {es : List (Request × Reply)} {result : Result}

/-! ## The cases -/

/-- What lasts of a session after an update depends on what lasts of it before. -/
theorem kept_completeUpdate {s₀ : Session} (h : s₀.kept = s.kept) (revision : Nat)
    (hash presented : Option String) (now : Instant) :
    (s₀.completeUpdate revision hash presented now).kept =
      (s.completeUpdate revision hash presented now).kept := by
  have hown (x : Session) : (x.completeUpdate revision hash presented now).kept =
      (x.kept.completeUpdate revision hash presented now).kept := by
    have hpending : x.kept.pendingProtection = x.pendingProtection := rfl
    have hcredential : x.kept.updateCredential = x.updateCredential := rfl
    unfold completeUpdate settlePasswords
    rw [hpending, hcredential]
    cases x.pendingProtection with
    | some p => rfl
    | none =>
      dsimp only
      split <;> rfl
  rw [hown, h, ← hown]

/-- **All that a save can come to**, up to state, location and generation. An update is sent with the
password `presented`, and may follow a look at the document. -/
inductive Settled (s : Session) (es : List (Request × Reply)) (s' : Session) : Result → Prop
  | nothing {result : Result} (failed : result.isSync = false) (kept : s'.kept = s.kept) :
      Settled s es s' result
  | created {o : Sync.Options} {r : Response} {id : String} {hash : Option String}
      (sent : es = [(Sync.writeRequest o s none, .ok r)]) (success : r.status = 200)
      (read : Sync.parseAnswer r.body = .ok (id, hash))
      (kept : s'.kept = (s.completeCreate id hash o.now).kept) :
      Settled s es s' (.saved (.ok (.created id)))
  | updated {o : Sync.Options} {before : List (Request × Reply)} {r : Response} {id named : String}
      {revision : Nat} {presented hash : Option String} (linked : s.remoteId = some id)
      (sent : es = before ++ [(Sync.updateRequest o s id revision presented, .ok r)])
      (success : r.status = 200) (read : Sync.parseAnswer r.body = .ok (named, hash))
      (kept : s'.kept = (s.completeUpdate revision hash presented o.now).kept) :
      Settled s es s' (.saved (.ok (.updated id revision)))

/-- A creation comes to one of the cases. -/
theorem settled_of_created {reply : Reply} {out : Sync.Outcome Sync.SaveOutcome}
    (h : Sync.Created o s.beginSave.2 s.beginSave.1 reply out) :
    Settled s [(Sync.writeRequest o s none, reply)] out.2 (.saved out.1) := by
  cases h with
  | created current answered success read =>
    exact .created (by rw [answered]) success read rfl
  | discarded => exact .nothing rfl rfl
  | unreadable => exact .nothing rfl rfl
  | failed e state => exact .nothing rfl ((kept_markState _ _ _).trans (kept_beginSave s))

/-- An update that is sent comes to one of the cases. Neither what was sent before nor that a save
has been started makes a difference. -/
theorem settled_of_updated {s₀ : Session} {t : SaveTicket} {id : String} {revision : Nat}
    {presented : Option String} {reply : Reply} {out : Sync.Outcome Sync.SaveOutcome}
    (before : List (Request × Reply)) (hs : s₀ = s ∨ s₀ = s.beginSave.2)
    (hlinked : s.remoteId = some id)
    (h : Sync.Updated o s₀ t id revision presented reply out) :
    Settled s (before ++ [(Sync.updateRequest o s₀ id revision presented, reply)]) out.2
      (.saved out.1) := by
  have hkept : s₀.kept = s.kept := by obtain rfl | rfl := hs <;> rfl
  have hrequest : Sync.updateRequest o s₀ id revision presented =
      Sync.updateRequest o s id revision presented := by obtain rfl | rfl := hs <;> rfl
  cases h with
  | updated current answered success read =>
    exact .updated hlinked (by rw [answered, hrequest]) success read
      (kept_completeUpdate hkept _ _ _ _)
  | asked => exact .nothing rfl hkept
  | discarded => exact .nothing rfl hkept
  | unreadable => exact .nothing rfl hkept
  | failed e state => exact .nothing rfl ((kept_markState _ _ _).trans hkept)

/-- **Every save comes to one of the cases.** -/
theorem settled_of_step {op : Operation} (h : Step s op es result s') (hop : op.isSave = true) :
    Settled s es s' result := by
  obtain ⟨out, hsaves, rfl, rfl⟩ := saves_of_step h hop
  cases hsaves with
  | idle _ fruitless => obtain ⟨e, rfl⟩ | rfl := fruitless <;> exact .nothing rfl rfl
  | late => exact .nothing rfl rfl
  | givenUp => exact .nothing rfl (kept_markState _ _ _)
  | unlinked => exact .nothing rfl rfl
  | created => exact settled_of_created (Sync.created_applyCreate ..)
  | begun look _ linked =>
    exact settled_of_updated look (.inr rfl) linked (Sync.updated_applyUpdate ..)
  | resumed _ linked =>
    exact settled_of_updated [] (.inl rfl) linked (Sync.updated_applyUpdate ..)

/-- **An update that is refused for its password** ends with a question. -/
theorem step_update_asked (o : Sync.Options) {id : String} {r : Response} (hid : s.remoteId = some id)
    (hdirty : s.dirty = true) (refused : r.status = 401) :
    Step s (.update o)
      [(Sync.updateRequest o s id (s.revision + 1) s.updateCredential, .ok r)]
      (.saved (.ok (.passwordRequired
        ⟨s.beginSave.1, s.revision + 1, s.updateCredential.isSome⟩))) s.beginSave.2 := by
  refine Dialogue.exchanged_map_iff.2 ⟨(.ok (.passwordRequired _), s.beginSave.2), ?_, rfl⟩
  rw [Sync.update_eq hid hdirty, Dialogue.exchanged_exchange_iff]
  refine ⟨.ok r, [], rfl, ?_⟩
  rw [Sync.applyUpdate_asked refused]
  exact .done _

/-- **An answer to the question that is accepted** updates the document. -/
theorem step_resumeUpdate_accepted (o : Sync.Options) {p : Sync.UpdatePrompt} {id given : String}
    {r : Response} {answer : String × Option String} (hid : s.remoteId = some id)
    (hcurrent : s.isCurrent p.ticket.generation = true) (hgiven : Text.isBlank given = false)
    (success : r.status = 200) (read : Sync.parseAnswer r.body = .ok answer) :
    Step s (.resumeUpdate o p (some given))
      [(Sync.updateRequest o s id p.revision (some given), .ok r)]
      (.saved (.ok (.updated id p.revision)))
      (s.completeUpdate p.revision answer.2 (some given) o.now) := by
  have hanswer : Password.answer (some given) = some given := by simp [Password.answer, hgiven]
  refine Dialogue.exchanged_map_iff.2 ⟨(.ok (.updated id p.revision), _), ?_, rfl⟩
  rw [Sync.resumeUpdate_eq hid hcurrent hanswer, Dialogue.exchanged_exchange_iff]
  refine ⟨.ok r, [], rfl, ?_⟩
  rw [Sync.applyUpdate_accepted hcurrent success read]
  exact .done _

/-- **An update that is accepted** at once. -/
theorem step_update_accepted (o : Sync.Options) {id : String} {r : Response}
    {answer : String × Option String}
    (hid : s.remoteId = some id) (hdirty : s.dirty = true) (success : r.status = 200)
    (read : Sync.parseAnswer r.body = .ok answer) :
    Step s (.update o) [(Sync.updateRequest o s id (s.revision + 1) s.updateCredential, .ok r)]
      (.saved (.ok (.updated id (s.revision + 1))))
      (s.beginSave.2.completeUpdate (s.revision + 1) answer.2 s.updateCredential o.now) := by
  refine Dialogue.exchanged_map_iff.2 ⟨(.ok (.updated id (s.revision + 1)), _), ?_, rfl⟩
  rw [Sync.update_eq hid hdirty, Dialogue.exchanged_exchange_iff]
  refine ⟨.ok r, [], rfl, ?_⟩
  rw [Sync.applyUpdate_accepted (beq_self_eq_true _) success read]
  exact .done _

/-- **An answer to the question that leads to a conflict.** -/
theorem step_resumeUpdate_conflict (o : Sync.Options) {p : Sync.UpdatePrompt}
    {id given : String} {r : Response}
    (hid : s.remoteId = some id) (hcurrent : s.isCurrent p.ticket.generation = true)
    (hgiven : Text.isBlank given = false) (refused : r.status = 409) :
    Step s (.resumeUpdate o p (some given))
      [(Sync.updateRequest o s id p.revision (some given), .ok r)]
      (.saved (.error (.conflict s.revision))) { s with state := .conflict } := by
  have hanswer : Password.answer (some given) = some given := by simp [Password.answer, hgiven]
  have hmarked : s.markState p.ticket .conflict = { s with state := .conflict } := if_pos hcurrent
  refine Dialogue.exchanged_map_iff.2 ⟨(.error (.conflict s.revision), _), ?_, rfl⟩
  rw [Sync.resumeUpdate_eq hid hcurrent hanswer, Dialogue.exchanged_exchange_iff]
  refine ⟨.ok r, [], rfl, ?_⟩
  rw [Sync.applyUpdate_conflict refused, hmarked]
  exact .done _

/-- **An overwrite that is refused for its password** ends with a question. -/
theorem step_overwrite_asked (o : Sync.Options) {id : String} {r : Response} {looked : Reply}
    {held : Nat}
    (hid : s.remoteId = some id) (hheld : Sync.heldRevision id looked = .ok held)
    (refused : r.status = 401) :
    Step s (.overwrite o id)
      [(Sync.fetchRequest id s.fetchCredential, looked),
        (Sync.updateRequest o s id (held + 1) s.updateCredential, .ok r)]
      (.saved (.ok (.passwordRequired ⟨s.beginSave.1, held + 1, s.updateCredential.isSome⟩)))
      s.beginSave.2 := by
  have hbegun : s.beginSave.2.remoteId = some id := hid
  refine Dialogue.exchanged_map_iff.2 ⟨(.ok (.passwordRequired _), s.beginSave.2), ?_, rfl⟩
  rw [Sync.overwrite, if_neg (not_not_intro hid), Dialogue.exchanged_exchange_iff]
  refine ⟨looked, _, rfl, ?_⟩
  rw [hheld]
  dsimp only
  rw [Sync.sendUpdate_eq hbegun, Dialogue.exchanged_exchange_iff]
  refine ⟨.ok r, [], rfl, ?_⟩
  rw [Sync.applyUpdate_asked refused]
  exact .done _

/-! ## What exchanges leave alone -/

/-- **An update that is accepted leaves the document**: registry, editor and template. -/
theorem document_completeUpdate (s : Session) (revision : Nat) (hash presented : Option String)
    (now : Instant) :
    (s.completeUpdate revision hash presented now).registry = s.registry ∧
      (s.completeUpdate revision hash presented now).editor = s.editor ∧
      (s.completeUpdate revision hash presented now).template = s.template := by
  -- The passwords are all that settling them changes.
  have hsettle : (s.settlePasswords presented).registry = s.registry ∧
      (s.settlePasswords presented).editor = s.editor ∧
        (s.settlePasswords presented).template = s.template := by
    unfold settlePasswords
    split
    · exact ⟨rfl, rfl, rfl⟩
    · split <;> exact ⟨rfl, rfl, rfl⟩
  exact hsettle

/-- **What has been accepted says nothing of the document**: registry, editor and template stay as
they were. -/
theorem Settled.document (h : Settled s es s' result) :
    s'.registry = s.registry ∧ s'.editor = s.editor ∧ s'.template = s.template := by
  cases h with
  | nothing _ kept =>
    obtain ⟨hregistry, heditor, htemplate, -⟩ := eq_of_kept_eq kept
    exact ⟨hregistry, heditor, htemplate⟩
  | created _ _ _ kept =>
    obtain ⟨hregistry, heditor, htemplate, -⟩ := eq_of_kept_eq kept
    exact ⟨hregistry, heditor, htemplate⟩
  | @updated o _ _ _ _ revision presented hash _ _ _ _ kept =>
    obtain ⟨hregistry, heditor, htemplate, -⟩ := eq_of_kept_eq kept
    obtain ⟨hregistry', heditor', htemplate'⟩ :=
      document_completeUpdate s revision hash presented o.now
    exact ⟨hregistry.trans hregistry', heditor.trans heditor', htemplate.trans htemplate'⟩

/-- Sessions with the same lasting part differ at most in state, location and generation. -/
theorem eq_update_of_kept_eq (h : s'.kept = s.kept) :
    s' = { s with state := s'.state, location := s'.location, generation := s'.generation } := by
  cases s
  cases s'
  simp only [kept, Session.mk.injEq] at h ⊢
  obtain ⟨rfl, rfl, rfl, rfl, rfl, rfl, rfl, rfl, rfl, rfl, -, rfl, -, -, rfl⟩ := h
  simp only [and_self]

/-- Where no passwords are to be set, at most the password for changes is another one after an
update. -/
theorem exists_settlePasswords (h : s.pendingProtection = none)
    (presented : Option String) :
    ∃ m, s.settlePasswords presented = { s with modifyPassword := m } := by
  unfold settlePasswords
  split
  · next p hp => cases h.symm.trans hp
  · split
    · exact ⟨presented, rfl⟩
    · exact ⟨s.modifyPassword, rfl⟩

/-- **A linked session after an update** has the document from before, a record of the new revision,
and nothing left to save. -/
theorem completeUpdate_linked {x : Session} {dt : DataTemplate} {r : SyncRecord} {b : Bool}
    (h : x.kept = (linked dt r b).kept) (revision : Nat) (hash : String)
    (presented : Option String) (now : Instant) :
    (x.completeUpdate revision (some hash) presented now).registry = dt.registry ∧
      (x.completeUpdate revision (some hash) presented now).snapshot = dt ∧
      (x.completeUpdate revision (some hash) presented now).syncRecord =
        some { r with revision, hash := some hash, updated := some now } ∧
      (x.completeUpdate revision (some hash) presented now).dirty = false := by
  obtain ⟨m, hsettled⟩ := exists_settlePasswords
    (show x.pendingProtection = none from (eq_of_kept_eq h).2.2.2.2.2.2.2) presented
  unfold completeUpdate
  rw [hsettled, eq_update_of_kept_eq h]
  refine ⟨rfl, snapshot_linked dt r b, ?_, rfl⟩
  show some (⟨r.id, revision, some hash, !(!r.isProtected), some now⟩ : SyncRecord) = _
  rw [Bool.not_not]

/-- **A failed exchange leaves the document alone.** Whatever the store replies, an exchange that
neither loads, creates nor updates changes at most state, location and generation of the session, and
no save changes registry, editor or template, not even where it succeeds. -/
theorem unchanged_of_step {op : Operation} (h : Step s op es result s')
    (hop : op.isExchange = true) :
    (result.isSync = false →
      s' = { s with state := s'.state, location := s'.location, generation := s'.generation }) ∧
    (op.isSave = true →
      s'.registry = s.registry ∧ s'.editor = s.editor ∧ s'.template = s.template) :=
  ⟨fun hfailed => eq_update_of_kept_eq (kept_of_step h hop hfailed),
    fun hsave => (settled_of_step h hsave).document⟩

/-- A session that has changed since it was loaded, and is to get a password. -/
def guardedSession : Session :=
  { Session.linked (.single "a,b" "x: 1" "t") ⟨"doc1", 3, none, false, none⟩ true with
    pendingProtection := some ⟨some "open", none, .inl rfl⟩ }

/-- An update of it is accepted with an answer that cannot be read, and it stays as it was. -/
theorem unchanged_of_step_unreadable :
    ∃ s' result, Step guardedSession (.update ⟨1024, ⟨0, 0⟩⟩)
        [(Sync.updateRequest ⟨1024, ⟨0, 0⟩⟩ guardedSession "doc1" 4 none, .ok ⟨200, "", none⟩)]
        result s' ∧
      result.isSync = false ∧
      s' = { guardedSession with state := s'.state, location := s'.location,
                                 generation := s'.generation } ∧
      s'.registry = guardedSession.registry ∧ s'.editor = guardedSession.editor ∧
      s'.template = guardedSession.template := by
  have hstep : Step guardedSession (.update ⟨1024, ⟨0, 0⟩⟩)
      [(Sync.updateRequest ⟨1024, ⟨0, 0⟩⟩ guardedSession "doc1" 4 none, .ok ⟨200, "", none⟩)]
      (.saved (.error (.validation (.invalidRemoteId "")))) guardedSession.beginSave.2 :=
    Dialogue.exchanged_map_iff.2 ⟨_, .exchange (.done _), rfl⟩
  obtain ⟨hkept, hdocument⟩ := unchanged_of_step hstep rfl
  exact ⟨_, _, hstep, rfl, hkept rfl, hdocument rfl⟩

end Session

end TemplateShare
