import TemplateShare.Proofs.Command.Outcome
import TemplateShare.Proofs.Session.Edit
import TemplateShare.Proofs.Sharing.Accepted
import TemplateShare.Proofs.Store.Protection

/-! # Whether passwords can be set

A session notes whether passwords can be set for its document: when it loads or creates the document,
and when it sets passwords itself. An update that sets none keeps what has been noted. So the note is
right after an update if and only if it was right before, or the update sets passwords; and where
another session has set passwords meanwhile, it is wrong.

* **`Ledger.Attended`** — requests that are served, with valid ids for new documents.
* **`Session.noted_of_step`** — which operations leave what has been noted.
* **`Sharing.Notes`**, **`Sharing.Synced`** — what a session notes of the document that an operation
  has loaded, created or updated.
* **`Sharing.Works`**, **`Sharing.Cautious`** — sessions at work never take a document without
  passwords for one that has some.
* **`Sharing.overlooks_iff`** — what they take for a document without passwords.
* **`Sharing.tells_iff_of_synced`** — when the note is right.
* **`Sharing.exists_overlooked_protection`** — an update that is accepted and leaves the note wrong. -/

namespace TemplateShare

namespace Ledger

variable {l l' : Ledger} {writer : DataTemplate} {es : List (Request × Reply)} {id : String}

/-- **Requests that set no passwords** leave those of all documents. -/
theorem Served.isProtected_eq (served : Served writer l es l')
    (hes : ∀ e ∈ es, e.1.setsPasswords = false) (id : String) :
    l'.store.isProtected id = l.store.isProtected id := by
  induction served with
  | done => rfl
  | exchange _ ih =>
    rw [ih fun e he => hes e (List.mem_cons_of_mem _ he)]
    refine (Store.isProtected_send _ _ _ id).trans ?_
    rw [hes _ List.mem_cons_self]
    simp

/-- **Passwords stay**, whatever is requested. -/
theorem Served.isProtected_mono (served : Served writer l es l')
    (h : l.store.isProtected id = true) : l'.store.isProtected id = true := by
  induction served with
  | done => exact h
  | exchange _ ih =>
    refine ih ((Store.isProtected_send _ _ _ id).trans ?_)
    rw [h, Bool.true_or]

/-- **Requests that are served, where new documents get valid ids.** -/
inductive Attended (writer : DataTemplate) : Ledger → List (Request × Reply) → Ledger → Prop
  | done (l : Ledger) : Attended writer l [] l
  | exchange {env : Store.Setting} {r : Request} {l l' : Ledger} {es : List (Request × Reply)}
      (valid : ∀ id, Store.acceptedId? env r l.store = some id → DocumentId.isValid id = true)
      (more : Attended writer (l.exchange env writer r) es l') :
      Attended writer l ((r, (l.store.send env r).1) :: es) l'

/-- They are served. -/
theorem Attended.served (attended : Attended writer l es l') : Served writer l es l' := by
  induction attended with
  | done => exact .done _
  | exchange _ _ ih => exact .exchange ih

/-- A request that the store answers, without an invalid id. -/
theorem Attended.of_send {env : Store.Setting} {r : Request} {reply : Reply} {store : Store}
    (hsend : l.store.send env r = (reply, store))
    (valid : ∀ id, Store.acceptedId? env r l.store = some id → DocumentId.isValid id = true) :
    ∃ l', Attended writer l [(r, reply)] l' ∧ l'.store = store := by
  have attended : Attended writer l [(r, (l.store.send env r).1)] (l.exchange env writer r) :=
    .exchange valid (.done _)
  rw [hsend] at attended
  exact ⟨_, attended, congrArg Prod.snd hsend⟩

/-- A single request and its reply. -/
theorem Attended.singleton {r : Request} {reply : Reply}
    (attended : Attended writer l [(r, reply)] l') :
    ∃ env, reply = (l.store.send env r).1 ∧ l' = l.exchange env writer r ∧
      ∀ id, Store.acceptedId? env r l.store = some id → DocumentId.isValid id = true := by
  generalize hes : [(r, reply)] = es at attended
  cases attended with
  | done => cases hes
  | @exchange env _ _ _ _ valid more =>
    obtain ⟨he, rfl⟩ := List.cons.inj hes
    obtain ⟨rfl, rfl⟩ := Prod.mk.inj he
    cases more
    exact ⟨env, rfl, rfl, valid⟩

end Ledger

/-! ## What a session notes -/

namespace Session

variable {s s' : Session} {op : Operation} {es : List (Request × Reply)} {result : Result}

/-- **The document that an operation over the store has loaded, created or updated.** -/
def Operation.synced? (op : Operation) : Result → Option String
  | .fetched (.ok (.loaded _)) => Sharing.fetched? op
  | .saved (.ok (.created id)) | .saved (.ok (.updated id _)) => some id
  | _ => none

/-- **What an update notes**: that there are passwords now if it sets some, and else what has been
noted before. -/
theorem canProtect_completeUpdate (s : Session) (revision : Nat) (hash presented : Option String)
    (now : Instant) : (s.completeUpdate revision hash presented now).capabilities.canProtect =
      (s.pendingProtection.isNone && s.capabilities.canProtect) := by
  unfold completeUpdate settlePasswords
  cases s.pendingProtection with
  | some p => rfl
  | none =>
    dsimp only
    split <;> rfl

/-- Sessions with the same lasting part have noted the same. -/
theorem capabilities_of_kept_eq (h : s'.kept = s.kept) : s'.capabilities = s.capabilities := by
  have hcapabilities := congrArg Session.capabilities h
  exact hcapabilities

/-- An operation over the store that has loaded, created or updated no document has no such result.
Only a reply that is applied later could have one. -/
theorem isSync_of_synced? (h : op.synced? result = none) (hop : op.isExchange = true)
    (hlater : ∀ p reply, op ≠ .applyFetch p reply) (step : Step s op es result s') :
    result.isSync = false := by
  cases op with
  | applyFetch p reply => exact absurd rfl (hlater p reply)
  | beginFetch id =>
    obtain ⟨-, rfl, -⟩ := step.of_done rfl
    rw [fst_started]
    rfl
  | fetch | fetchWithPassword =>
    obtain ⟨out, -, rfl, -⟩ := exchanged_fetched step
    cases hresult : out.1 with
    | error e => rfl
    | ok outcome =>
      rw [hresult] at h
      cases outcome with
      | loaded => cases h
      | _ => rfl
  | create | update | save | resumeUpdate | overwrite =>
    obtain ⟨out, -, rfl, -⟩ := exchanged_saved step
    cases hresult : out.1 with
    | error e => rfl
    | ok outcome =>
      rw [hresult] at h
      cases outcome with
      | created | updated => cases h
      | _ => rfl
  | _ => cases hop

/-- **Any other operation leaves the document and what has been noted**, or the session is without a
document. -/
theorem noted_of_step (h : Step s op es result s') (hsync : op.synced? result = none)
    (hlater : ∀ p reply, op ≠ .applyFetch p reply) :
    s'.remoteId = none ∨ s'.remoteId = s.remoteId ∧ s'.capabilities = s.capabilities := by
  have hexchange (hop : op.isExchange = true) :
      s'.remoteId = s.remoteId ∧ s'.capabilities = s.capabilities := by
    have hkept := kept_of_step h hop (isSync_of_synced? hsync hop hlater h)
    exact ⟨(eq_of_kept_eq hkept).2.2.2.1, capabilities_of_kept_eq hkept⟩
  cases hop : op.isExchange with
  | true => exact .inr (hexchange hop)
  | false =>
    obtain ⟨-, hacts⟩ := acts_of_step h hop
    cases hacts with
    | edits hedits =>
      rw [hedits.edited]
      exact .inr ⟨rfl, rfl⟩
    | pastes | confirms => exact .inl rfl
    | asks | notProtected | protects => exact .inr ⟨rfl, rfl⟩
    | invalid | begins => cases hop

end Session

namespace Sharing

open Session

variable {w w' : Sharing} {i : Nat} {op : Operation} {es : List (Request × Reply)} {result : Result}
  {s' : Session} {l : Ledger} {id : String}

/-! ## One operation -/

/-- **A session that has noted rightly** whether passwords can be set for a document. -/
def Tells (w : Sharing) (i : Nat) (id : String) : Prop :=
  (w.sessions i).capabilities.canProtect = !w.ledger.store.isProtected id

/-- **What a session notes of a document** that it has, and that is in the store. -/
structure Notes (l : Ledger) (s : Session) (id : String) (canProtect isProtected : Bool) : Prop where
  linked : s.remoteId = some id
  stored : ∃ d, l.store.get? id = some d
  noted : s.capabilities.canProtect = canProtect
  protection : l.store.isProtected id = isProtected

/-- **A load notes what the document has.** -/
theorem notes_of_loaded (hledger : w.ledger.Faithful) (hop : fetched? op = some id)
    {summary : Sync.LoadSummary}
    (step : Session.Step (w.sessions i) op es (.fetched (.ok (.loaded summary))) s')
    (served : Ledger.Served (w.sessions i).snapshot w.ledger es l) :
    ∃ isProtected, Notes l s' id (!isProtected) isProtected := by
  obtain ⟨s₀, t, x, password, d, hcurrent, rfl, rfl, hfaithful, hget, hread⟩ :=
    stored_of_loaded hledger hop step served
  obtain ⟨dt, hholds⟩ := hfaithful.sound _ _ hget
  obtain ⟨-, -, -, hprotected⟩ := hholds.parse_text hread
  refine ⟨d.isProtected, ?_, ⟨d, hget⟩, ?_, Store.isProtected_of_get? hget⟩
  all_goals
    unfold completeLoad
    rw [if_neg (not_not_intro hcurrent)]
  show (!x.isProtected) = _
  rw [hprotected]

/-- **A creation notes that there are no passwords**, and there are none. -/
theorem notes_of_created
    (step : Session.Step (w.sessions i) op es (.saved (.ok (.created id))) s')
    (attended : Ledger.Attended (w.sessions i).snapshot w.ledger es l) :
    Notes l s' id true false := by
  cases settled_of_step step (isSave_of_saved step) with
  | nothing failed => cases failed
  | @created o r _ hash sent success read kept =>
    subst sent
    obtain ⟨env, hreply, rfl, hvalid⟩ := attended.singleton
    have htarget : Store.target? (Sync.writeRequest o (w.sessions i) none).path = some .collection := by
      rw [Sync.path_writeRequest, Store.target?_documentPath_none]
    obtain ⟨haccepted, dt, revision, hstored⟩ := Store.stored_of_created
      (Sync.method_writeRequest _ _ _) htarget (Prod.ext hreply.symm rfl) hvalid success read
    refine ⟨(eq_of_kept_eq kept).2.2.2.1, ⟨_, hstored⟩, ?_, ?_⟩
    · rw [capabilities_of_kept_eq kept]
      rfl
    · refine (Store.isProtected_of_get? hstored).trans ?_
      rw [Store.isProtected_passwordsAfter, Sync.setsPasswords_writeRequest, Bool.false_or]
      -- What was there under the id has been written without a password, so it has none.
      cases hbefore : w.ledger.store.get? id with
      | none => rfl
      | some d =>
        have hadmits := Store.admits_of_accepted haccepted hbefore
        have hsecrets := Sync.secrets_writeRequest o (w.sessions i) none
        rw [Sync.header?_secrets hsecrets (by simp [Header.secrets])] at hadmits
        exact Store.Document.isProtected_of_admits_none hadmits

/-- **An update notes passwords that it sets**, and else what has been noted before. -/
theorem notes_of_updated {n : Nat}
    (step : Session.Step (w.sessions i) op es (.saved (.ok (.updated id n))) s')
    (served : Ledger.Served (w.sessions i).snapshot w.ledger es l) :
    (w.sessions i).remoteId = some id ∧ Notes l s' id
      ((w.sessions i).pendingProtection.isNone && (w.sessions i).capabilities.canProtect)
      ((w.sessions i).pendingProtection.isSome || w.ledger.store.isProtected id) := by
  have hunset := fun h => served.isProtected_eq (setsPasswords_of_step step h) id
  cases settled_of_step step (isSave_of_saved step) with
  | nothing failed => cases failed
  | @updated o before r _ named _ presented hash linked sent success read kept =>
    subst sent
    obtain ⟨l₁, -, hlast⟩ := served.of_append
    obtain ⟨env, hreply, rfl⟩ := hlast.singleton
    obtain ⟨-, -, -, dt, -, hstored⟩ := Store.stored_of_read (Prod.ext hreply.symm rfl) success read
    refine ⟨linked, ?_, ⟨_, hstored⟩, ?_, ?_⟩
    · rw [(eq_of_kept_eq kept).2.2.2.1]
      exact ((w.sessions i).settlePasswords_linked presented).2.trans linked
    · rw [capabilities_of_kept_eq kept, canProtect_completeUpdate]
    · cases hpending : (w.sessions i).pendingProtection with
      | none => exact hunset hpending
      | some p =>
        refine (Store.isProtected_of_get? hstored).trans ?_
        rw [Store.isProtected_passwordsAfter, Sync.setsPasswords_updateRequest, hpending]
        rfl

/-- **What session and store are in step about** after an operation over the store. -/
inductive Synced (w : Sharing) (i : Nat) (l : Ledger) (s' : Session) (id : String) : Result → Prop
  | loaded {summary : Sync.LoadSummary} {isProtected : Bool}
      (notes : Notes l s' id (!isProtected) isProtected) :
      Synced w i l s' id (.fetched (.ok (.loaded summary)))
  | created (notes : Notes l s' id true false) : Synced w i l s' id (.saved (.ok (.created id)))
  | updated {n : Nat} (linked : (w.sessions i).remoteId = some id)
      (notes : Notes l s' id
        ((w.sessions i).pendingProtection.isNone && (w.sessions i).capabilities.canProtect)
        ((w.sessions i).pendingProtection.isSome || w.ledger.store.isProtected id)) :
      Synced w i l s' id (.saved (.ok (.updated id n)))

/-- Every operation over the store comes to one of the cases. -/
theorem synced_of_step (hledger : w.ledger.Faithful)
    (step : Session.Step (w.sessions i) op es result s')
    (attended : Ledger.Attended (w.sessions i).snapshot w.ledger es l)
    (hid : op.synced? result = some id) : Synced w i l s' id result := by
  unfold Operation.synced? at hid
  split at hid
  · obtain ⟨isProtected, hnotes⟩ := notes_of_loaded hledger hid step attended.served
    exact .loaded hnotes
  · obtain rfl := Option.some.inj hid
    exact .created (notes_of_created step attended)
  · obtain rfl := Option.some.inj hid
    obtain ⟨hlinked, hnotes⟩ := notes_of_updated step attended.served
    exact .updated hlinked hnotes
  · cases hid

/-- **Session and store agree** where what the session notes is what the document has. -/
theorem Notes.agrees_iff {s : Session} {canProtect isProtected : Bool}
    (h : Notes l s id canProtect isProtected) :
    ∃ d, l.store.get? id = some d ∧ s.remoteId = some id ∧
      s.syncRecord.map SyncRecord.isProtected = some (!s.capabilities.canProtect) ∧
      ((s.capabilities.canProtect = true ↔ d.openHash = none ∧ d.modifyHash = none) ↔
        canProtect = !isProtected) := by
  obtain ⟨d, hd⟩ := h.stored
  have hprotected := (Store.isProtected_of_get? hd).symm.trans h.protection
  refine ⟨d, hd, h.linked, ?_, ?_⟩
  · rw [syncRecord, h.linked]
    rfl
  · rw [h.noted, ← hprotected, Store.Document.isProtected]
    cases canProtect <;> cases d.openHash <;> cases d.modifyHash <;> simp

/-! ## Sessions at work -/

/-- **What happens while sessions work**: operations that are answered at once, revisions that are
raised, and faults to come. No document is put into the store behind their backs. -/
inductive Works (w : Sharing) : Sharing → Prop
  | perform {i : Nat} {op : Operation} {es : List (Request × Reply)} {result : Result} {s' : Session}
      {l : Ledger} (wellFormed : op.WellFormed) (now : ∀ p reply, op ≠ .applyFetch p reply)
      (step : Session.Step (w.sessions i) op es result s')
      (attended : Ledger.Attended (w.sessions i).snapshot w.ledger es l) :
      Works w ⟨l, w.replace i s'⟩
  | bump (id : String) : Works w { w with ledger.store := (w.ledger.store.bump id).2 }
  | inject (f : Store.Fault) : Works w { w with ledger.store := w.ledger.store.inject f }

/-- Work is part of what can happen. -/
theorem Works.step (h : Works w w') : Step w w' := by
  cases h with
  | perform wellFormed _ step attended => exact .perform wellFormed step attended.served
  | bump id => exact .bump id
  | inject f => exact .inject f

/-- **Sessions that are cautious**: a document whose passwords a session holds to be set has some. -/
def Cautious (w : Sharing) : Prop :=
  ∀ i id, (w.sessions i).remoteId = some id → (w.sessions i).capabilities.canProtect = false →
    w.ledger.store.isProtected id = true

/-- **Sessions at work stay cautious.** -/
theorem Cautious.works (h : Cautious w) (hledger : w.ledger.Faithful) (works : Works w w') :
    Cautious w' := by
  cases works with
  | @perform i op es result s' l wellFormed now step attended =>
    intro j x hlinked hfalse
    -- Protection is never taken away, so what a session knows of it stays true.
    have hmono (h : w.ledger.store.isProtected x = true) : l.store.isProtected x = true :=
      attended.served.isProtected_mono h
    by_cases hj : j = i
    · subst hj
      simp only [replace_self] at hlinked hfalse
      cases hsync : op.synced? result with
      | none =>
        obtain hnone | ⟨hsame, hnoted⟩ := noted_of_step step hsync now
        · cases hnone.symm.trans hlinked
        · exact hmono (h j x (hsame ▸ hlinked) (hnoted ▸ hfalse))
      | some id =>
        cases synced_of_step hledger step attended hsync with
        | loaded notes =>
          obtain rfl := Option.some.inj (notes.linked.symm.trans hlinked)
          rw [notes.protection]
          simpa using notes.noted.symm.trans hfalse
        | created notes => cases notes.noted.symm.trans hfalse
        | updated linked notes =>
          obtain rfl := Option.some.inj (notes.linked.symm.trans hlinked)
          have hnoted := notes.noted.symm.trans hfalse
          rw [notes.protection]
          -- Pending passwords protect the document; without them it was protected before.
          cases hpending : (w.sessions j).pendingProtection with
          | some p => rfl
          | none =>
            rw [hpending] at hnoted
            exact h j id linked hnoted
    · simp only [replace, if_neg hj] at hlinked hfalse
      exact hmono (h j x hlinked hfalse)
  | bump id =>
    intro j x hlinked hfalse
    exact (Store.isProtected_bump _ _ _).trans (h j x hlinked hfalse)
  | inject f => exact h

/-- **Sessions that have begun without documents are always cautious.** -/
theorem cautious_of_works {w₀ : Sharing} (reached : Reachable w₀)
    (hnew : ∀ i, (w₀.sessions i).remoteId = none) (run : Relation.ReflTransGen Works w₀ w) :
    Reachable w ∧ Cautious w := by
  induction run with
  | refl => exact ⟨reached, fun i id hid => by cases (hnew i).symm.trans hid⟩
  | tail _ works ih => exact ⟨ih.1.step works.step, ih.2.works ih.1.faithful.ledger works⟩

/-- **What sessions at work overlook**: after an update the note is wrong if and only if no passwords
were set with it, the session held the document to be without passwords, and it had some. -/
theorem overlooks_iff (reached : Reachable w) (hcautious : Cautious w) {n : Nat}
    (step : Session.Step (w.sessions i) op es (.saved (.ok (.updated id n))) s')
    (attended : Ledger.Attended (w.sessions i).snapshot w.ledger es l) :
    ∃ d, l.store.get? id = some d ∧
      (¬(s'.capabilities.canProtect = true ↔ d.openHash = none ∧ d.modifyHash = none) ↔
        (w.sessions i).pendingProtection = none ∧ (w.sessions i).capabilities.canProtect = true ∧
          w.ledger.store.isProtected id = true) := by
  cases synced_of_step reached.faithful.ledger step attended rfl with
  | updated linked notes =>
    obtain ⟨d, hd, -, -, hagrees⟩ := notes.agrees_iff
    refine ⟨d, hd, (not_congr hagrees).trans ?_⟩
    have hheld := hcautious i id linked
    cases hpending : (w.sessions i).pendingProtection with
    | some p => simp
    | none =>
      cases hnoted : (w.sessions i).capabilities.canProtect with
      | true => simp
      | false => simp [hheld hnoted]

/-! ## Two sessions with one document -/

/-- Two sessions, and the one document in the store, at a moment without faults. -/
structure Meeting (w : Sharing) (s₀ s₁ : Session) (d : Store.Document) : Prop where
  reached : Reachable w
  first : w.sessions 0 = s₀
  second : w.sessions 1 = s₁
  stored : w.ledger.store.get? "doc1" = some d
  faults : w.ledger.store.faults = []

namespace Meeting

variable {s₀ s₁ : Session} {d d' : Store.Document} (h : Meeting w s₀ s₁ d)

include h

/-- The first session has carried out an operation. -/
theorem act₀ {s' : Session} (step : Session.Step s₀ op es result s') (hop : op.WellFormed)
    (served : Ledger.Served s₀.snapshot w.ledger es l) (stored : l.store.get? "doc1" = some d')
    (faults : l.store.faults = []) : ∃ w', Meeting w' s' s₁ d' := by
  obtain ⟨reached, rfl, rfl, -, -⟩ := h
  exact ⟨_, reached.step (.perform hop step served), rfl, rfl, stored, faults⟩

/-- The second session has carried out an operation. -/
theorem act₁ {s' : Session} (step : Session.Step s₁ op es result s') (hop : op.WellFormed)
    (served : Ledger.Served s₁.snapshot w.ledger es l) (stored : l.store.get? "doc1" = some d')
    (faults : l.store.faults = []) : ∃ w', Meeting w' s₀ s' d' := by
  obtain ⟨reached, rfl, rfl, -, -⟩ := h
  exact ⟨_, reached.step (.perform hop step served), rfl, rfl, stored, faults⟩

variable {r : Request} {reply : Reply} {store : Store}
  (hsend : w.ledger.store.send stillSetting r = (reply, store))
  (stored : store.get? "doc1" = some d') (faults : store.faults = [])

include hsend stored faults

/-- The first session has exchanged a request with the store. -/
theorem exchange₀ {s' : Session} (step : Session.Step s₀ op [(r, reply)] result s')
    (hop : op.WellFormed) : ∃ w', Meeting w' s' s₁ d' := by
  obtain ⟨l, served, hstore⟩ := Ledger.Served.of_send hsend
  exact h.act₀ step hop served (by rw [hstore]; exact stored) (by rw [hstore]; exact faults)

/-- The second session has exchanged a request with the store. -/
theorem exchange₁ {s' : Session} (step : Session.Step s₁ op [(r, reply)] result s')
    (hop : op.WellFormed) : ∃ w', Meeting w' s₀ s' d' := by
  obtain ⟨l, served, hstore⟩ := Ledger.Served.of_send hsend
  exact h.act₁ step hop served (by rw [hstore]; exact stored) (by rw [hstore]; exact faults)

end Meeting

/-- The document without passwords. -/
def openDocument : Store.Document := .write stillSetting plainDocument 1 none none

/-- A new session that has loaded the document. -/
def loadedSession (x : RemoteDocument) : Session :=
  (({} : Session).beginLoad "doc1").2.completeLoad (({} : Session).beginLoad "doc1").1 x none

/-- It has the revision that has been read. -/
theorem revision_loadedSession {x : RemoteDocument} (h : x.revision = some 1) :
    (loadedSession x).revision = 1 := by
  show x.revision.getD 1 = 1
  rw [h]
  rfl

/-- It has noted that passwords can be set if none have been read. -/
theorem canProtect_loadedSession {x : RemoteDocument} (h : x.isProtected = false) :
    (loadedSession x).capabilities.canProtect = true := by
  show (!x.isProtected) = true
  rw [h]
  rfl

/-- **Two new sessions load the document.** -/
theorem exists_meeting : ∃ w x, x.template = plainDocument.reloaded ∧ x.revision = some 1 ∧
    x.isProtected = false ∧ Meeting w (loadedSession x) (loadedSession x) openDocument := by
  have hholds : openDocument.Holds plainDocument := holds_plain 1 none none
  obtain ⟨x, hx, htemplate, hrevision, hprotected⟩ :=
    exists_parse_plain hholds (show 1 < Nat.pow 2 64 by decide)
  have hnew : ∀ i, (({} : Sharing).sessions i).WellFormed := fun _ => Registry.wellFormed_initial
  have hseeded : Reachable
      { ledger := Ledger.seed stillSetting "doc1" plainDocument 1 none none {} } :=
    (Reachable.initial hnew).step
      (.seed stillSetting "doc1" (DataTemplate.wellFormed_single _ _ _) 1 none none)
  have hstart : Meeting { ledger := Ledger.seed stillSetting "doc1" plainDocument 1 none none {} }
      {} {} openDocument := ⟨hseeded, rfl, rfl, rfl, rfl⟩
  have hstep := step_fetch_loaded (s := {}) (r := Store.okResponse openDocument.text) isValid_doc1
    rfl rfl hx
  have hopens : openDocument.opens "doc1" none = true := rfl
  have hsend₀ := Store.send_fetchRequest hstart.faults isValid_doc1 hstart.stored stillSetting none
  rw [hopens, if_pos rfl] at hsend₀
  obtain ⟨w₁, h₁⟩ := hstart.exchange₀ hsend₀ hstart.stored hstart.faults hstep trivial
  have hsend₁ := Store.send_fetchRequest h₁.faults isValid_doc1 h₁.stored stillSetting none
  rw [hopens, if_pos rfl] at hsend₁
  obtain ⟨w₂, h₂⟩ := h₁.exchange₁ hsend₁ h₁.stored h₁.faults hstep trivial
  exact ⟨w₂, x, htemplate, hrevision, hprotected, h₂⟩

/-- The password that the second session sets. -/
def changePassword : Protection := ⟨none, some "pw", .inr rfl⟩

/-- The document once it is set. -/
def guardedDocument : Store.Document :=
  .write stillSetting plainDocument 2 none (some (Store.passwordHash "doc1" "pw"))

/-- The document is sent as it has been loaded. -/
theorem sent_plainDocument : plainDocument.reloaded.sent = plainDocument := by decide

/-- An update with the password leaves the document so. -/
theorem updatedDocument_changePassword {s : Session} (hsnapshot : s.snapshot.sent = plainDocument)
    (hpending : s.pendingProtection = some changePassword) :
    Store.updatedDocument stillSetting "doc1" s 2 openDocument = guardedDocument := by
  rw [Store.updatedDocument, hpending]
  dsimp only
  rw [hsnapshot]
  rfl

/-- **The second session sets a password**, of which the first one does not learn. -/
theorem exists_guarded : ∃ w x s₁, x.template = plainDocument.reloaded ∧ x.revision = some 1 ∧
    x.isProtected = false ∧ Meeting w (loadedSession x) s₁ guardedDocument := by
  obtain ⟨w, x, htemplate, hrevision, hprotected, h⟩ := exists_meeting
  have hnoted := canProtect_loadedSession hprotected
  obtain ⟨s, hprotect, hs⟩ : ∃ s, (loadedSession x).protect changePassword = .ok s ∧
      s = { loadedSession x with
        pendingProtection := some changePassword, openPassword := none, modifyPassword := none,
        dirty := true } := by
    refine ⟨_, ?_, rfl⟩
    rw [protect, if_neg (show ¬(loadedSession x).isUnsaved = true from Bool.false_ne_true), hnoted]
    rfl
  obtain ⟨w₁, h₁⟩ := h.act₁ (step_protect hprotect) trivial (.done _) h.stored h.faults
  -- The update with the password is accepted.
  have hwell : s.registry.WellFormed := h₁.second ▸ h₁.reached.faithful.sessions 1
  have hlinked : s.remoteId = some "doc1" := hs ▸ rfl
  have hheld : s.revision = 1 := hs ▸ revision_loadedSession hrevision
  have hcredential : s.updateCredential = none := hs ▸ rfl
  have hsend := Store.send_updateRequest_accepted h₁.faults isValid_doc1 stillSetting plainOptions
    hwell (show 2 < Nat.pow 2 64 by decide) h₁.stored
    (show openDocument.admits "doc1" none = true from rfl) (by decide)
  have hsnapshot : s.snapshot.sent = plainDocument := by
    rw [hs, ← sent_plainDocument, ← htemplate]
    exact congrArg DataTemplate.sent (snapshot_completeLoad rfl x none)
  have hdocument := updatedDocument_changePassword hsnapshot (hs ▸ rfl)
  have hread := Store.parseAnswer_updateAnswer isValid_doc1 stillSetting hwell 2 openDocument
  have hstep := step_update_accepted plainOptions hlinked (hs ▸ rfl)
    (show (Store.updateAnswer "doc1" _).status = 200 from rfl) hread
  rw [hheld, hcredential] at hstep
  obtain ⟨w₂, h₂⟩ := h₁.exchange₁ hsend (Store.get?_put_self _ _ _) h₁.faults hstep trivial
  rw [hdocument] at h₂
  exact ⟨w₂, x, _, htemplate, hrevision, hprotected, h₂⟩

/-- The password fits the document, and without it the document can be read and not changed. -/
theorem fits_guardedDocument :
    guardedDocument.admits "doc1" none = false ∧
      guardedDocument.admits "doc1" (some "pw") = true ∧
      guardedDocument.opens "doc1" none = true := by
  simp [guardedDocument, Store.Document.admits, Store.Document.opens, Store.Document.guard?,
    Store.Document.write]

/-- A session that has loaded the document before it got its password, whatever it has edited
since. -/
structure Unaware (s : Session) : Prop where
  linked : s.remoteId = some "doc1"
  revision : s.revision = 1
  noted : s.capabilities.canProtect = true
  pending : s.pendingProtection = none
  fetchCredential : s.fetchCredential = none
  updateCredential : s.updateCredential = none

/-- Its state makes no difference. -/
theorem Unaware.with_state {s : Session} (h : Unaware s) (state : SyncState) :
    Unaware { s with state } :=
  ⟨h.linked, h.revision, h.noted, h.pending, h.fetchCredential, h.updateCredential⟩

/-- The first session has edited the document that it has loaded. -/
theorem exists_unaware : ∃ w s s₁, Meeting w s s₁ guardedDocument ∧ Unaware s ∧ s.dirty = true := by
  obtain ⟨w, x, s₁, htemplate, hrevision, hprotected, h⟩ := exists_guarded
  have hne : (loadedSession x).template ≠ "mine" := by
    show x.template.template ≠ "mine"
    rw [htemplate]
    decide
  obtain ⟨w₁, h₁⟩ := h.act₀ (step_editTemplate hne) trivial (.done _) h.stored h.faults
  exact ⟨w₁, _, s₁, h₁, ⟨rfl, revision_loadedSession hrevision,
    canProtect_loadedSession hprotected, rfl, rfl, rfl⟩, rfl⟩

namespace Meeting

variable {s s₁ : Session} (h : Meeting w s s₁ guardedDocument) (hs : Unaware s)

include h hs

/-- **Its update is refused** for the password. -/
theorem asked (hdirty : s.dirty = true) :
    ∃ w', Meeting w' { s with state := .saving } s₁ guardedDocument := by
  have hrefusal := Store.send_updateRequest_unauthorized h.faults isValid_doc1 stillSetting
    plainOptions (h.first ▸ h.reached.faithful.sessions 0) (show 2 < Nat.pow 2 64 by decide) h.stored
    fits_guardedDocument.1
  have hasked := step_update_asked plainOptions hs.linked hdirty
    (show (Store.statusResponse 401).status = 401 from rfl)
  rw [hs.updateCredential, hs.revision] at hasked
  exact h.exchange₀ hrefusal h.stored h.faults hasked trivial

/-- **With the password it is refused** for the revision. -/
theorem conflicting : ∃ w', Meeting w' { s with state := .conflict } s₁ guardedDocument := by
  have hconflict := Store.send_updateRequest_conflict h.faults isValid_doc1 stillSetting plainOptions
    (h.first ▸ h.reached.faithful.sessions 0) (show 2 < Nat.pow 2 64 by decide) h.stored
    fits_guardedDocument.2.1 (Nat.le_refl 2)
  have hanswered := step_resumeUpdate_conflict (p := ⟨s.beginSave.1, 2, false⟩) plainOptions
    hs.linked (beq_self_eq_true s.generation) (show Text.isBlank "pw" = false by decide)
    (show (Store.statusResponse 409).status = 409 from rfl)
  exact h.exchange₀ hconflict h.stored h.faults hanswered trivial

/-- **It looks the document up to overwrite it**, and is asked for the password once more. -/
theorem overwriting : ∃ w', Meeting w' { s with state := .saving } s₁ guardedDocument := by
  obtain ⟨hrefused, -, hopens⟩ := fits_guardedDocument
  obtain ⟨held, hheld, -, hrevision, -⟩ := exists_parse_plain (d := guardedDocument)
    (holds_plain 2 none (some "pw")) (show 2 < Nat.pow 2 64 by decide)
  have hlook := Store.send_fetchRequest h.faults isValid_doc1 h.stored stillSetting none
  rw [hopens, if_pos rfl] at hlook
  have hrevised : Sync.heldRevision "doc1" (.ok (Store.okResponse guardedDocument.text)) = .ok 2 := by
    rw [Sync.heldRevision_of_parse (r := Store.okResponse guardedDocument.text) rfl hheld, hrevision]
    rfl
  have hrefusal := Store.send_updateRequest_unauthorized
    (s := w.ledger.store.noted (Sync.fetchRequest "doc1" none)) h.faults isValid_doc1 stillSetting
    plainOptions (h.first ▸ h.reached.faithful.sessions 0) (show 3 < Nat.pow 2 64 by decide) h.stored
    hrefused
  have hoverwrite := step_overwrite_asked plainOptions hs.linked hrevised
    (show (Store.statusResponse 401).status = 401 from rfl)
  rw [hs.fetchCredential, hs.updateCredential] at hoverwrite
  obtain ⟨l, hserved, hstore⟩ := Ledger.Served.of_sends hlook hrefusal
  exact h.act₀ hoverwrite trivial hserved (by rw [hstore]; exact h.stored)
    (by rw [hstore]; exact h.faults)

end Meeting

/-- **The first session overwrites**, since its update has been refused: first for its password, and
with the password for its revision. -/
theorem exists_overwriting : ∃ w s s₁, Meeting w s s₁ guardedDocument ∧ Unaware s := by
  obtain ⟨w, s, s₁, h, hunaware, hdirty⟩ := exists_unaware
  obtain ⟨w₁, h₁⟩ := h.asked hunaware hdirty
  obtain ⟨w₂, h₂⟩ := h₁.conflicting (hunaware.with_state .saving)
  obtain ⟨w₃, h₃⟩ := h₂.overwriting (hunaware.with_state .conflict)
  exact ⟨w₃, _, s₁, h₃, hunaware.with_state .saving⟩

/-- **The answer to the question is accepted**, the document has had a password all along, and the first
session still holds that passwords can be set. -/
theorem exists_overlooked : ∃ w es s' l p d, Reachable w ∧
    Session.Step (w.sessions 0) (.resumeUpdate plainOptions p (some "pw")) es
      (.saved (.ok (.updated "doc1" 3))) s' ∧
    Ledger.Attended (w.sessions 0).snapshot w.ledger es l ∧
    s'.capabilities.canProtect = true ∧ l.store.get? "doc1" = some d ∧
    d.modifyHash = some (Store.passwordHash "doc1" "pw") := by
  obtain ⟨w, s, s₁, h, hunaware⟩ := exists_overwriting
  obtain ⟨-, hadmits, -⟩ := fits_guardedDocument
  have hsend := Store.send_updateRequest_accepted h.faults isValid_doc1 stillSetting plainOptions
    (h.first ▸ h.reached.faithful.sessions 0) (show 3 < Nat.pow 2 64 by decide) h.stored hadmits
    (show 2 < 3 by decide)
  have hread := Store.parseAnswer_updateAnswer isValid_doc1 stillSetting (x := s)
    (h.first ▸ h.reached.faithful.sessions 0) 3 guardedDocument
  have hupdated := step_resumeUpdate_accepted (p := ⟨⟨s.generation, .conflict⟩, 3, false⟩) plainOptions
    hunaware.linked (beq_self_eq_true s.generation) (show Text.isBlank "pw" = false by decide) rfl hread
  obtain ⟨haccepted, -⟩ := Store.stored_of_read hsend rfl hread
  have hvalid : ∀ id, Store.acceptedId? stillSetting
      (Sync.updateRequest plainOptions s "doc1" 3 (some "pw")) w.ledger.store = some id →
        DocumentId.isValid id = true := fun id h => by
    obtain rfl := Option.some.inj (haccepted.symm.trans h)
    exact isValid_doc1
  obtain ⟨l, hattended, hstore⟩ := Ledger.Attended.of_send hsend hvalid
  -- The passwords are as before, since the session sets none.
  refine ⟨w, _, _, l, _, _, h.reached, by rw [h.first]; exact hupdated,
    by rw [h.first]; exact hattended, ?_, by rw [hstore]; exact Store.get?_put_self _ _ _, ?_⟩
  · rw [canProtect_completeUpdate, hunaware.pending, hunaware.noted]
    rfl
  · rw [Store.updatedDocument, hunaware.pending]
    rfl

/-! ## The note and the store -/

/-- **When a session notes rightly whether passwords can be set.** After an operation has loaded,
created or updated a document, the session says that passwords can be set, and so its record that there
are none, exactly when the stored document has neither password: always after a load or a creation, and
after an update if and only if the update has set passwords, or the note was right before it. -/
theorem tells_iff_of_synced (reached : Reachable w)
    (step : Session.Step (w.sessions i) op es result s')
    (attended : Ledger.Attended (w.sessions i).snapshot w.ledger es l)
    (hid : op.synced? result = some id) :
    ∃ d, l.store.get? id = some d ∧ s'.remoteId = some id ∧
      s'.syncRecord.map SyncRecord.isProtected = some (!s'.capabilities.canProtect) ∧
      ((s'.capabilities.canProtect = true ↔ d.openHash = none ∧ d.modifyHash = none) ↔
        ∀ n, result = .saved (.ok (.updated id n)) →
          (w.sessions i).pendingProtection.isSome = true ∨ w.Tells i id) := by
  cases synced_of_step reached.faithful.ledger step attended hid with
  | loaded notes =>
    obtain ⟨d, hd, hlinked, hrecord, hagrees⟩ := notes.agrees_iff
    exact ⟨d, hd, hlinked, hrecord, hagrees.trans (iff_of_true rfl fun n hn => nomatch hn)⟩
  | created notes =>
    obtain ⟨d, hd, hlinked, hrecord, hagrees⟩ := notes.agrees_iff
    exact ⟨d, hd, hlinked, hrecord, hagrees.trans (iff_of_true rfl fun n hn => nomatch hn)⟩
  | @updated n linked notes =>
    obtain ⟨d, hd, hlinked, hrecord, hagrees⟩ := notes.agrees_iff
    refine ⟨d, hd, hlinked, hrecord, hagrees.trans ?_⟩
    have hright : (w.sessions i).pendingProtection.isSome = true ∨ w.Tells i id ↔
        ((w.sessions i).pendingProtection.isNone && (w.sessions i).capabilities.canProtect) =
          !((w.sessions i).pendingProtection.isSome || w.ledger.store.isProtected id) := by
      unfold Tells
      cases (w.sessions i).pendingProtection <;> simp
    rw [← hright]
    exact ⟨fun h _ _ => h, fun h => h n rfl⟩

/-- After the answer the note is right if and only if it was before. -/
theorem tells_iff_of_synced_overlooked : ∃ (w : Sharing) (op : _) (es : _) (s' : Session) (l : Ledger),
    Reachable w ∧ Session.Step (w.sessions 0) op es (.saved (.ok (.updated "doc1" 3))) s' ∧
      Ledger.Attended (w.sessions 0).snapshot w.ledger es l ∧
      op.synced? (.saved (.ok (.updated "doc1" 3))) = some "doc1" ∧
      ∃ d, l.store.get? "doc1" = some d ∧ s'.remoteId = some "doc1" ∧
        s'.syncRecord.map SyncRecord.isProtected = some (!s'.capabilities.canProtect) ∧
        ((s'.capabilities.canProtect = true ↔ d.openHash = none ∧ d.modifyHash = none) ↔
          ∀ n, (.saved (.ok (.updated "doc1" 3)) : Result) = .saved (.ok (.updated "doc1" n)) →
            (w.sessions 0).pendingProtection.isSome = true ∨ w.Tells 0 "doc1") := by
  obtain ⟨w, es, s', l, p, d, reached, step, attended, -⟩ := exists_overlooked
  exact ⟨w, _, es, s', l, reached, step, attended, rfl, tells_iff_of_synced reached step attended rfl⟩

/-- **An update that leaves the note wrong**: it is accepted, the document has a password, and the
session says that passwords can be set, and its record that there are none. -/
theorem exists_overlooked_protection : ∃ w op es s' l d, Reachable w ∧
    Session.Step (w.sessions 0) op es (.saved (.ok (.updated "doc1" 3))) s' ∧
    Ledger.Attended (w.sessions 0).snapshot w.ledger es l ∧ l.store.get? "doc1" = some d ∧
    ¬(s'.capabilities.canProtect = true ↔ d.openHash = none ∧ d.modifyHash = none) ∧
    d.isProtected = true ∧ ∀ r ∈ s'.syncRecord, r.isProtected = false := by
  obtain ⟨w, es, s', l, p, d, reached, step, attended, hnoted, hstored, hmodify⟩ := exists_overlooked
  refine ⟨w, _, es, s', l, d, reached, step, attended, hstored, ?_, ?_, fun r hr => ?_⟩
  · rw [hmodify, hnoted]
    simp
  · rw [Store.Document.isProtected, hmodify]
    simp
  · obtain ⟨id, -, rfl⟩ := Option.map_eq_some_iff.1 hr
    rw [hnoted]
    rfl

end Sharing

end TemplateShare
