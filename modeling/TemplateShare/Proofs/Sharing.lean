import TemplateShare.Proofs.Session.Exchange
import TemplateShare.Proofs.Session.WellFormed
import TemplateShare.Proofs.Store.Answer

/-! # The store returns what was last accepted

Any number of sessions over one store. Beside the store stands a ledger of what was accepted last
under each id: of a write, the document as its writer sent it, and of a seed, the document as it was
given. What a session loads is the document of the ledger, without the white space at the ends of
its texts.

* **`Ledger`** — a store with what was accepted last.
* **`Ledger.Served`** — requests that the store answers in turn.
* **`Sharing`**, **`Sharing.Step`**, **`Sharing.Reachable`** — sessions that share a store.
* **`Ledger.Faithful`** — the store keeps what was accepted; **`Sharing.Reachable.faithful`** — it
  always does.
* **`Sharing.loaded_eq_accepted`** — what a session loads. -/

namespace TemplateShare

open Session

/-! ## The store and what it accepted -/

/-- **A store with its ledger**: under each id, the document that was accepted last. -/
structure Ledger where
  store : Store := {}
  accepted : String → Option DataTemplate := fun _ => none

namespace Ledger

variable {l l' : Ledger} {writer dt : DataTemplate}

/-- The ledger after something was accepted under an id. -/
def accept (l : Ledger) (id : String) (dt : DataTemplate) : String → Option DataTemplate :=
  fun x => if x = id then some dt else l.accepted x

@[simp] theorem accept_self (l : Ledger) (id : String) (dt : DataTemplate) :
    l.accept id dt id = some dt := if_pos rfl

theorem accept_of_ne {id x : String} (h : x ≠ id) (l : Ledger) (dt : DataTemplate) :
    l.accept id dt x = l.accepted x := if_neg h

/-- **A request is sent** on behalf of a writer, whose document is entered where it is accepted. -/
def exchange (env : Store.Setting) (writer : DataTemplate) (r : Request) (l : Ledger) : Ledger where
  store := (l.store.send env r).2
  accepted :=
    match Store.acceptedId? env r l.store with
    | some id => l.accept id writer.sent
    | none => l.accepted

/-- A document is put into the store without a request. -/
def seed (env : Store.Setting) (id : String) (dt : DataTemplate) (revision : Nat)
    (openPassword modifyPassword : Option String) (l : Ledger) : Ledger where
  store := l.store.seed env id dt revision openPassword modifyPassword
  accepted := l.accept id dt

/-- **Requests of a writer that the store answers in turn**, each at its own time. -/
inductive Served (writer : DataTemplate) : Ledger → List (Request × Reply) → Ledger → Prop
  | done (l : Ledger) : Served writer l [] l
  | exchange {env : Store.Setting} {r : Request} {l l' : Ledger} {es : List (Request × Reply)}
      (more : Served writer (l.exchange env writer r) es l') :
      Served writer l ((r, (l.store.send env r).1) :: es) l'

/-- A single request and its reply. -/
theorem Served.singleton {r : Request} {reply : Reply} (served : Served writer l [(r, reply)] l') :
    ∃ env, reply = (l.store.send env r).1 ∧ l' = l.exchange env writer r := by
  generalize hes : [(r, reply)] = es at served
  cases served with
  | done => cases hes
  | @exchange env _ _ _ _ more =>
    obtain ⟨he, rfl⟩ := List.cons.inj hes
    obtain ⟨rfl, rfl⟩ := Prod.mk.inj he
    cases more
    exact ⟨env, rfl, rfl⟩

/-- **The store keeps what was accepted**: under each id the document of the ledger, and nothing
else. -/
def Faithful (l : Ledger) : Prop :=
  ∀ id, Option.Rel (fun dt d => d.Holds dt) (l.accepted id) (l.store.get? id)

/-- An empty store has accepted nothing. -/
theorem faithful_empty : Faithful {} := fun _ => .none

/-- **What is kept was accepted.** -/
theorem Faithful.accepted (h : l.Faithful) {id : String} {d : Store.Document}
    (hd : l.store.get? id = some d) : ∃ dt, l.accepted id = some dt ∧ d.Holds dt := by
  have hkept := h id
  rw [hd] at hkept
  cases hdt : l.accepted id with
  | none =>
    rw [hdt] at hkept
    cases hkept
  | some dt =>
    rw [hdt] at hkept
    cases hkept with
    | some hholds => exact ⟨dt, rfl, hholds⟩

/-- What is kept is well-formed. -/
theorem Faithful.sound (h : l.Faithful) : l.store.Sound := by
  intro id d hd
  obtain ⟨dt, -, hholds⟩ := h.accepted hd
  exact ⟨dt, hholds⟩

/-- A ledger whose store gets a document that was accepted. -/
theorem Faithful.put (h : l.Faithful) {d : Store.Document} {dt : DataTemplate} (hd : d.Holds dt)
    (id : String) : Faithful ⟨l.store.put id d, l.accept id dt⟩ := by
  intro x
  show Option.Rel _ (l.accept id dt x) ((l.store.put id d).get? x)
  by_cases hx : x = id
  · rw [hx, accept_self, Store.get?_put_self]
    exact .some hd
  · rw [accept_of_ne hx, Store.get?_put_of_ne hx]
    exact h x

/-- **A request leaves the store with what was accepted**, if what it writes is the writer's
document. -/
theorem Faithful.exchange (h : l.Faithful) (env : Store.Setting) {r : Request}
    (hr : r.method = .post → Store.bodyDocument? r = some writer.sent) :
    (l.exchange env writer r).Faithful := by
  have hanswered := Store.answered_send env r l.store
  have hsame (haccepted : Store.acceptedId? env r l.store = none)
      (hdocuments : (l.store.send env r).2.documents = l.store.documents) :
      (l.exchange env writer r).Faithful := by
    intro id
    rw [Ledger.exchange, haccepted, Store.get?_congr hdocuments]
    exact h id
  generalize hsend : l.store.send env r = answer at hanswered
  cases hanswered with
  | bare documents accepted => exact hsame accepted (by rw [hsend]; exact documents)
  | fetched _ _ _ documents accepted => exact hsame accepted (by rw [hsend]; exact documents)
  | @written t dt revision s' method _ sent _ _ documents accepted =>
    obtain ⟨hself, hother⟩ := Store.get?_of_written documents
    obtain ⟨hopen, hmodify⟩ := Store.isHashText_passwordsAfter
      (fun d hd => h.sound (t.id env l.store) d hd) (t.id env l.store) r
    have hholds := Store.Document.holds_write (Store.wellFormed_of_bodyDocument? sent) env revision
      hopen hmodify
    obtain rfl := Option.some.inj (sent.symm.trans (hr method))
    intro id
    have hstore : (l.exchange env writer r).store = s' := by rw [Ledger.exchange, hsend]
    have haccepted : (l.exchange env writer r).accepted =
        l.accept (t.id env l.store) writer.sent := by rw [Ledger.exchange, accepted]
    rw [hstore, haccepted]
    -- Only the document that was written is another one, and it is what the writer sent.
    by_cases hid : id = t.id env l.store
    · rw [hid, accept_self, hself]
      exact .some hholds
    · rw [accept_of_ne hid, hother id hid]
      exact h id

/-- **Requests leave the store with what was accepted**, if all that they write is the writer's
document. -/
theorem Faithful.served (h : l.Faithful) {es : List (Request × Reply)} (served : Served writer l es l')
    (hes : ∀ e ∈ es, e.1.method = .post → Store.bodyDocument? e.1 = some writer.sent) :
    l'.Faithful := by
  induction served with
  | done => exact h
  | exchange _ ih =>
    exact ih (h.exchange _ (hes _ List.mem_cons_self)) fun e he => hes e (List.mem_cons_of_mem _ he)

end Ledger

/-! ## Sessions that share a store -/

/-- **Sessions that share a store**, as many as one likes. -/
structure Sharing where
  ledger : Ledger := {}
  sessions : Nat → Session := fun _ => {}

namespace Sharing

variable {w w' : Sharing}

/-- The sessions after one of them has changed. -/
def replace (w : Sharing) (i : Nat) (s : Session) : Nat → Session :=
  fun j => if j = i then s else w.sessions j

/-- **What can happen**: an operation on a session, which the store answers; a document is put into
the store, or its revision raised, without a request; a fault is to meet a later request. -/
inductive Step (w : Sharing) : Sharing → Prop
  | perform {i : Nat} {op : Operation} {es : List (Request × Reply)} {result : Result}
      {s' : Session} {l : Ledger} (wellFormed : op.WellFormed)
      (step : Session.Step (w.sessions i) op es result s')
      (served : Ledger.Served (w.sessions i).snapshot w.ledger es l) : Step w ⟨l, w.replace i s'⟩
  | seed (env : Store.Setting) (id : String) {dt : DataTemplate}
      (wellFormed : dt.registry.WellFormed) (revision : Nat)
      (openPassword modifyPassword : Option String) :
      Step w { w with ledger := w.ledger.seed env id dt revision openPassword modifyPassword }
  | bump (id : String) : Step w { w with ledger.store := (w.ledger.store.bump id).2 }
  | inject (f : Store.Fault) : Step w { w with ledger.store := w.ledger.store.inject f }

/-- **What can be reached** from an empty store and any sessions. -/
inductive Reachable : Sharing → Prop
  | initial {sessions : Nat → Session} (wellFormed : ∀ i, (sessions i).WellFormed) :
      Reachable ⟨{}, sessions⟩
  | step {w w' : Sharing} (reached : Reachable w) (step : Step w w') : Reachable w'

/-- **The requests of an operation** write the document of the session that sends them. -/
theorem bodyDocument?_of_step {s s' : Session} {op : Operation} {es : List (Request × Reply)}
    {result : Result} (hs : s.WellFormed) (step : Session.Step s op es result s') :
    ∀ e ∈ es, e.1.method = .post → Store.bodyDocument? e.1 = some s.snapshot.sent := by
  intro e he hpost
  have hrequested := requested_of_step step e he
  generalize e.1 = r at hrequested hpost ⊢
  cases hrequested with
  | fetch id password =>
    rw [Sync.method_fetchRequest] at hpost
    cases hpost
  | write o => exact Store.bodyDocument?_writeRequest hs o none
  | update o id revision password => exact Store.bodyDocument?_updateRequest hs o id revision password

/-- **The store keeps what was accepted, and the sessions are well-formed.** -/
structure Faithful (w : Sharing) : Prop where
  ledger : w.ledger.Faithful
  sessions : ∀ i, (w.sessions i).WellFormed

/-- **A document whose revision is raised in its text** holds what was accepted before. -/
theorem faithful_bump {l : Ledger} (h : l.Faithful) (id : String) :
    Ledger.Faithful { l with store := (l.store.bump id).2 } := by
  unfold Store.bump
  cases hd : l.store.get? id with
  | none => exact h
  | some d =>
    intro x
    show Option.Rel _ (l.accepted x) ((l.store.put id d.raise).get? x)
    by_cases hx : x = id
    · obtain ⟨dt, hdt, hholds⟩ := h.accepted hd
      rw [hx, hdt, Store.get?_put_self]
      exact .some hholds.raise
    · rw [Store.get?_put_of_ne hx]
      exact h x

/-- **One step leaves the store with what was accepted.** -/
theorem Faithful.step (h : w.Faithful) (step : Step w w') : w'.Faithful := by
  cases step with
  | @perform i op es result s' l wellFormed step served =>
    refine ⟨h.ledger.served served (bodyDocument?_of_step (h.sessions i) step), fun j => ?_⟩
    unfold replace
    dsimp only
    split
    · exact wellFormed_of_step step wellFormed (h.sessions i)
    · exact h.sessions j
  | seed env id wellFormed revision openPassword modifyPassword =>
    have hholds := Store.Document.holds_write wellFormed env revision
      (Store.isHashText_map id openPassword) (Store.isHashText_map id modifyPassword)
    exact ⟨h.ledger.put hholds id, h.sessions⟩
  | bump id => exact ⟨faithful_bump h.ledger id, h.sessions⟩
  | inject f => exact ⟨h.ledger, h.sessions⟩

/-- The store always keeps what was accepted. -/
theorem Reachable.faithful (reached : Reachable w) : w.Faithful := by
  induction reached with
  | initial wellFormed => exact ⟨Ledger.faithful_empty, wellFormed⟩
  | step _ step ih => exact ih.step step

/-! ## What a session loads -/

/-- The document that an operation fetches. -/
def fetched? : Operation → Option String
  | .fetch id => some id
  | .fetchWithPassword t _ => some t.id
  | _ => none

/-- A reply that loads a document is an answer with that document. -/
theorem loaded_of_fetched {s : Session} {p : Sync.PendingFetch} {reply : Reply}
    {out : Sync.Outcome Sync.FetchOutcome} (h : Sync.Fetched s p reply out)
    {summary : Sync.LoadSummary} (hout : out.1 = .ok (.loaded summary)) :
    ∃ r x, reply = .ok r ∧ r.status = 200 ∧ RemoteDocument.parse r.body = .ok x ∧
      s.generation = p.ticket.generation ∧ out.2 = s.completeLoad p.ticket x p.password := by
  cases h with
  | @loaded r x current answered success read =>
    exact ⟨r, x, answered, success, read, current, rfl⟩
  | _ => cases hout

/-- **What a load is**: the one exchange of a fetch, answered with a document. -/
theorem load_of_step {s s' : Session} {op : Operation} {id : String} (hop : fetched? op = some id)
    {es : List (Request × Reply)} {summary : Sync.LoadSummary}
    (step : Session.Step s op es (.fetched (.ok (.loaded summary))) s') :
    ∃ (s₀ : Session) (p : Sync.PendingFetch) (r : Response) (x : RemoteDocument),
      es = [(p.request, .ok r)] ∧ p.ticket.id = id ∧ r.status = 200 ∧
        RemoteDocument.parse r.body = .ok x ∧ s₀.generation = p.ticket.generation ∧
          s' = s₀.completeLoad p.ticket x p.password := by
  obtain ⟨out, hloads, hresult, rfl⟩ := loads_of_step step (isLoad_of_fetched step)
  have hout : out.1 = .ok (.loaded summary) := (Result.fetched.inj hresult).symm
  cases hloads with
  | invalid | late | givenUp => cases hout
  | applied => cases hop
  | fetched reply _ begins =>
    obtain rfl := Option.some.inj hop
    obtain ⟨rfl, -⟩ := beginFetch_eq_ok begins
    obtain ⟨r, x, rfl, hloaded⟩ := loaded_of_fetched (Sync.fetched_applyFetch ..) hout
    exact ⟨_, _, r, x, rfl, rfl, hloaded⟩
  | answered reply =>
    obtain rfl := Option.some.inj hop
    obtain ⟨r, x, rfl, hloaded⟩ := loaded_of_fetched (Sync.fetched_applyFetch ..) hout
    exact ⟨_, _, r, x, rfl, rfl, hloaded⟩

/-- **A fetch loads the document that it is answered with.** -/
theorem applyFetch_document {s : Session} {p : Sync.PendingFetch} {r : Response}
    {x : RemoteDocument} (current : s.generation = p.ticket.generation) (success : r.status = 200)
    (read : RemoteDocument.parse r.body = .ok x) :
    Sync.applyFetch s p (.ok r) =
      (.ok (.loaded ⟨p.ticket.id, x.revision.getD 1, x.updated, x.isProtected⟩),
        s.completeLoad p.ticket x p.password) := by
  rw [Sync.applyFetch, if_neg (not_not_intro current)]
  simp only [success, read]

/-- **A session without a document loads one.** -/
theorem step_fetch_loaded {s : Session} {id : String} {r : Response} {x : RemoteDocument}
    (hid : DocumentId.isValid id = true) (hnew : s.remoteId = none) (success : r.status = 200)
    (read : RemoteDocument.parse r.body = .ok x) :
    Session.Step s (.fetch id) [(Sync.fetchRequest id none, .ok r)]
      (.fetched (.ok (.loaded ⟨id, x.revision.getD 1, x.updated, x.isProtected⟩)))
      ((s.beginLoad id).2.completeLoad (s.beginLoad id).1 x none) := by
  have happly := applyFetch_document (s := (s.beginLoad id).2) (p := ⟨(s.beginLoad id).1, none⟩) rfl
    success read
  have hother : ¬ s.remoteId = some id := by rw [hnew]; exact fun h => nomatch h
  refine Dialogue.exchanged_map_iff.2 ⟨(.ok (.loaded _), _), ?_, rfl⟩
  rw [Sync.fetch, Sync.beginFetch, if_pos hid, if_neg hother]
  exact Dialogue.exchanged_exchange_iff.2
    ⟨.ok r, [], rfl, Dialogue.exchanged_done_iff.2 ⟨rfl, happly.symm⟩⟩

/-- **What a load has taken over**: a document of the store, read as it is kept there. -/
theorem stored_of_loaded (hledger : w.ledger.Faithful) {i : Nat} {op : Operation} {id : String}
    (hop : fetched? op = some id) {es : List (Request × Reply)} {summary : Sync.LoadSummary}
    {s' : Session} {l : Ledger}
    (step : Session.Step (w.sessions i) op es (.fetched (.ok (.loaded summary))) s')
    (served : Ledger.Served (w.sessions i).snapshot w.ledger es l) :
    ∃ (s₀ : Session) (t : LoadTicket) (x : RemoteDocument) (password : Option String)
      (d : Store.Document), s₀.generation = t.generation ∧ t.id = id ∧
        s' = s₀.completeLoad t x password ∧ l.Faithful ∧ l.store.get? id = some d ∧
          RemoteDocument.parse d.text = .ok x := by
  obtain ⟨s₀, p, r, x, rfl, rfl, hstatus, hread, hcurrent, rfl⟩ := load_of_step hop step
  obtain ⟨env, hreply, rfl⟩ := served.singleton
  have hget : p.request.method = .get := Sync.method_fetchRequest _ _
  have hpath : p.request.path = documentPath (some p.ticket.id) := Sync.path_fetchRequest _ _
  have hfaithful : (w.ledger.exchange env (w.sessions i).snapshot p.request).Faithful :=
    hledger.exchange env fun hpost => (nomatch hget.symm.trans hpost)
  have hanswered := Store.answered_send env p.request w.ledger.store
  generalize hsend : w.ledger.store.send env p.request = answer at hanswered hreply
  cases hanswered with
  | bare _ _ status =>
    -- A status alone would be the answer, which cannot be read.
    rw [status r hreply.symm, hstatus, Store.parse_statusResponse] at hread
    cases hread
  | written method => cases hget.symm.trans method
  | @fetched id d s' _ target stored documents _ =>
    obtain rfl := Except.ok.inj hreply
    obtain rfl : p.ticket.id = id :=
      Option.some.inj (documentPath_injective (hpath.symm.trans (Store.target?_eq_document target).1))
    refine ⟨s₀, p.ticket, x, p.password, d, hcurrent, rfl, rfl, hfaithful, ?_, hread⟩
    rw [Ledger.exchange, hsend, ← stored]
    exact Store.get?_congr documents _

/-- **What a session loads is what was accepted last.** Whenever a fetch, with or without an answer
to a question for a password, loads the document of an id, then the session holds the datasets and
the template of the ledger without the white space at the ends of its texts, the first dataset is
active, revision and hash are those of the store, passwords can be set if and only if the store has
none for the document, and nothing is marked as changed. -/
theorem loaded_eq_accepted (reached : Reachable w) {i : Nat} {op : Operation} {id : String}
    (hop : fetched? op = some id) {es : List (Request × Reply)} {summary : Sync.LoadSummary}
    {s' : Session} {l : Ledger}
    (step : Session.Step (w.sessions i) op es (.fetched (.ok (.loaded summary))) s')
    (served : Ledger.Served (w.sessions i).snapshot w.ledger es l) :
    ∃ dt d, l.accepted id = some dt ∧ l.store.get? id = some d ∧ d.Holds dt ∧
      s'.remoteId = some id ∧ s'.snapshot = dt.reloaded ∧ s'.revision = d.revision ∧
      s'.contentHash = some d.hash ∧
      (s'.capabilities.canProtect = true ↔ d.openHash = none ∧ d.modifyHash = none) ∧
      s'.dirty = false := by
  obtain ⟨s₀, t, x, password, d, hcurrent, rfl, rfl, hfaithful, hget, hread⟩ :=
    stored_of_loaded reached.faithful.ledger hop step served
  obtain ⟨dt, haccepted, hholds⟩ := hfaithful.accepted hget
  obtain ⟨htemplate, hhash, hrevision, hprotected⟩ := hholds.parse_text hread
  refine ⟨dt, d, haccepted, hget, hholds, ?_⟩
  unfold completeLoad
  rw [if_neg (not_not_intro hcurrent)]
  refine ⟨rfl, (s₀.snapshot_adopt x.template).trans htemplate, ?_, congrArg some hhash, ?_, rfl⟩
  · show x.revision.getD 1 = d.revision
    rw [hrevision]
    rfl
  · show (!x.isProtected) = true ↔ _
    rw [hprotected, Store.Document.isProtected]
    simp

/-- A document with white space at the ends of its texts, one of which looks like a line of the
store. -/
def looseDocument : DataTemplate := .single "a  " "x\t" "t\n\nrevision: 3\n"

/-- The document as it was put into a store. -/
def looseStored : Store.Document := .write ⟨fun _ => "", 0⟩ looseDocument 3 none none

/-- A store into which the document was put and whose revision was raised, and sessions that hold
nothing. -/
def bumped : Sharing where
  ledger.store := (Store.bump "doc1" (Store.put {} "doc1" looseStored)).2
  ledger.accepted := Ledger.accept {} "doc1" looseDocument

theorem wellFormed_looseDocument : looseDocument.registry.WellFormed :=
  DataTemplate.wellFormed_single _ _ _

/-- It can be reached. -/
theorem reachable_bumped : Reachable bumped := by
  have hnew : ∀ i, (({} : Sharing).sessions i).WellFormed := fun _ => Registry.wellFormed_initial
  exact ((Reachable.initial hnew).step
    (.seed ⟨fun _ => "", 0⟩ "doc1" wellFormed_looseDocument 3 none none)).step (.bump "doc1")

/-- A new session loads the document that was put into the store, at the revision after it. -/
theorem loaded_eq_accepted_bumped : ∃ es summary s' l,
    Session.Step (bumped.sessions 0) (.fetch "doc1") es (.fetched (.ok (.loaded summary))) s' ∧
      Ledger.Served (bumped.sessions 0).snapshot bumped.ledger es l ∧ s'.revision = 4 ∧
      ∃ dt d, l.accepted "doc1" = some dt ∧ l.store.get? "doc1" = some d ∧ d.Holds dt ∧
        s'.remoteId = some "doc1" ∧ s'.snapshot = dt.reloaded ∧ s'.revision = d.revision ∧
        s'.contentHash = some d.hash ∧
        (s'.capabilities.canProtect = true ↔ d.openHash = none ∧ d.modifyHash = none) ∧
        s'.dirty = false := by
  have hholds : looseStored.raise.Holds looseDocument :=
    (Store.Document.holds_write wellFormed_looseDocument _ 3 (Store.isHashText_map "doc1" none)
      (Store.isHashText_map "doc1" none)).raise
  -- The document has no text that YAML refuses.
  have hreadable : Portable.IsReadable looseDocument :=
    ⟨by decide, Portable.templateEntries_short rfl 0⟩
  obtain ⟨x, hx⟩ := hholds.exists_parse_text.2 ⟨hreadable, show 4 < Nat.pow 2 64 by decide⟩
  have hrevision : x.revision = some 4 := (hholds.parse_text hx).2.2.1
  have hreply : (bumped.ledger.store.send ⟨fun _ => "", 0⟩ (Sync.fetchRequest "doc1" none)).1 =
      .ok (Store.okResponse looseStored.raise.text) := rfl
  generalize looseStored.raise.text = text at hx hreply
  have hfetch : (Sync.fetch {} "doc1").Exchanged
      [(Sync.fetchRequest "doc1" none, .ok (Store.okResponse text))]
      (Sync.applyFetch (({} : Session).beginLoad "doc1").2 ⟨⟨1, "doc1"⟩, none⟩
        (.ok (Store.okResponse text))) := .exchange (.done _)
  have hcurrent : (({} : Session).beginLoad "doc1").2.generation = 1 := rfl
  rw [applyFetch_document (r := Store.okResponse text) hcurrent rfl hx] at hfetch
  have hstep : Session.Step (bumped.sessions 0) (.fetch "doc1")
      [(Sync.fetchRequest "doc1" none, .ok (Store.okResponse text))]
      (.fetched (.ok (.loaded ⟨"doc1", x.revision.getD 1, x.updated, x.isProtected⟩)))
      ((({} : Session).beginLoad "doc1").2.completeLoad ⟨1, "doc1"⟩ x none) :=
    Dialogue.exchanged_map_iff.2 ⟨_, hfetch, rfl⟩
  have hserved : Ledger.Served (bumped.sessions 0).snapshot bumped.ledger
      [(Sync.fetchRequest "doc1" none, .ok (Store.okResponse text))]
      (bumped.ledger.exchange ⟨fun _ => "", 0⟩ (bumped.sessions 0).snapshot
        (Sync.fetchRequest "doc1" none)) := by
    rw [← hreply]
    exact .exchange (.done _)
  have hloaded : ((({} : Session).beginLoad "doc1").2.completeLoad ⟨1, "doc1"⟩ x none).revision = 4 := by
    show x.revision.getD 1 = 4
    rw [hrevision]
    rfl
  exact ⟨_, _, _, _, hstep, hserved, hloaded, loaded_eq_accepted reachable_bumped rfl hstep hserved⟩

end Sharing

end TemplateShare
