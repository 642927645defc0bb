import Mathlib.Logic.Relation
import TemplateShare.Proofs.Session.Saved
import TemplateShare.Proofs.Sharing
import TemplateShare.Proofs.Store.Gate

/-! # Passwords that have been accepted

Once the store has accepted an update, the session holds the password that guards changes, and keeps
it as long as it stays with the document. So no later update is refused for its password while the
passwords of the document are the same. A fetch presents the password for opening first, which may be
an older one: it is let in if and only if that one still opens the document.

* **`Session.Operation.isCalm`**, **`Session.access_of_calm`** — operations that keep document and
  passwords.
* **`Sharing.Calm`** — what may happen while a session stays with its document.
* **`Sharing.fits_of_updated`** — the password that an accepted update leaves with the session fits.
* **`Sharing.answers_of_updated`** — how the store answers the session from then on.
* **`Sharing.exists_stale_password`** — a fetch that is refused all the same. -/

namespace TemplateShare

/-! ## Staying with a document -/

namespace Session

variable {s s' : Session} {op : Operation} {es : List (Request × Reply)} {result : Result}

/-- **What a session has access to**: its document, and the passwords that it holds for it. -/
def access (s : Session) : Option String × Option String × Option String :=
  (s.remoteId, s.openPassword, s.modifyPassword)

/-- **An operation with which a session stays with its document** and the passwords for it: it
neither loads nor saves, no document is pasted, and no passwords are to be set. -/
def Operation.isCalm : Operation → Result → Bool
  | .paste _, .pasted (.done _) | .confirmPaste _, _ | .protect _, .edited (.ok _) => false
  | _, result => !result.isSync

/-- Edits leave the access as it was. -/
theorem Edited.access (h : Edited s s') : s'.access = s.access := by
  rw [h]
  rfl

/-- **Calm operations keep document and passwords.** -/
theorem access_of_calm (h : Step s op es result s') (hcalm : op.isCalm result = true) :
    s'.access = s.access := by
  cases hop : op.isExchange with
  | false =>
    cases (acts_of_step h hop).2 with
    | edits hedits => exact hedits.edited.access
    | asks | notProtected => rfl
    | pastes | confirms | protects => cases hcalm
    | invalid | begins => cases hop
  | true =>
    -- Exchanges that come to nothing keep all that lasts, document and passwords among it.
    have hresult : op.isCalm result = !result.isSync := by cases op <;> cases hop <;> rfl
    rw [hresult, Bool.not_eq_true'] at hcalm
    obtain ⟨-, -, -, hid, -, hopen, hmodify, -⟩ := eq_of_kept_eq (kept_of_step h hop hcalm)
    rw [access, access, hid, hopen, hmodify]

/-- The passwords that a session presents are among those that it has access to. -/
theorem credentials_of_access (h : s'.access = s.access) :
    s'.remoteId = s.remoteId ∧ s'.fetchCredential = s.fetchCredential ∧
      s'.updateCredential = s.updateCredential := by
  simp only [access, Prod.mk.injEq] at h
  obtain ⟨hid, hopen, hmodify⟩ := h
  exact ⟨hid, by rw [fetchCredential, hopen, hmodify]; rfl,
    by rw [updateCredential, hopen, hmodify]; rfl⟩

/-- The request of a fetch. -/
theorem requests_of_fetch {id : String} (hid : DocumentId.isValid id = true)
    (h : Step s (.fetch id) es result s') :
    ∃ reply, es =
      [(Sync.fetchRequest id (if s.remoteId = some id then s.fetchCredential else none), reply)] := by
  obtain ⟨out, hloads, -⟩ := loads_of_step h rfl
  cases hloads with
  | invalid invalid => cases hid.symm.trans invalid
  | fetched reply _ begins =>
    obtain ⟨rfl, -⟩ := beginFetch_eq_ok begins
    exact ⟨reply, rfl⟩

/-- **The request of an update**, if there is one, presents the password held for changes. -/
theorem requests_of_update {o : Sync.Options} {id : String} (hop : op = .update o ∨ op = .save o)
    (hid : s.remoteId = some id) (h : Step s op es result s') :
    (∃ revision reply, es =
      [(Sync.updateRequest o s.beginSave.2 id revision s.updateCredential, reply)]) ∨ es = [] := by
  have hsave : op.isSave = true := by obtain rfl | rfl := hop <;> rfl
  obtain ⟨out, hsaves, -⟩ := saves_of_step h hsave
  cases hsaves with
  | idle _ _ looked =>
    cases looked with
    | nothing => exact .inr rfl
    | document => obtain h | h := hop <;> cases h
  | late | givenUp | unlinked | resumed => obtain h | h := hop <;> cases h
  | created creates =>
    obtain rfl | ⟨rfl, unlinked⟩ := creates
    · obtain h | h := hop <;> cases h
    · cases hid.symm.trans unlinked
  | @begun _ o' id' revision reply look updates linked looked =>
    obtain rfl : id = id' := Option.some.inj (hid.symm.trans linked)
    have hupdate : o = o' ∧ look = [] := by
      obtain rfl | rfl := hop
      all_goals
        obtain h | h | h := updates <;> cases h
        cases looked
        exact ⟨rfl, rfl⟩
    obtain ⟨rfl, rfl⟩ := hupdate
    exact .inl ⟨revision, reply, rfl⟩

/-- **The password for changes after an update**: the one that was set, else the one that was
presented, else the one that was held. -/
theorem updateCredential_completeUpdate (s : Session) (revision : Nat)
    (hash presented : Option String) (now : Instant) :
    (s.completeUpdate revision hash presented now).updateCredential =
      match s.pendingProtection with
      | some p => p.guard?
      | none => presented <|> s.updateCredential := by
  show (s.settlePasswords presented).updateCredential = _
  unfold settlePasswords
  cases s.pendingProtection with
  | some p => rfl
  | none =>
    cases presented with
    | none => rfl
    | some p =>
      dsimp only
      split
      · rfl
      · next hsame => exact Classical.not_not.1 fun hne => hsame ⟨rfl, hne⟩

/-- **An update that sets no passwords leaves the password for opening as it was**, whatever was
presented. -/
theorem openPassword_completeUpdate (h : s.pendingProtection = none) (revision : Nat)
    (hash presented : Option String) (now : Instant) :
    (s.completeUpdate revision hash presented now).openPassword = s.openPassword := by
  show (s.settlePasswords presented).openPassword = s.openPassword
  unfold settlePasswords
  rw [h]
  dsimp only
  split <;> rfl

/-- A fetch whose password is rejected comes to nothing. -/
theorem applyFetch_forbidden {p : Sync.PendingFetch} {r : Response}
    (current : s.generation = p.ticket.generation) (refused : r.status = 403) :
    Sync.applyFetch s p (.ok r) = (.error .forbidden, s.abortLoad p.ticket .accessDenied) := by
  rw [Sync.applyFetch, if_neg (not_not_intro current)]
  simp only [refused]

/-- **A fetch that is refused** although it presents a password. -/
theorem step_fetch_forbidden {id : String} {r : Response} (hid : DocumentId.isValid id = true)
    (linked : s.remoteId = some id) (refused : r.status = 403) :
    Step s (.fetch id) [(Sync.fetchRequest id s.fetchCredential, .ok r)] (.fetched (.error .forbidden))
      ((s.beginLoad id).2.abortLoad (s.beginLoad id).1 .accessDenied) := by
  have happly := applyFetch_forbidden (s := (s.beginLoad id).2)
    (p := ⟨(s.beginLoad id).1, s.fetchCredential⟩) rfl refused
  refine Dialogue.exchanged_map_iff.2 ⟨(.error .forbidden, _), ?_, rfl⟩
  rw [Sync.fetch, Sync.beginFetch, if_pos hid, if_pos linked]
  exact Dialogue.exchanged_exchange_iff.2
    ⟨.ok r, [], rfl, Dialogue.exchanged_done_iff.2 ⟨rfl, happly.symm⟩⟩

end Session

/-! ## What the store answers -/

namespace Store

variable {id : String} {d : Document}

/-- What admits nothing presented admits everything. -/
theorem Document.admits_of_admits_none (h : d.admits id none = true) (presented : Option String) :
    d.admits id presented = true := by
  cases hguard : d.guard? with
  | none => exact admits_of_unguarded hguard presented
  | some g => cases (not_admits_none hguard).symm.trans h

/-- **The password for changes that an update leaves with the session fits the document** that it
leaves in the store, if what was presented fitted the one before. -/
theorem admits_completeUpdate (env : Setting) (dt : DataTemplate) (n : Nat) {r : Request}
    {s : Session} {presented : Option String} {before : Option Document}
    (hopen : r.header? Header.openPassword = s.pendingProtection.bind Protection.openPassword)
    (hmodify : r.header? Header.modifyPassword = s.pendingProtection.bind Protection.modifyPassword)
    (hbefore : ∀ d, before = some d → d.admits id presented = true) (revision : Nat)
    (hash : Option String) (now : Instant) :
    (Document.write env dt n (passwordsAfter id r before).1 (passwordsAfter id r before).2).admits id
      (s.completeUpdate revision hash presented now).updateCredential = true := by
  rw [Session.updateCredential_completeUpdate]
  unfold passwordsAfter
  rw [hopen, hmodify]
  cases s.pendingProtection with
  | some p =>
    have hset : (p.openPassword.isSome || p.modifyPassword.isSome) = true := by simpa using p.isSet
    dsimp only [Option.bind_some]
    rw [if_pos hset]
    -- What guards changes now is the hash of what the session takes for the password.
    have hguard : (p.modifyPassword.map (passwordHash id) <|> p.openPassword.map (passwordHash id)) =
        p.guard?.map (passwordHash id) := by
      unfold Protection.guard?
      cases p.modifyPassword <;> rfl
    show Option.all _ (p.modifyPassword.map (passwordHash id) <|>
      p.openPassword.map (passwordHash id)) = true
    rw [hguard]
    cases p.guard? <;> simp
  | none =>
    dsimp only [Option.bind_none]
    rw [if_neg (by simp)]
    cases before with
    | none => rfl
    | some d =>
      -- Where no passwords are set, the new document has those of the old one.
      refine (congrFun (Document.admits_congr (d := d) rfl rfl) _).trans ?_
      cases presented with
      | none => exact Document.admits_of_admits_none (hbefore d rfl) _
      | some p => exact hbefore d rfl

end Store

namespace Ledger

variable {l l₁ l₂ : Ledger} {writer : DataTemplate}

/-- Requests are answered one after the other. -/
theorem Served.of_append {es₁ es₂ : List (Request × Reply)}
    (served : Served writer l (es₁ ++ es₂) l₂) :
    ∃ l₁, Served writer l es₁ l₁ ∧ Served writer l₁ es₂ l₂ := by
  induction es₁ generalizing l with
  | nil => exact ⟨l, .done l, served⟩
  | cons e es ih =>
    cases served with
    | exchange more =>
      obtain ⟨l₁, hfirst, hrest⟩ := ih more
      exact ⟨l₁, .exchange hfirst, hrest⟩

/-- A request that the store answers. -/
theorem Served.of_send {env : Store.Setting} {r : Request} {reply : Reply} {store : Store}
    (hsend : l.store.send env r = (reply, store)) :
    ∃ l', Served writer l [(r, reply)] l' ∧ l'.store = store := by
  have served : Served writer l [(r, (l.store.send env r).1)] (l.exchange env writer r) :=
    .exchange (.done _)
  rw [hsend] at served
  exact ⟨_, served, congrArg Prod.snd hsend⟩

/-- Two requests that the store answers, one after the other. -/
theorem Served.of_sends {env : Store.Setting} {r₁ r₂ : Request} {reply₁ reply₂ : Reply}
    {store₁ store₂ : Store} (h₁ : l.store.send env r₁ = (reply₁, store₁))
    (h₂ : store₁.send env r₂ = (reply₂, store₂)) :
    ∃ l', Served writer l [(r₁, reply₁), (r₂, reply₂)] l' ∧ l'.store = store₂ := by
  have hstore : (l.exchange env writer r₁).store = store₁ := congrArg Prod.snd h₁
  obtain ⟨l', served, hend⟩ : ∃ l', Served writer (l.exchange env writer r₁) [(r₂, reply₂)] l' ∧
      l'.store = store₂ := Served.of_send (hstore.symm ▸ h₂)
  refine ⟨l', ?_, hend⟩
  have hfirst : reply₁ = (l.store.send env r₁).1 := (congrArg Prod.fst h₁).symm
  rw [hfirst]
  exact .exchange served

end Ledger

namespace Sharing

open Session

variable {w w' : Sharing} {i : Nat} {id : String}

/-- A session after it has changed. -/
@[simp] theorem replace_self (w : Sharing) (i : Nat) (s : Session) : w.replace i s i = s := if_pos rfl

/-- **A step with which a session stays with its document**: its own calm operations, and whatever
does not change it. -/
inductive Calm (i : Nat) (w : Sharing) : Sharing → Prop
  | own {op : Operation} {es : List (Request × Reply)} {result : Result} {s' : Session} {l : Ledger}
      (calm : op.isCalm result = true) (step : Session.Step (w.sessions i) op es result s')
      (served : Ledger.Served (w.sessions i).snapshot w.ledger es l) : Calm i w ⟨l, w.replace i s'⟩
  | other {w' : Sharing} (step : Step w w') (same : w'.sessions i = w.sessions i) : Calm i w w'

/-- Meanwhile a session keeps its document and the passwords for it. -/
theorem access_of_meanwhile (meanwhile : Relation.ReflTransGen (Calm i) w w') :
    (w'.sessions i).access = (w.sessions i).access := by
  induction meanwhile with
  | refl => rfl
  | tail _ step ih =>
    cases step with
    | own calm step =>
      rw [← ih, ← access_of_calm step calm]
      exact congrArg access (replace_self _ _ _)
    | other _ same => rw [same, ih]

/-- **How the store answers a session** that fetches a document or updates its own: the fetch is let
in if and only if `fits`, and else refused for the password that it presents, and no update is refused
for its password. -/
structure Answers (w : Sharing) (i : Nat) (id : String) (fits : Bool) : Prop where
  fetch : ∀ {es : List (Request × Reply)} {result : Result} {s' : Session} {l : Ledger},
    Session.Step (w.sessions i) (.fetch id) es result s' →
    Ledger.Served (w.sessions i).snapshot w.ledger es l →
    ∃ r x, es = [(r, .ok x)] ∧ x.status = if fits then 200 else 403
  update : ∀ {op : Operation} {o : Sync.Options} {es : List (Request × Reply)} {result : Result}
    {s' : Session} {l : Ledger}, op = .update o ∨ op = .save o →
    Session.Step (w.sessions i) op es result s' →
    Ledger.Served (w.sessions i).snapshot w.ledger es l →
    ∀ e ∈ es, ∀ x, e.2 = .ok x → x.status ≠ 401

/-- **Passwords that fit**: the session has the document and holds the password that guards changes to
it, if one does. -/
structure Fits (w : Sharing) (i : Nat) (id : String) (d : Store.Document) : Prop where
  valid : DocumentId.isValid id = true
  linked : (w.sessions i).remoteId = some id
  admits : d.admits id (w.sessions i).updateCredential = true

/-- **A password that guards changes opens the document**, so a fetch is refused only for another one
that is held beside it. -/
theorem Fits.opens_fetchCredential {d : Store.Document} (h : Fits w i id d) :
    d.opens id (w.sessions i).fetchCredential =
      (w.sessions i).openPassword.all fun p => d.opens id (some p) := by
  have hopens := Store.Document.opens_of_admits h.admits
  unfold fetchCredential
  unfold updateCredential at hopens
  cases hopen : (w.sessions i).openPassword with
  | some p => rfl
  | none =>
    rw [hopen] at hopens
    cases hmodify : (w.sessions i).modifyPassword <;> rw [hmodify] at hopens <;> exact hopens

/-- **The store lets a session with passwords that fit update its document**, and lets it fetch the
document if the password held for opening, if any, still opens it. -/
theorem Fits.answers {d : Store.Document} (h : Fits w i id d)
    (hstored : w.ledger.store.get? id = some d) (hfaults : w.ledger.store.faults = []) :
    Answers w i id ((w.sessions i).openPassword.all fun p => d.opens id (some p)) where
  fetch := by
    intro es result s' l step served
    obtain ⟨reply, rfl⟩ := requests_of_fetch h.valid step
    obtain ⟨env, rfl, -⟩ := served.singleton
    rw [if_pos h.linked, Store.send_fetchRequest hfaults h.valid hstored, h.opens_fetchCredential]
    refine ⟨_, _, rfl, ?_⟩
    cases hfits : (w.sessions i).openPassword.all fun p => d.opens id (some p) with
    | true => rfl
    | false =>
      -- What is refused is the password held for opening.
      cases hopen : (w.sessions i).openPassword with
      | none =>
        rw [hopen] at hfits
        cases hfits
      | some p =>
        have hpresented : (w.sessions i).fetchCredential = some p := by rw [fetchCredential, hopen]; rfl
        rw [hpresented]
        rfl
  update := by
    intro op o es result s' l hop step served e he x hx
    obtain ⟨revision, reply, rfl⟩ | rfl := requests_of_update hop h.linked step
    · obtain rfl := List.mem_singleton.1 he
      obtain ⟨env, rfl, -⟩ := served.singleton
      refine Store.ne_unauthorized_of_admits hfaults (Sync.method_updateRequest _ _ _ _ _) ?_ hstored
        ?_ hx
      · rw [Sync.path_updateRequest, Store.target?_documentPath, if_pos h.valid]
      · rw [Sync.header?_updateRequest_password]
        exact h.admits
    · cases he

/-- **The password that an accepted update leaves with the session fits** the document as it then is in
the store. -/
theorem fits_of_updated {op : Operation} {es : List (Request × Reply)} {revision : Nat}
    {s' : Session} {l : Ledger}
    (step : Session.Step (w.sessions i) op es (.saved (.ok (.updated id revision))) s')
    (served : Ledger.Served (w.sessions i).snapshot w.ledger es l) :
    ∃ d, l.store.get? id = some d ∧ Fits ⟨l, w.replace i s'⟩ i id d := by
  cases settled_of_step step (isSave_of_saved step) with
  | nothing failed => cases failed
  | @updated o before r _ named _ presented hash linked sent success read kept =>
    subst sent
    -- The update is the last request, so its document is the one that is in the store now.
    obtain ⟨l₁, -, hlast⟩ := served.of_append
    obtain ⟨env, hreply, rfl⟩ := hlast.singleton
    obtain ⟨haccepted, hvalid, -, dt, -, hstored⟩ := Store.stored_of_read (Prod.ext hreply.symm rfl)
      success read
    obtain ⟨hopen, hmodify⟩ :=
      Sync.header?_updateRequest_protection o (w.sessions i) id revision presented
    obtain ⟨-, -, -, hid, -, hopen', hmodify', -⟩ := eq_of_kept_eq kept
    have haccess : s'.access =
        ((w.sessions i).completeUpdate revision hash presented o.now).access := by
      rw [access, access, hid, hopen', hmodify']
    obtain ⟨-, -, hcredential⟩ := credentials_of_access haccess
    refine ⟨_, hstored, hvalid, ?_, ?_⟩
    · show (w.replace i s' i).remoteId = some id
      rw [replace_self, hid]
      exact ((w.sessions i).settlePasswords_linked presented).2.trans linked
    · show Store.Document.admits id _ (w.replace i s' i).updateCredential = true
      rw [replace_self, hcredential]
      -- The password presented has been accepted, so it fits the document as it was.
      refine Store.admits_completeUpdate env dt revision hopen hmodify (fun d hd => ?_) _ _ _
      rw [← Sync.header?_updateRequest_password o (w.sessions i) id revision presented]
      exact Store.admits_of_accepted haccepted hd

/-! ## A document whose password changes -/

/-- A document with a template and nothing else. -/
def plainDocument : DataTemplate := .single "" "" "t"

/-- The id that it is kept under is a valid one. -/
theorem isValid_doc1 : DocumentId.isValid "doc1" = true := by decide

/-- A clock that stands still. No ids are drawn. -/
def stillSetting : Store.Setting := ⟨fun _ => "", 0⟩

/-- The first of the sessions, and the one document in the store, at a moment without faults. -/
structure Moment (w : Sharing) (s : Session) (d : Store.Document) : Prop where
  reached : Reachable w
  session : w.sessions 0 = s
  stored : w.ledger.store.get? "doc1" = some d
  faults : w.ledger.store.faults = []

variable {s s' : Session} {d d' : Store.Document}

/-- The session has done something without the store. -/
theorem Moment.alone (h : Moment w s d) {op : Operation} {result : Result}
    (step : Session.Step s op [] result s') (hop : op.WellFormed) : ∃ w', Moment w' s' d := by
  obtain ⟨reached, rfl, stored, faults⟩ := h
  exact ⟨_, reached.step (.perform hop step (.done _)), w.replace_self 0 s', stored, faults⟩

/-- The session has exchanged a request with the store. -/
theorem Moment.exchange (h : Moment w s d) {op : Operation} {result : Result} {r : Request}
    {reply : Reply} {store : Store}
    (hsend : w.ledger.store.send stillSetting r = (reply, store))
    (stored : store.get? "doc1" = some d') (faults : store.faults = [])
    (step : Session.Step s op [(r, reply)] result s') (hop : op.WellFormed) :
    ∃ w', Moment w' s' d' := by
  obtain ⟨reached, rfl, -, -⟩ := h
  obtain ⟨rfl, rfl⟩ := Prod.mk.inj hsend
  exact ⟨_, reached.step (.perform hop step (.exchange (.done _))), w.replace_self 0 s', stored,
    faults⟩

/-- It is kept with any passwords. -/
theorem holds_plain (revision : Nat) (openPassword modifyPassword : Option String) :
    (Store.Document.write stillSetting plainDocument revision
      (openPassword.map (Store.passwordHash "doc1"))
      (modifyPassword.map (Store.passwordHash "doc1"))).Holds plainDocument :=
  Store.Document.holds_write (DataTemplate.wellFormed_single _ _ _) _ revision
    (Store.isHashText_map "doc1" openPassword) (Store.isHashText_map "doc1" modifyPassword)

/-- **It can be read back**: it has no text that YAML refuses. -/
theorem exists_parse_plain (hd : d.Holds plainDocument) (hbits : d.revision < Nat.pow 2 64) :
    ∃ x, RemoteDocument.parse d.text = .ok x ∧ x.template = plainDocument.reloaded ∧
      x.revision = some d.revision ∧ x.isProtected = d.isProtected := by
  have hreadable : Portable.IsReadable plainDocument :=
    ⟨by decide, Portable.templateEntries_short rfl 0⟩
  obtain ⟨x, hx⟩ := hd.exists_parse_text.2 ⟨hreadable, hbits⟩
  obtain ⟨htemplate, -, hrevision, hprotected⟩ := hd.parse_text hx
  exact ⟨x, hx, htemplate, hrevision, hprotected⟩

/-- The document while `password` is its password for opening. -/
def lockedDocument (password : String) : Store.Document :=
  .write stillSetting plainDocument 1 (some (Store.passwordHash "doc1" password)) none

/-- The document is kept. -/
theorem holds_lockedDocument (password : String) : (lockedDocument password).Holds plainDocument :=
  holds_plain 1 (some password) none

/-- The document is put into the store with a password for opening. -/
theorem reachable_seed (reached : Reachable w) (password : String) :
    Reachable { w with
      ledger := w.ledger.seed stillSetting "doc1" plainDocument 1 (some password) none } :=
  reached.step (.seed stillSetting "doc1" (DataTemplate.wellFormed_single _ _ _) 1 _ none)

/-- The document has been put into the store once more, with another password for opening. -/
theorem Moment.reseed (h : Moment w s d) (password : String) :
    ∃ w', Moment w' s (lockedDocument password) := by
  obtain ⟨reached, rfl, -, faults⟩ := h
  exact ⟨_, reachable_seed reached password, rfl, Store.get?_put_self _ _ _, faults⟩

/-- **The password for opening guards everything**, and another one is refused. -/
theorem fits_lockedDocument :
    (lockedDocument "one").opens "doc1" none = false ∧
      (lockedDocument "one").opens "doc1" (some "one") = true ∧
      (lockedDocument "two").admits "doc1" (some "one") = false ∧
      (lockedDocument "two").admits "doc1" (some "two") = true ∧
      (lockedDocument "two").opens "doc1" (some "one") = false := by
  have hne : Store.passwordHash "doc1" "one" ≠ Store.passwordHash "doc1" "two" := by decide +kernel
  simp [lockedDocument, Store.Document.admits, Store.Document.opens, Store.Document.guard?,
    Store.Document.write, hne]

/-- A new session has fetched the document with its password. -/
theorem exists_loaded : ∃ w x, x.template = plainDocument.reloaded ∧ x.revision = some 1 ∧
    Moment w ((({} : Session).beginLoad "doc1").2.completeLoad ⟨1, "doc1"⟩ x (some "one"))
      (lockedDocument "one") := by
  obtain ⟨hasked, hopens, -⟩ := fits_lockedDocument
  obtain ⟨x, hx, htemplate, hrevision, -⟩ :=
    exists_parse_plain (holds_lockedDocument "one") (show 1 < Nat.pow 2 64 by decide)
  have hnew : ∀ i, (({} : Sharing).sessions i).WellFormed := fun _ => Registry.wellFormed_initial
  have hstart : Moment { ledger := Ledger.seed stillSetting "doc1" plainDocument 1 (some "one") none {} }
      {} (lockedDocument "one") := ⟨reachable_seed (.initial hnew) "one", rfl, rfl, rfl⟩
  obtain ⟨w₁, h₁⟩ : ∃ w', Moment w' (({} : Session).beginLoad "doc1").2 (lockedDocument "one") := by
    have hsend := Store.send_fetchRequest hstart.faults isValid_doc1 hstart.stored stillSetting none
    rw [hasked] at hsend
    have hstep : Session.Step {} (.fetch "doc1")
        [(Sync.fetchRequest "doc1" none, .ok (Store.statusResponse 401))]
        (.fetched (.ok (.passwordRequired ⟨1, "doc1"⟩))) (({} : Session).beginLoad "doc1").2 :=
      Dialogue.exchanged_map_iff.2 ⟨_, .exchange (.done _), rfl⟩
    exact hstart.exchange hsend hstart.stored hstart.faults hstep trivial
  have hsend := Store.send_fetchRequest h₁.faults isValid_doc1 h₁.stored stillSetting (some "one")
  rw [hopens] at hsend
  -- The answer to the question opens the document, which is loaded.
  have hfetch : (Sync.fetchWithPassword (({} : Session).beginLoad "doc1").2 ⟨1, "doc1"⟩
      (some "one")).Exchanged
      [(Sync.fetchRequest "doc1" (some "one"), .ok (Store.okResponse (lockedDocument "one").text))]
      (Sync.applyFetch (({} : Session).beginLoad "doc1").2 ⟨⟨1, "doc1"⟩, some "one"⟩
        (.ok (Store.okResponse (lockedDocument "one").text))) := .exchange (.done _)
  have hcurrent : (({} : Session).beginLoad "doc1").2.generation = 1 := rfl
  rw [applyFetch_document (r := Store.okResponse (lockedDocument "one").text) hcurrent rfl hx]
    at hfetch
  have hstep : Session.Step (({} : Session).beginLoad "doc1").2
      (.fetchWithPassword ⟨1, "doc1"⟩ (some "one"))
      [(Sync.fetchRequest "doc1" (some "one"), .ok (Store.okResponse (lockedDocument "one").text))]
      (.fetched (.ok (.loaded ⟨"doc1", x.revision.getD 1, x.updated, x.isProtected⟩)))
      ((({} : Session).beginLoad "doc1").2.completeLoad ⟨1, "doc1"⟩ x (some "one")) :=
    Dialogue.exchanged_map_iff.2 ⟨_, hfetch, rfl⟩
  obtain ⟨w₂, h₂⟩ := h₁.exchange hsend h₁.stored h₁.faults hstep trivial
  exact ⟨w₂, x, htemplate, hrevision, h₂⟩

/-- How the session saves. -/
def plainOptions : Sync.Options where
  now := ⟨0, 0⟩

/-- A session that has loaded the document, and whose template has been edited. -/
theorem exists_edited : ∃ w s, Moment w s (lockedDocument "two") ∧ s.remoteId = some "doc1" ∧
    s.dirty = true ∧ s.revision = 1 ∧ s.pendingProtection = none ∧ s.modifyPassword = none ∧
    s.openPassword = some "one" := by
  obtain ⟨w₁, x, htemplate, hrevision, h₁⟩ := exists_loaded
  -- Meanwhile someone else changes the password.
  obtain ⟨w₂, h₂⟩ := h₁.reseed "two"
  generalize hloaded : (({} : Session).beginLoad "doc1").2.completeLoad ⟨1, "doc1"⟩ x (some "one") =
    s at h₂
  have hne : s.template ≠ "mine" := by
    subst hloaded
    show x.template.template ≠ "mine"
    rw [htemplate]
    decide
  obtain ⟨w₃, h₃⟩ := h₂.alone (step_editTemplate hne) trivial
  subst hloaded
  refine ⟨w₃, _, h₃, rfl, rfl, ?_, rfl, rfl, rfl⟩
  show x.revision.getD 1 = 1
  rw [hrevision]
  rfl

/-- **A question for the new password is answered**, and the update accepted; the session still holds the
old password for opening. -/
theorem exists_updated : ∃ w es p s' l, Reachable w ∧
    Session.Step (w.sessions 0) (.resumeUpdate plainOptions p (some "two")) es
      (.saved (.ok (.updated "doc1" 2))) s' ∧
    Ledger.Served (w.sessions 0).snapshot w.ledger es l ∧ l.store.faults = [] ∧
    (∃ d, l.store.get? "doc1" = some d ∧ d.opens "doc1" (some "one") = false) ∧
    s'.openPassword = some "one" := by
  obtain ⟨-, -, hrefused, hadmits, hopens⟩ := fits_lockedDocument
  obtain ⟨w₃, s, h₃, hlinked, hdirty, hrevision, hpending, hmodify, hopen⟩ := exists_edited
  have hcredential : s.updateCredential = some "one" := by
    rw [updateCredential, hmodify, hopen]
    rfl
  have hbits : 2 < Nat.pow 2 64 := by decide
  -- The old password is refused, and the session asks for the new one.
  have hrefusal := Store.send_updateRequest_unauthorized h₃.faults isValid_doc1 stillSetting
    plainOptions (h₃.session ▸ h₃.reached.faithful.sessions 0) hbits h₃.stored hrefused
  have hasked := step_update_asked plainOptions hlinked hdirty
    (show (Store.statusResponse 401).status = 401 from rfl)
  rw [hcredential, hrevision] at hasked
  obtain ⟨w₄, h₄⟩ := h₃.exchange hrefusal h₃.stored h₃.faults hasked trivial
  -- The new one is accepted.
  have haccepted := Store.send_updateRequest_accepted h₄.faults isValid_doc1 stillSetting
    plainOptions (h₄.session ▸ h₄.reached.faithful.sessions 0) hbits h₄.stored hadmits (by decide)
  have hread := Store.parseAnswer_updateAnswer isValid_doc1 stillSetting (x := s.beginSave.2)
    (h₃.session ▸ h₃.reached.faithful.sessions 0) 2 (lockedDocument "two")
  have hupdated := step_resumeUpdate_accepted (p := ⟨s.beginSave.1, 2, true⟩) plainOptions
    (show s.beginSave.2.remoteId = some "doc1" from hlinked) (beq_self_eq_true s.generation)
    (show Text.isBlank "two" = false by decide) rfl hread
  obtain ⟨l, hserved, hstore⟩ := Ledger.Served.of_send haccepted
  -- The passwords of the document have not changed with it.
  have hunset : s.beginSave.2.pendingProtection = none := hpending
  have hrefused' : (Store.updatedDocument stillSetting "doc1" s.beginSave.2 2
      (lockedDocument "two")).opens "doc1" (some "one") = false := by
    rw [Store.updatedDocument, hunset]
    refine (congrFun (Store.Document.opens_congr (d := lockedDocument "two") ?_ ?_) _).trans hopens
    · rfl
    · rfl
  exact ⟨w₄, _, _, _, l, h₄.reached, by rw [h₄.session]; exact hupdated,
    by rw [h₄.session]; exact hserved, by rw [hstore]; exact h₄.faults,
    ⟨_, by rw [hstore]; exact Store.get?_put_self _ _ _, hrefused'⟩,
    (openPassword_completeUpdate hunset _ _ _ _).trans hopen⟩

/-! ## Accepted passwords -/

/-- **Accepted passwords are let in.** After an operation of a session has updated a document, let
anything happen with which the session stays with its document. As long as the passwords of the document
are what they were, and no fault is to come, no update of the session is refused for its password, and
a fetch of the document is let in if and only if the password held for opening, if there is one, opens
the document. -/
theorem answers_of_updated {op : Operation} {es : List (Request × Reply)} {revision : Nat}
    {s' : Session} {l : Ledger}
    (step : Session.Step (w.sessions i) op es (.saved (.ok (.updated id revision))) s')
    (served : Ledger.Served (w.sessions i).snapshot w.ledger es l) :
    ∃ d, l.store.get? id = some d ∧
      ∀ w', Relation.ReflTransGen (Calm i) ⟨l, w.replace i s'⟩ w' →
      ∀ d', w'.ledger.store.get? id = some d' → d'.openHash = d.openHash →
        d'.modifyHash = d.modifyHash → w'.ledger.store.faults = [] →
        Answers w' i id (s'.openPassword.all fun p => d.opens id (some p)) := by
  obtain ⟨d, hstored, hfits⟩ := fits_of_updated step served
  refine ⟨d, hstored, fun w' meanwhile d' hstored' hopen hmodify hfaults => ?_⟩
  have haccess := access_of_meanwhile meanwhile
  obtain ⟨hid, -, hcredential⟩ := credentials_of_access haccess
  -- The session holds what it held then, and the document has the passwords that it had then.
  have hfits' : Fits w' i id d' :=
    ⟨hfits.valid, hid.trans hfits.linked, by
      rw [Store.Document.admits_congr hopen hmodify, hcredential]
      exact hfits.admits⟩
  have hheld : (w'.sessions i).openPassword = s'.openPassword := by
    rw [← w.replace_self i s']
    exact congrArg (fun a => a.2.1) haccess
  have hanswers := hfits'.answers hstored' hfaults
  rwa [hheld, Store.Document.opens_congr hopen hmodify] at hanswers

/-- Nothing happens after the update, and the password for opening is an old one. -/
theorem answers_of_updated_stale : ∃ (w : Sharing) (op : _) (es : _) (s' : Session) (l : Ledger),
    Session.Step (w.sessions 0) op es (.saved (.ok (.updated "doc1" 2))) s' ∧
      Ledger.Served (w.sessions 0).snapshot w.ledger es l ∧ l.store.faults = [] ∧
      Answers ⟨l, w.replace 0 s'⟩ 0 "doc1" false := by
  obtain ⟨w, es, p, s', l, -, step, served, hfaults, ⟨d, hstored, hrefused⟩, hopen⟩ := exists_updated
  obtain ⟨d', hstored', hanswers⟩ := answers_of_updated step served
  obtain rfl := Option.some.inj (hstored.symm.trans hstored')
  have hnow := hanswers ⟨l, w.replace 0 s'⟩ .refl d hstored rfl rfl hfaults
  rw [hopen, Option.all_some, hrefused] at hnow
  exact ⟨w, _, es, s', l, step, served, hfaults, hnow⟩

/-- **A password that has become stale is presented all the same.** An answer for the new password of a
document is accepted, and the very next fetch of the document is refused, with the passwords of the
document as they were and without a fault: the session presents the old password for opening. -/
theorem exists_stale_password : ∃ w op es s' l, Reachable w ∧
    Session.Step (w.sessions 0) op es (.saved (.ok (.updated "doc1" 2))) s' ∧
    Ledger.Served (w.sessions 0).snapshot w.ledger es l ∧ l.store.faults = [] ∧
    ∃ request reply s'' l', Session.Step s' (.fetch "doc1") [(request, .ok reply)]
        (.fetched (.error .forbidden)) s'' ∧
      Ledger.Served s'.snapshot l [(request, .ok reply)] l' ∧ reply.status = 403 := by
  obtain ⟨w, es, p, s', l, reached, step, served, hfaults, ⟨d, hstored, hrefused⟩, hopen⟩ :=
    exists_updated
  obtain ⟨d', hstored', hfits⟩ := fits_of_updated step served
  obtain rfl := Option.some.inj (hstored.symm.trans hstored')
  have hlinked : s'.remoteId = some "doc1" :=
    (congrArg remoteId (w.replace_self 0 s')).symm.trans hfits.linked
  have hcredential : s'.fetchCredential = some "one" := by
    rw [fetchCredential, hopen]
    rfl
  have hsend := Store.send_fetchRequest hfaults hfits.valid hstored stillSetting s'.fetchCredential
  rw [hcredential, hrefused] at hsend
  obtain ⟨l', hserved, -⟩ := Ledger.Served.of_send hsend
  have hfetch := step_fetch_forbidden hfits.valid hlinked
    (show (Store.statusResponse 403).status = 403 from rfl)
  rw [hcredential] at hfetch
  exact ⟨w, _, es, s', l, reached, step, served, hfaults, _, _, _, l', hfetch, hserved, rfl⟩

end Sharing

end TemplateShare
