import TemplateShare.Proofs.Store.Reply

/-! # What the store lets pass

Which passwords open a document and which allow changes to it, and with them what a store without
faults says to the two requests that a session makes for a document.

* **`Store.Document.opens`**, **`Store.Document.admits`** — the passwords that fit.
* **`Store.send_fetchRequest`** — the answer to a fetch.
* **`Store.send_updateRequest_unauthorized`**, **`Store.send_updateRequest_conflict`**,
  **`Store.send_updateRequest_accepted`** — the three answers to an update.
* **`Store.stored_of_read`** — what an update has left whose answer is read.
* **`Store.admits_of_accepted`**, **`Store.ne_unauthorized_of_admits`** — a write is accepted only with
  a password that fits, and with one it is not refused for its password. -/

namespace TemplateShare

/-! ## Passwords in requests -/

namespace Sync

variable (o : Options) (s : Session)

/-- The passwords that a request presents and sets are found under their names. -/
theorem header?_secrets {r : Request} (hr : r.secrets = []) {name : String}
    (h : name ∈ Header.secrets) : r.header? name = none := by
  simp only [Request.secrets, List.map_eq_nil_iff, List.filter_eq_nil_iff] at hr
  rw [Request.header?, Option.map_eq_none_iff, List.find?_eq_none]
  intro header hmem hsame
  refine hr header hmem (List.any_eq_true.2 ⟨name, h, ?_⟩)
  exact hsame

/-- An optional header is found as it was added, if there has been none of its name. -/
theorem header?_withOptionalHeader_self {r : Request} {name : String} (hr : r.header? name = none)
    (value : Option String) : (r.withOptionalHeader name value).header? name = value := by
  cases value with
  | none => exact hr
  | some v => exact r.header?_withHeader_self v hr

/-- **A fetch presents its password.** -/
@[simp] theorem header?_fetchRequest (id : String) (password : Option String) :
    (fetchRequest id password).header? Header.password = password :=
  header?_withOptionalHeader_self rfl password

/-- **An update presents its password.** -/
@[simp] theorem header?_updateRequest_password (id : String) (revision : Nat)
    (password : Option String) :
    (updateRequest o s id revision password).header? Header.password = password := by
  have hwrite := secrets_writeRequest o s (some id)
  have hrevision : Header.same Header.revision Header.password = false := by decide
  have hopen : Header.same Header.openPassword Header.password = false := by decide
  have hmodify : Header.same Header.modifyPassword Header.password = false := by decide
  unfold updateRequest
  generalize writeRequest o s (some id) = r at hwrite
  have hquery (q : List (String × String)) :
      Request.header? { r with query := q } Header.password = none :=
    header?_secrets (r := { r with query := q }) hwrite (by simp [Header.secrets])
  cases s.pendingProtection <;>
    simp only [Request.header?_withOptionalHeader_of_not_same _ _ hopen,
      Request.header?_withOptionalHeader_of_not_same _ _ hmodify,
      header?_withOptionalHeader_self
        ((Request.header?_withHeader_of_not_same _ _ hrevision).trans (hquery _))]

/-- **An update sets the passwords** that the session is to set. -/
theorem header?_updateRequest_protection (id : String) (revision : Nat) (password : Option String) :
    (updateRequest o s id revision password).header? Header.openPassword =
        s.pendingProtection.bind Protection.openPassword ∧
      (updateRequest o s id revision password).header? Header.modifyPassword =
        s.pendingProtection.bind Protection.modifyPassword := by
  have hwrite := secrets_writeRequest o s (some id)
  have hopen : Header.openPassword ∈ Header.secrets := by simp [Header.secrets]
  have hmodify : Header.modifyPassword ∈ Header.secrets := by simp [Header.secrets]
  unfold updateRequest
  generalize writeRequest o s (some id) = r at hwrite
  -- Before the passwords are set there is no header of their names.
  have hbefore {name : String} (hname : name ∈ Header.secrets) (q : List (String × String))
      (hrevision : Header.same Header.revision name = false)
      (hpassword : Header.same Header.password name = false) :
      ((Request.withHeader { r with query := q } Header.revision (toString revision)).withOptionalHeader
        Header.password password).header? name = none := by
    rw [Request.header?_withOptionalHeader_of_not_same _ _ hpassword,
      Request.header?_withHeader_of_not_same _ _ hrevision]
    exact header?_secrets (r := { r with query := q }) hwrite hname
  cases s.pendingProtection with
  | none => exact ⟨hbefore hopen _ (by decide) (by decide), hbefore hmodify _ (by decide) (by decide)⟩
  | some p =>
    have hother : Header.same Header.modifyPassword Header.openPassword = false := by decide
    have hother' : Header.same Header.openPassword Header.modifyPassword = false := by decide
    dsimp only [Option.bind_some]
    constructor
    · rw [Request.header?_withOptionalHeader_of_not_same _ _ hother]
      exact header?_withOptionalHeader_self (hbefore hopen _ (by decide) (by decide)) _
    · refine header?_withOptionalHeader_self ?_ _
      rw [Request.header?_withOptionalHeader_of_not_same _ _ hother']
      exact hbefore hmodify _ (by decide) (by decide)

end Sync

namespace Store

variable {env : Setting} {r : Request} {s : Store} {id : String} {d : Document}

/-! ## Passwords that fit -/

namespace Document

/-- **Whether a document opens** to what is presented: it has no password for opening, or either of
its passwords is presented. -/
def opens (id : String) (d : Document) (presented : Option String) : Bool :=
  d.openHash.all fun o =>
    presented.any fun p => passwordHash id p = o ∨ d.modifyHash = some (passwordHash id p)

/-- **Whether a document lets itself be changed** with what is presented: nothing guards it, or the
password that does is presented. -/
def admits (id : String) (d : Document) (presented : Option String) : Bool :=
  d.guard?.all fun g => presented.any fun p => passwordHash id p = g

/-- A password that allows changes opens the document. -/
theorem opens_of_admits {presented : Option String} (h : d.admits id presented = true) :
    d.opens id presented = true := by
  unfold admits guard? at h
  unfold opens
  cases hopen : d.openHash with
  | none => rfl
  | some o =>
    cases hmodify : d.modifyHash with
    | none =>
      rw [hopen, hmodify] at h
      cases presented with
      | none => cases h
      | some p =>
        have hp : passwordHash id p = o := by simpa using h
        simp [hp]
    | some m =>
      rw [hopen, hmodify] at h
      cases presented with
      | none => cases h
      | some p =>
        have hp : passwordHash id p = m := by simpa using h
        simp [hp]

/-- What nothing guards lets itself be changed with anything. -/
theorem admits_of_unguarded (h : d.guard? = none) (presented : Option String) :
    d.admits id presented = true := by
  rw [admits, h]
  rfl

/-- What is guarded does not let itself be changed with nothing. -/
theorem not_admits_none {g : String} (h : d.guard? = some g) : d.admits id none = false := by
  rw [admits, h]
  rfl

/-- What fits depends on the hashes of the passwords only. -/
theorem opens_congr {d' : Document} (hopen : d'.openHash = d.openHash)
    (hmodify : d'.modifyHash = d.modifyHash) : d'.opens id = d.opens id := by
  funext presented
  rw [opens, opens, hopen, hmodify]

/-- What fits depends on the hashes of the passwords only. -/
theorem admits_congr {d' : Document} (hopen : d'.openHash = d.openHash)
    (hmodify : d'.modifyHash = d.modifyHash) : d'.admits id = d.admits id := by
  funext presented
  rw [admits, admits, guard?, guard?, hopen, hmodify]

end Document

/-- The store asks a request for the password that it presents. -/
theorem mayModify_eq (id : String) (r : Request) (d : Document) :
    mayModify id r d = d.admits id (r.header? Header.password) := by
  unfold mayModify Document.admits
  cases d.guard? with
  | none => rfl
  | some g =>
    cases r.header? Header.password <;> rfl

/-- **The answer to a fetch**: the document, or a refusal that tells whether a password was
presented. -/
theorem fetch_eq_opens (hd : s.get? id = some d) (r : Request) :
    fetch id r s =
      if d.opens id (r.header? Header.password) then okResponse d.text
      else statusResponse (if (r.header? Header.password).isSome then 403 else 401) := by
  unfold fetch Document.opens
  rw [hd]
  dsimp only
  cases d.openHash with
  | none => rfl
  | some o =>
    cases r.header? Header.password with
    | none => rfl
    | some p =>
      dsimp only
      by_cases hfits : passwordHash id p = o ∨ d.modifyHash = some (passwordHash id p)
      · rw [if_pos hfits, if_pos (by simpa using hfits)]
      · rw [if_neg hfits, if_neg (by simpa using hfits)]
        rfl

/-! ## A store without faults -/

/-- The store in which a request has been noted. -/
def noted (r : Request) (s : Store) : Store := { s with requests := s.requests ++ [r] }

@[simp] theorem faults_noted (r : Request) (s : Store) : (s.noted r).faults = s.faults := rfl

@[simp] theorem get?_noted (r : Request) (s : Store) (id : String) :
    (s.noted r).get? id = s.get? id := rfl

/-- Without faults every request is answered. -/
theorem send_of_faults (hfaults : s.faults = []) (env : Setting) (r : Request) :
    s.send env r = (.ok (handle env r (s.noted r)).1, (handle env r (s.noted r)).2) := by
  obtain ⟨documents, drawn, faults, requests⟩ := s
  obtain rfl : faults = [] := hfaults
  rfl

/-- **What a fetch gets**, with or without a password. -/
theorem send_fetchRequest (hfaults : s.faults = []) (hid : DocumentId.isValid id = true)
    (hd : s.get? id = some d) (env : Setting) (presented : Option String) :
    s.send env (Sync.fetchRequest id presented) =
      (.ok (if d.opens id presented then okResponse d.text
        else statusResponse (if presented.isSome then 403 else 401)),
        s.noted (Sync.fetchRequest id presented)) := by
  rw [send_of_faults hfaults, handle, Sync.path_fetchRequest, target?_documentPath, if_pos hid,
    Sync.method_fetchRequest]
  dsimp only
  rw [fetch_eq_opens ((get?_noted _ s id).trans hd), Sync.header?_fetchRequest]

/-- **A document after it has been updated** from a session at a revision: its passwords are those
that the session was to set, else those from before. -/
def updatedDocument (env : Setting) (id : String) (x : Session) (revision : Nat) (d : Document) :
    Document :=
  match x.pendingProtection with
  | none => .write env x.snapshot.sent revision d.openHash d.modifyHash
  | some p =>
    .write env x.snapshot.sent revision (p.openPassword.map (passwordHash id))
      (p.modifyPassword.map (passwordHash id))

/-- The passwords after an update. -/
theorem passwordsAfter_updateRequest (env : Setting) (id : String) (o : Sync.Options) (x : Session)
    (revision : Nat) (presented : Option String) (d : Document) :
    Document.write env x.snapshot.sent revision
        (passwordsAfter id (Sync.updateRequest o x id revision presented) (some d)).1
        (passwordsAfter id (Sync.updateRequest o x id revision presented) (some d)).2 =
      updatedDocument env id x revision d := by
  obtain ⟨hopen, hmodify⟩ := Sync.header?_updateRequest_protection o x id revision presented
  unfold passwordsAfter updatedDocument
  rw [hopen, hmodify]
  cases x.pendingProtection with
  | none => rfl
  | some p =>
    have hset : (p.openPassword.isSome || p.modifyPassword.isSome) = true := by
      simpa using p.isSet
    dsimp only [Option.bind_some]
    rw [if_pos hset]

/-- What is sent of a session is well-formed. -/
theorem wellFormed_sent {x : Session} (hx : x.registry.WellFormed) :
    x.snapshot.sent.registry.WellFormed := by
  have hsnapshot : x.snapshot.registry.WellFormed := by
    rw [Registry.WellFormed, Session.snapshot_names]
    exact hx
  exact DataTemplate.wellFormed_rewritten (f := Dataset.expandTabs) (fun _ => rfl) hsnapshot

/-- What the store says to an update that it has accepted. -/
def updateAnswer (id : String) (d : Document) : Response := okResponse (id ++ ":" ++ d.hash ++ "\r\n")

/-- **The answer to an accepted update is read** as the id and the hash of the document. -/
theorem parseAnswer_updateAnswer (hid : DocumentId.isValid id = true) (env : Setting) {x : Session}
    (hx : x.registry.WellFormed) (revision : Nat) (d : Document) :
    Sync.parseAnswer (updateAnswer id (updatedDocument env id x revision d)).body =
      .ok (id, some (RemoteDocument.hashOf x.snapshot.sent revision)) := by
  have hhash : (updatedDocument env id x revision d).hash =
      RemoteDocument.hashOf x.snapshot.sent revision := by
    unfold updatedDocument
    cases x.pendingProtection <;> exact Document.hash_write (wellFormed_sent hx) ..
  unfold updateAnswer
  rw [hhash]
  exact Sync.parseAnswer_id_hash hid (Sha256.isHashText_hex _)

section Update

variable (hfaults : s.faults = []) (hid : DocumentId.isValid id = true) (env : Setting)
  (o : Sync.Options) {x : Session} (hx : x.registry.WellFormed) {revision : Nat}
  (hrevision : revision < Nat.pow 2 64)

include hfaults hid hx hrevision

/-- An update is a write at its document, of the session's document at the revision. -/
theorem send_updateRequest_eq (presented : Option String) :
    ∃ r, r = Sync.updateRequest o x id revision presented ∧
      r.header? Header.password = presented ∧
      s.send env r = (.ok (writeAt env id r x.snapshot.sent revision
          (fun d => id ++ ":" ++ d.hash ++ "\r\n") (s.noted r)).1,
        (writeAt env id r x.snapshot.sent revision (fun d => id ++ ":" ++ d.hash ++ "\r\n")
          (s.noted r)).2) := by
  have hpath := Sync.path_updateRequest o x id revision presented
  have hmethod := Sync.method_updateRequest o x id revision presented
  have hbody := bodyDocument?_updateRequest hx o id revision presented
  have hrequested := requestedRevision?_updateRequest o x id revision presented
  rw [if_pos hrevision] at hrequested
  refine ⟨_, rfl, Sync.header?_updateRequest_password o x id revision presented, ?_⟩
  generalize Sync.updateRequest o x id revision presented = r at *
  rw [send_of_faults hfaults, handle, hpath, target?_documentPath, if_pos hid, hmethod]
  dsimp only
  rw [write, hbody, hrequested]

variable (hd : s.get? id = some d) {presented : Option String}

include hd

/-- **Without a password that fits, an update is refused.** -/
theorem send_updateRequest_unauthorized (hadmits : d.admits id presented = false) :
    s.send env (Sync.updateRequest o x id revision presented) =
      (.ok (statusResponse 401), s.noted (Sync.updateRequest o x id revision presented)) := by
  obtain ⟨r, hr, hpresented, hsend⟩ :=
    send_updateRequest_eq hfaults hid env o hx hrevision presented
  rw [← hr, hsend, writeAt, get?_noted, hd, Option.all_some, mayModify_eq, hpresented, hadmits]
  rfl

/-- **An update that is not to a later revision is a conflict.** -/
theorem send_updateRequest_conflict (hadmits : d.admits id presented = true)
    (hlater : revision ≤ d.revision) :
    s.send env (Sync.updateRequest o x id revision presented) =
      (.ok (statusResponse 409), s.noted (Sync.updateRequest o x id revision presented)) := by
  obtain ⟨r, hr, hpresented, hsend⟩ :=
    send_updateRequest_eq hfaults hid env o hx hrevision presented
  rw [← hr, hsend, writeAt, get?_noted, hd, Option.all_some, mayModify_eq, hpresented, hadmits,
    Option.any_some, decide_eq_true hlater]
  rfl

/-- **Any other update is accepted.** -/
theorem send_updateRequest_accepted (hadmits : d.admits id presented = true)
    (hlater : d.revision < revision) :
    s.send env (Sync.updateRequest o x id revision presented) =
      (.ok (updateAnswer id (updatedDocument env id x revision d)),
        (s.noted (Sync.updateRequest o x id revision presented)).put id
          (updatedDocument env id x revision d)) := by
  obtain ⟨r, hr, hpresented, hsend⟩ :=
    send_updateRequest_eq hfaults hid env o hx hrevision presented
  have hafter := passwordsAfter_updateRequest env id o x revision presented d
  rw [← hr] at hafter
  rw [← hr, hsend, writeAt, get?_noted, hd, Option.all_some, mayModify_eq, hpresented, hadmits,
    Option.any_some, decide_eq_false (Nat.not_le.2 hlater)]
  dsimp only
  rw [hafter]
  rfl

end Update

/-! ## Updates that have been accepted -/

/-- **An update whose answer is read has been accepted**, and has left a document at its
revision. -/
theorem stored_of_read {o : Sync.Options} {x : Session} {revision : Nat} {presented : Option String}
    {answer : Response} {named : String × Option String} {s' : Store}
    (hsend : s.send env (Sync.updateRequest o x id revision presented) = (.ok answer, s'))
    (success : answer.status = 200) (read : Sync.parseAnswer answer.body = .ok named) :
    acceptedId? env (Sync.updateRequest o x id revision presented) s = some id ∧
      DocumentId.isValid id = true ∧ revision < Nat.pow 2 64 ∧
      ∃ dt, dt.registry.WellFormed ∧ s'.get? id = some (.write env dt revision
        (passwordsAfter id (Sync.updateRequest o x id revision presented) (s.get? id)).1
        (passwordsAfter id (Sync.updateRequest o x id revision presented) (s.get? id)).2) := by
  have hanswered := answered_send env (Sync.updateRequest o x id revision presented) s
  rw [hsend] at hanswered
  obtain ⟨t, dt, n, target, sent, requested, documents, accepted, -⟩ := hanswered.written_of_read
    (Sync.method_updateRequest o x id revision presented) success read
  obtain rfl := Answered.target_of_path target (Sync.path_updateRequest o x id revision presented)
  -- What is asked for is a revision, so it has 64 bits.
  rw [requestedRevision?_updateRequest] at requested
  by_cases hbound : revision < Nat.pow 2 64
  · rw [if_pos hbound] at requested
    obtain rfl := Option.some.inj requested
    exact ⟨accepted, (target?_eq_document target).2, hbound, _, wellFormed_of_bodyDocument? sent,
      (get?_of_written documents).1⟩
  · rw [if_neg hbound] at requested
    cases requested

/-! ## Whatever the request -/

/-- **Without a password that fits, nothing is written**, neither at the document nor under an id
that is drawn. -/
theorem status_write_of_refused {t : Target} (hd : s.get? (t.id env s) = some d)
    (hadmits : d.admits (t.id env s) (r.header? Header.password) = false) :
    (write env t r s).1.status ≠ 200 := by
  have hrefused (x : Store) (hx : x.documents = s.documents) (dt : DataTemplate) (revision : Nat)
      (answer : Document → String) :
      (writeAt env (t.id env s) r dt revision answer x).1.status = 401 := by
    rw [writeAt, (get?_congr hx _).trans hd, Option.all_some, mayModify_eq, hadmits]
    rfl
  unfold write
  split
  · next dt revision _ _ =>
    have hstatus : (401 : Nat) ≠ 200 := by decide
    cases t with
    | document id => exact (hrefused s rfl dt revision _).symm ▸ hstatus
    | collection => exact (hrefused { s with drawn := s.drawn + 1 } rfl dt revision _).symm ▸ hstatus
  · exact (by decide : (400 : Nat) ≠ 200)

/-- **What is accepted presents a password that fits**, wherever it is written. -/
theorem admits_of_accepted (hid : acceptedId? env r s = some id) (hd : s.get? id = some d) :
    d.admits id (r.header? Header.password) = true := by
  cases hadmits : d.admits id (r.header? Header.password) with
  | true => rfl
  | false =>
    unfold acceptedId? at hid
    split at hid
    · next x hfaults hmethod hanswer =>
      rw [send_of_faults hfaults, handle, hmethod] at hanswer
      cases htarget : target? r.path with
      | none =>
        rw [htarget] at hid
        split at hid <;> cases hid
      | some t =>
        rw [htarget] at hid hanswer
        obtain rfl : t.id env s = id := by
          split at hid
          · exact Option.some.inj hid
          · cases hid
        have hsame : t.id env (s.noted r) = t.id env s := by cases t <;> rfl
        have hwritten : (write env t r (s.noted r)).1 = x := by
          cases t <;> exact Except.ok.inj hanswer
        -- A write that is refused has no status of success, so it is not an accepted one.
        have hstatus : (write env t r (s.noted r)).1.status ≠ 200 :=
          status_write_of_refused (d := d) (by rw [hsame]; exact hd) (by rw [hsame]; exact hadmits)
        rw [hwritten] at hstatus
        rw [if_neg hstatus] at hid
        cases hid
    · cases hid

/-- **With a password that fits, a write is not refused for its password.** -/
theorem ne_unauthorized_of_admits (hfaults : s.faults = []) (hmethod : r.method = .post)
    (htarget : target? r.path = some (.document id)) (hd : s.get? id = some d)
    (hadmits : d.admits id (r.header? Header.password) = true) {x : Response}
    (hanswer : (s.send env r).1 = .ok x) : x.status ≠ 401 := by
  rw [send_of_faults hfaults, handle, htarget, hmethod] at hanswer
  dsimp only at hanswer
  unfold write at hanswer
  split at hanswer
  · dsimp only at hanswer
    rw [writeAt, get?_noted, hd, Option.all_some, mayModify_eq, hadmits] at hanswer
    dsimp only at hanswer
    split at hanswer
    · next h => cases h
    · split at hanswer <;> obtain rfl := Except.ok.inj hanswer <;> intro hstatus <;> cases hstatus
  · obtain rfl := Except.ok.inj hanswer
    intro hstatus
    cases hstatus

end Store

end TemplateShare
