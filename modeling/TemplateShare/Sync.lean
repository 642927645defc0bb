import TemplateShare.Dialogue
import TemplateShare.DocumentId
import TemplateShare.Session
import TemplateShare.Text.Gzip
import TemplateShare.Wire

/-! # Keeping a session and the store in step

How a session is loaded from the store and saved to it. Where the store wants a password, an
operation ends with a prompt, and the answer to the prompt goes on from there. A revision that the
store refuses as too old is a conflict; overwriting what is there is a step of its own, which the
user agrees to first.

* **`Sync.fetch`**, **`Sync.fetchWithPassword`**: load a document. A fetch is made of
  `Sync.beginFetch`, the exchange and `Sync.applyFetch`, between which other loads may start.
* **`Sync.create`**, **`Sync.update`**, **`Sync.save`**: save a session.
* **`Sync.resumeUpdate`**: go on with an update that wanted a password.
* **`Sync.requestOverwrite`**, **`Sync.overwrite`**: after a conflict. -/

namespace TemplateShare.Sync

/-- **How saving depends on its surroundings**: bodies of more octets than the threshold are packed,
and the time is that of the session's own clock. -/
structure Options where
  compressThreshold : Nat := 1024
  now : Instant
deriving DecidableEq, Repr

/-- What an operation on a session comes to, and the session after it. -/
abbrev Outcome (α : Type) := Except Error α × Session

/-! ## Fetching -/

/-- What is known of a document that has been loaded. -/
structure LoadSummary where
  id : String
  revision : Nat
  updated : Option Instant
  isProtected : Bool
deriving DecidableEq, Repr

/-- **What a fetch comes to.** -/
inductive FetchOutcome where
  | loaded (summary : LoadSummary)
  /-- The store wants a password for the load of the ticket. -/
  | passwordRequired (ticket : Session.LoadTicket)
  /-- The session has gone on to something else. -/
  | discarded
deriving DecidableEq, Repr

/-- **A fetch that has been started** and is not yet applied. -/
structure PendingFetch where
  ticket : Session.LoadTicket
  password : Option String
deriving DecidableEq, Repr

/-- The request for a document. -/
def fetchRequest (id : String) (password : Option String) : Request :=
  { method := .get, path := documentPath (some id) : Request }.withOptionalHeader Header.password
    password

/-- The request of a fetch. -/
def PendingFetch.request (p : PendingFetch) : Request := fetchRequest p.ticket.id p.password

/-- **Start a fetch.** A password that the session holds is presented only for the document that it
was accepted for. -/
def beginFetch (s : Session) (id : String) : Except Error (PendingFetch × Session) :=
  if DocumentId.isValid id then
    let password := if s.remoteId = some id then s.fetchCredential else none
    let (ticket, s) := s.beginLoad id
    .ok (⟨ticket, password⟩, s)
  else .error (.validation (.invalidRemoteId id))

/-- **Apply the reply to a fetch.** A refusal is a question for a password unless one was
presented. -/
def applyFetch (s : Session) (p : PendingFetch) (reply : Reply) : Outcome FetchOutcome :=
  let t := p.ticket
  if s.generation ≠ t.generation then (.ok .discarded, s)
  else
    match reply with
    | .error e => (.error (.transport e.message), s.abortLoad t .failed)
    | .ok r =>
      match r.status with
      | 200 =>
        match RemoteDocument.parse r.body with
        | .error e => (.error (.encoding e), s.abortLoad t .failed)
        | .ok d =>
          (.ok (.loaded ⟨t.id, d.revision.getD 1, d.updated, d.isProtected⟩),
            s.completeLoad t d p.password)
      | 401 =>
        -- A password that was presented and refused is not asked for once more.
        match p.password with
        | none => (.ok (.passwordRequired t), s)
        | some _ => (.error .unauthorized, s.abortLoad t .accessDenied)
      | 403 => (.error .forbidden, s.abortLoad t .accessDenied)
      | 404 => (.error (.notFound t.id), s.abortLoad t .notFound)
      | status => (.error (.http status r.reason), s.abortLoad t .failed)

/-- **Fetch a document.** -/
def fetch (s : Session) (id : String) : Dialogue (Outcome FetchOutcome) :=
  match beginFetch s id with
  | .error e => .done (.error e, s)
  | .ok (p, s) => .exchange p.request fun reply => .done (applyFetch s p reply)

/-- **Answer the question for a password.** A blank answer gives the load up. -/
def fetchWithPassword (s : Session) (t : Session.LoadTicket) (answer : Option String) :
    Dialogue (Outcome FetchOutcome) :=
  if s.generation ≠ t.generation then .done (.ok .discarded, s)
  else
    match Password.answer answer with
    | none => .done (.error .unauthorized, s.abortLoad t .accessDenied)
    | some password =>
      let p : PendingFetch := ⟨t, some password⟩
      .exchange p.request fun reply => .done (applyFetch s p reply)

/-! ## Saving -/

/-- **An update that wants a password**: of which save, to which revision, and whether a password
has been refused. -/
structure UpdatePrompt where
  ticket : Session.SaveTicket
  revision : Nat
  rejected : Bool
deriving DecidableEq, Repr

/-- **What a save comes to.** -/
inductive SaveOutcome where
  | created (id : String)
  | updated (id : String) (revision : Nat)
  /-- Nothing has changed, so nothing was sent. -/
  | noChanges
  | passwordRequired (prompt : UpdatePrompt)
  /-- The question for a password was given up. -/
  | notUpdated
  /-- The session has gone on to something else. -/
  | discarded
deriving DecidableEq, Repr

/-- **The request that writes a session**, to its document or as a new one. -/
def writeRequest (o : Options) (s : Session) (id : Option String) : Request :=
  let body := Utf8.encode (Wire.encode s.snapshot).text
  let r : Request :=
    { method := .post, path := documentPath id,
      headers := [(Header.contentType, "application/json")] }
  if o.compressThreshold < body.length then
    { r.withHeader Header.contentEncoding "gzip" with body := Gzip.compress body }
  else { r with body }

/-- The id and the hash of an answer to a write: `id:hash` or `id`. -/
def parseAnswer (body : String) : Except Error (String × Option String) :=
  let cs := (Text.trim body).toList
  let id := String.ofList (cs.takeWhile (· != ':'))
  let hash := (cs.dropWhile (· != ':')).drop 1
  if DocumentId.isValid id then
    .ok (id, if hash.isEmpty then none else some (String.ofList hash))
  else .error (.validation (.invalidRemoteId id))

/-- **A save that the store refused**, with the state that it leaves. -/
def refused (s : Session) (t : Session.SaveTicket) (r : Response) (id : Option String) :
    Error × Session :=
  match r.status, id with
  | 409, _ => (.conflict s.revision, s.markState t .conflict)
  | 401, _ => (.unauthorized, s.markState t .accessDenied)
  | 403, _ => (.forbidden, s.markState t .accessDenied)
  | 404, some id => (.notFound id, s.markState t .notFound)
  | status, _ => (.http status r.reason, s.markState t .failed)

/-- The outcome of a refused save. -/
def failed {α : Type} (e : Error × Session) : Outcome α := (.error e.1, e.2)

/-- **Apply the reply to a creation.** -/
def applyCreate (o : Options) (s : Session) (t : Session.SaveTicket) (reply : Reply) :
    Outcome SaveOutcome :=
  match reply with
  | .error e => (.error (.transport e.message), s.markState t .failed)
  | .ok r =>
    if r.status = 200 then
      -- An answer that cannot be read leaves the state at saving.
      match parseAnswer r.body with
      | .error e => (.error e, s)
      | .ok (id, hash) =>
        if s.isCurrent t.generation then (.ok (.created id), s.completeCreate id hash o.now)
        else (.ok .discarded, s)
    else failed (refused s t r none)

/-- **Create a copy in the store.** -/
def create (o : Options) (s : Session) : Dialogue (Outcome SaveOutcome) :=
  let (t, s') := s.beginSave
  .exchange (writeRequest o s none) fun reply => .done (applyCreate o s' t reply)

/-- The request that updates a document to a revision. -/
def updateRequest (o : Options) (s : Session) (id : String) (revision : Nat)
    (password : Option String) : Request :=
  let r := writeRequest o s (some id)
  let r := { r with query := r.query ++ [("rev", toString revision)] }
  let r := (r.withHeader Header.revision (toString revision)).withOptionalHeader Header.password
    password
  match s.pendingProtection with
  | none => r
  | some p =>
    (r.withOptionalHeader Header.openPassword p.openPassword).withOptionalHeader
      Header.modifyPassword p.modifyPassword

/-- **Apply the reply to an update.** -/
def applyUpdate (o : Options) (s : Session) (t : Session.SaveTicket) (id : String)
    (revision : Nat) (password : Option String) (reply : Reply) : Outcome SaveOutcome :=
  match reply with
  | .error e => (.error (.transport e.message), s.markState t .failed)
  | .ok r =>
    match r.status with
    | 200 =>
      match parseAnswer r.body with
      | .error e => (.error e, s)
      | .ok (_, hash) =>
        if s.isCurrent t.generation then
          (.ok (.updated id revision), s.completeUpdate revision hash password o.now)
        else (.ok .discarded, s)
    | 401 => (.ok (.passwordRequired ⟨t, revision, password.isSome⟩), s)
    | _ => failed (refused s t r (some id))

/-- **Send an update** of the session's document to a revision. -/
def sendUpdate (o : Options) (s : Session) (t : Session.SaveTicket) (revision : Nat)
    (password : Option String) : Dialogue (Outcome SaveOutcome) :=
  match s.remoteId with
  | none => .done (.error (.validation .noRemoteCopy), s)
  | some id =>
    .exchange (updateRequest o s id revision password) fun reply =>
      .done (applyUpdate o s t id revision password reply)

/-- **Update the copy in the store** to the next revision. Where nothing has changed, nothing is
sent. -/
def update (o : Options) (s : Session) : Dialogue (Outcome SaveOutcome) :=
  if s.isUnsaved then .done (.error (.validation .noRemoteCopy), s)
  else if !s.dirty then .done (.ok .noChanges, s)
  else
    let (t, s') := s.beginSave
    sendUpdate o s' t (s.revision + 1) s.updateCredential

/-- **Save a session**: create a copy where there is none, else update it. -/
def save (o : Options) (s : Session) : Dialogue (Outcome SaveOutcome) :=
  if s.isUnsaved then create o s else update o s

/-- **Answer the question for a password.** A blank answer gives the update up. -/
def resumeUpdate (o : Options) (s : Session) (p : UpdatePrompt) (answer : Option String) :
    Dialogue (Outcome SaveOutcome) :=
  if !s.isCurrent p.ticket.generation then .done (.ok .discarded, s)
  else
    match Password.answer answer with
    | some password => sendUpdate o s p.ticket p.revision (some password)
    | none => .done (.ok .notUpdated, s.markState p.ticket p.ticket.prior)

/-! ## Overwriting -/

/-- **Ask whether to overwrite** a later revision. The action is the id of the document. -/
def requestOverwrite (s : Session) : Except ValidationError (Session.Question String) :=
  match s.remoteId with
  | none => .error .noRemoteCopy
  | some id =>
    if s.state = .conflict then
      .ok ⟨"Remote DataTemplate is a Later Revision. Overwrite it with your version?", id⟩
    else .error .noConflict

/-- The revision that the store holds, from its reply to a fetch. -/
def heldRevision (id : String) (reply : Reply) : Except Error Nat :=
  match reply with
  | .error e => .error (.transport e.message)
  | .ok r =>
    match r.status with
    | 200 =>
      match RemoteDocument.parse r.body with
      | .error e => .error (.encoding e)
      | .ok d => .ok (d.revision.getD 1)
    | 401 => .error .unauthorized
    | 403 => .error .forbidden
    | 404 => .error (.notFound id)
    | status => .error (.http status r.reason)

/-- **Overwrite a later revision**: look up which one the store holds, and update to the one after
it. -/
def overwrite (o : Options) (s : Session) (id : String) : Dialogue (Outcome SaveOutcome) :=
  if s.remoteId ≠ some id then .done (.error (.validation .noConflict), s)
  else
    .exchange (fetchRequest id s.fetchCredential) fun reply =>
      match heldRevision id reply with
      | .error e => .done (.error e, s)
      | .ok held =>
        let (t, s') := s.beginSave
        sendUpdate o s' t (held + 1) s.updateCredential

end TemplateShare.Sync
