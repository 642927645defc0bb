import TemplateShare.DocumentId
import TemplateShare.Exchange
import TemplateShare.RemoteDocument
import TemplateShare.Text.Gzip
import TemplateShare.Wire

/-! # A store in memory

The store keeps documents by id and answers requests. It gives out ids, checks revisions, and
guards documents with their passwords, of which it keeps only hashes. Faults can be put in front
of it to stand for a dead network or for any status.

* **`Store`**, **`Store.Document`**: what it keeps.
* **`Store.Setting`**: the ids that it draws and what its clock shows.
* **`Store.handle`**: the answer to a request.
* **`Store.send`**: the same, with faults. -/

namespace TemplateShare

/-! ## What the store keeps -/

/-- **What a store depends on** besides its requests: the ids it draws, in order, and the seconds
that its clock shows. -/
structure Store.Setting where
  idAt : Nat → String
  clock : Int

/-- **A document in the store**: its text, as it is handed out, with the revision and the hashes of
the passwords that the store looks at. -/
structure Store.Document where
  text : String
  revision : Nat
  openHash : Option String := none
  modifyHash : Option String := none
deriving DecidableEq, Repr

/-- What happens instead of an answer. -/
inductive Store.Fault where
  | timeout
  | network
  | status (code : Nat)
deriving DecidableEq, Repr

/-- **A store**: documents by id, how many ids have been drawn, the faults to come and the requests
so far. -/
structure Store where
  documents : List (String × Store.Document) := []
  drawn : Nat := 0
  faults : List Store.Fault := []
  requests : List Request := []
deriving DecidableEq, Repr, Inhabited

namespace Store

namespace Document

/-- The hash of a document, as its text names it. -/
def hash (d : Document) : String := RemoteDocument.namedHash d.text

/-- The hash of the password that guards changes, if there is one. -/
def guard? (d : Document) : Option String := d.modifyHash <|> d.openHash

/-- Whether a password is set. -/
def isProtected (d : Document) : Bool := d.openHash.isSome || d.modifyHash.isSome

/-- A document as it is written as a revision. -/
def write (env : Setting) (dt : DataTemplate) (revision : Nat)
    (openHash modifyHash : Option String) : Document :=
  { text := RemoteDocument.print dt revision (RemoteDocument.hashOf dt revision) openHash modifyHash
      env.clock,
    revision, openHash, modifyHash }

/-- **A document at the next revision**, which is changed in the text where it stands. -/
def raise (d : Document) : Document :=
  { d with
    text := RemoteDocument.revise d.revision (d.revision + 1) d.text,
    revision := d.revision + 1 }

end Document

/-- The document under an id. -/
def get? (s : Store) (id : String) : Option Document := s.documents.lookup id

/-- Whether there is a document under an id. -/
def contains (s : Store) (id : String) : Bool := (s.get? id).isSome

/-- The store with a document under an id. -/
def put (s : Store) (id : String) (d : Document) : Store :=
  { s with documents := Assoc.insert id d s.documents }

@[simp] theorem get?_put_self (s : Store) (id : String) (d : Document) :
    (s.put id d).get? id = some d := by
  simp [put, get?]

theorem get?_put_of_ne {id id' : String} (h : id' ≠ id) (s : Store) (d : Document) :
    (s.put id d).get? id' = s.get? id' := by
  simp [put, get?, Assoc.lookup_insert_of_ne h]

/-! ## Answers -/

/-- **The hash of a password**, salted with the id of its document. -/
def passwordHash (id password : String) : String := Sha256.hex (id ++ ":" ++ password)

/-- An answer that is nothing but a status. -/
def statusResponse (code : Nat) : Response :=
  ⟨code, toString code ++ " " ++ statusPhrase code ++ "\r\n", none⟩

/-- An answer of success. -/
def okResponse (body : String) : Response := ⟨200, body, some "OK"⟩

/-- **What a path names**: the place for new documents, or a document. -/
inductive Target where
  | collection
  | document (id : String)
deriving DecidableEq, Repr

/-- What a path names, if anything. -/
def target? (path : String) : Option Target :=
  if path = documentPath none then some .collection
  else
    let place := (documentPath (some "")).toList
    if place.isPrefixOf path.toList then
      let id := String.ofList (path.toList.drop place.length)
      if DocumentId.isValid id then some (.document id) else none
    else none

/-- **Answer a request for a document.** With a password for opening, either password opens it. -/
def fetch (id : String) (r : Request) (s : Store) : Response :=
  match s.get? id with
  | none => statusResponse 404
  | some d =>
    match d.openHash with
    | none => okResponse d.text
    | some o =>
      match r.header? Header.password with
      | none => statusResponse 401
      | some p =>
        let h := passwordHash id p
        if h = o ∨ d.modifyHash = some h then okResponse d.text else statusResponse 403

/-- The text of a body, unpacked. -/
def bodyText? (r : Request) : Option String :=
  let isPacked := (r.header? Header.contentEncoding).any (Header.same "gzip")
  let body := if isPacked then Gzip.decompress r.body else some r.body
  body.bind fun b => (Utf8.decode b).toOption

/-- The document of a body. -/
def bodyDocument? (r : Request) : Option DataTemplate := do
  let p ← (Wire.parse (← bodyText? r)).toOption
  p.decode.toOption

/-- The revision that a request is to become, one where it does not say. -/
def requestedRevision? (r : Request) : Option Nat :=
  match r.header? Header.revision with
  | none => some 1
  | some v => Decimal.below? (Nat.pow 2 64) (Text.trim v).toList

/-- Whether a request may change a document: it presents the password that guards changes. -/
def mayModify (id : String) (r : Request) (d : Document) : Bool :=
  match d.guard? with
  | none => true
  | some g =>
    match r.header? Header.password with
    | none => false
    | some p => passwordHash id p = g

/-- **The passwords of a document after a request**: those that it sets, else those from before. -/
def passwordsAfter (id : String) (r : Request) (before : Option Document) :
    Option String × Option String :=
  let o := r.header? Header.openPassword
  let m := r.header? Header.modifyPassword
  if o.isSome || m.isSome then (o.map (passwordHash id), m.map (passwordHash id))
  else ((before.bind (·.openHash)), (before.bind (·.modifyHash)))

/-- Write a document under an id that may be in use. The password counts before the revision. -/
def writeAt (env : Setting) (id : String) (r : Request) (dt : DataTemplate) (revision : Nat)
    (answer : Document → String) (s : Store) : Response × Store :=
  let before := s.get? id
  -- The password is checked first, so that a refusal says nothing about the revision.
  if !before.all (mayModify id r) then (statusResponse 401, s)
  else if before.any (revision ≤ ·.revision) then (statusResponse 409, s)
  else
    let (o, m) := passwordsAfter id r before
    let d := Document.write env dt revision o m
    (okResponse (answer d), s.put id d)

/-- **Answer a request to write** a new document or a new revision. -/
def write (env : Setting) (target : Target) (r : Request) (s : Store) : Response × Store :=
  match bodyDocument? r, requestedRevision? r with
  | some dt, some revision =>
    match target with
    | .document id =>
      writeAt env id r dt revision (fun d => id ++ ":" ++ d.hash ++ "\r\n") s
    | .collection =>
      let id := env.idAt s.drawn
      writeAt env id r dt revision (fun _ => id ++ "\r\n") { s with drawn := s.drawn + 1 }
  | _, _ => (statusResponse 400, s)

/-- **Answer a request.** -/
def handle (env : Setting) (r : Request) (s : Store) : Response × Store :=
  match target? r.path, r.method with
  | none, _ => (statusResponse 404, s)
  | some (.document id), .get => (fetch id r s, s)
  | some .collection, .get => (statusResponse 404, s)
  | some t, .post => write env t r s

/-- What becomes of a request when a fault meets it. -/
def Fault.reply : Fault → Reply
  | .timeout => .error .timeout
  | .network => .error (.network "connection refused")
  | .status code => .ok (statusResponse code)

/-- **Take a request.** It is logged; the next fault, if any, replies in place of the store. -/
def send (env : Setting) (r : Request) (s : Store) : Reply × Store :=
  let s := { s with requests := s.requests ++ [r] }
  match s.faults with
  | f :: fs => (f.reply, { s with faults := fs })
  | [] => let (x, s) := s.handle env r; (.ok x, s)

/-! ## Behind the scenes -/

/-- Put a document into the store without a request. -/
def seed (env : Setting) (id : String) (dt : DataTemplate) (revision : Nat)
    (openPassword modifyPassword : Option String) (s : Store) : Store :=
  s.put id <| Document.write env dt revision (openPassword.map (passwordHash id))
    (modifyPassword.map (passwordHash id))

/-- Raise the revision of a document, as if another client had saved it. -/
def bump (id : String) (s : Store) : Option Nat × Store :=
  match s.get? id with
  | none => (none, s)
  | some d => (some d.raise.revision, s.put id d.raise)

/-- Let a fault meet a later request. -/
def inject (f : Fault) (s : Store) : Store := { s with faults := s.faults ++ [f] }

end Store

end TemplateShare
