import TemplateShare.Protection
import TemplateShare.RemoteDocument

/-! # Editing sessions

A session is a document that is being edited, with what is known of its copy in the store. The
texts of the active dataset live in the editor; they go back into the registry when another
dataset becomes active or a snapshot is taken.

* **`Session`**, **`SyncState`**, **`SyncRecord`**: the state, its stage with respect to the store,
  and what a file remembers of it.
* **`Session.snapshot`**: the document with the edits made so far.
* **Editing**: texts, datasets, pasting and protecting.
* **Loading and saving**: every load and every paste starts a new generation. A result that belongs
  to an earlier one changes nothing. -/

namespace TemplateShare

/-! ## State -/

/-- **How a session stands to its copy in the store.** -/
inductive SyncState where
  | unsaved
  | loading
  | loaded
  | accessDenied
  | notFound
  | failed
  | saving
  | saved
  | conflict
deriving DecidableEq, Repr

/-- The name of a state. -/
def SyncState.name : SyncState → String
  | .unsaved => "unsaved"
  | .loading => "loading"
  | .loaded => "loaded"
  | .accessDenied => "access denied"
  | .notFound => "not found"
  | .failed => "error"
  | .saving => "saving"
  | .saved => "saved"
  | .conflict => "conflict"

/-- **What a file remembers** of the copy in the store; no passwords. -/
structure SyncRecord where
  id : String
  revision : Nat
  hash : Option String := none
  isProtected : Bool := false
  updated : Option Instant := none
deriving DecidableEq, Repr

/-- What the user may do with the copy in the store. -/
structure Capabilities where
  canUpdate : Bool := false
  /-- Passwords can be set only where there are none. -/
  canProtect : Bool := false
deriving DecidableEq, Repr

/-- **A session.** -/
structure Session where
  registry : Registry := .initial
  /-- The texts of the active dataset as they are being edited. -/
  editor : Buffers := {}
  template : String := ""
  remoteId : Option String := none
  contentHash : Option String := none
  /-- A natural number, though what is read and sent has 64 bits: a file, an answer or a request
  with a larger one is refused. Counting on does not wrap, so that no statement on sessions alone
  needs a bound. One in which the document is read again after an update asks for
  `revision + 1 < Nat.pow 2 64`. -/
  revision : Nat := 0
  openPassword : Option String := none
  modifyPassword : Option String := none
  /-- The passwords that the next update is to set. -/
  pendingProtection : Option Protection := none
  dirty : Bool := false
  state : SyncState := .unsaved
  capabilities : Capabilities := {}
  /-- How many loads and pastes there have been. It is never read from anywhere and goes up by one,
  so that it would take `2 ^ 64` of them to leave the 64 bits that it has. -/
  generation : Nat := 0
  /-- The id that the user is pointed at. -/
  location : Option String := none
  updated : Option Instant := none
deriving DecidableEq, Repr, Inhabited

namespace Session

/-- Whether there is no copy in the store. -/
def isUnsaved (s : Session) : Bool := s.remoteId.isNone

/-- Whether changes are allowed by a password that has been accepted. -/
def hasModifyAccess (s : Session) : Bool := s.modifyPassword.any (!·.isEmpty)

/-- **The document** with the edits made so far. -/
def snapshot (s : Session) : DataTemplate := ⟨s.registry.setActive s.editor, s.template⟩

/-- Take over a document; its active dataset goes into the editor. -/
def adopt (s : Session) (dt : DataTemplate) : Session :=
  { s with registry := dt.registry, editor := dt.activeBuffers, template := dt.template }

/-- A session with a document of its own, in which nothing has changed. -/
def ofTemplate (dt : DataTemplate) : Session := ({} : Session).adopt dt

/-- A session with a document that is nowhere saved. -/
def unsaved (dt : DataTemplate) : Session := { ofTemplate dt with dirty := true }

/-- **A session with a document that has a copy in the store**, and whether it has changed. -/
def linked (dt : DataTemplate) (r : SyncRecord) (dirty : Bool) : Session :=
  { ofTemplate dt with
    location := some r.id
    remoteId := some r.id
    contentHash := r.hash
    revision := r.revision
    updated := r.updated
    capabilities := ⟨true, !r.isProtected⟩
    state := .loaded
    dirty }

/-- What a file is to remember, if there is a copy in the store. -/
def syncRecord (s : Session) : Option SyncRecord :=
  s.remoteId.map fun id =>
    { id, revision := s.revision, hash := s.contentHash,
      isProtected := !s.capabilities.canProtect, updated := s.updated }

@[simp] theorem snapshot_template (s : Session) : s.snapshot.template = s.template := rfl

@[simp] theorem snapshot_names (s : Session) : s.snapshot.registry.names = s.registry.names :=
  s.registry.setActive_names s.editor

@[simp] theorem snapshot_adopt (s : Session) (dt : DataTemplate) : (s.adopt dt).snapshot = dt :=
  congrArg (DataTemplate.mk · dt.template) dt.registry.setActive_self

@[simp] theorem snapshot_ofTemplate (dt : DataTemplate) : (ofTemplate dt).snapshot = dt :=
  snapshot_adopt {} dt

@[simp] theorem snapshot_linked (dt : DataTemplate) (r : SyncRecord) (dirty : Bool) :
    (linked dt r dirty).snapshot = dt := snapshot_adopt {} dt

/-! ## Editing -/

/-- Mark a session as changed. -/
def touch (s : Session) : Session := { s with dirty := true }

/-- Change the data of the active dataset. -/
def editData (s : Session) (text : String) : Session :=
  if s.editor.data = text then s else { s with editor := { s.editor with data := text } }.touch

/-- Change the variables of the active dataset. -/
def editVars (s : Session) (text : String) : Session :=
  if s.editor.vars = text then s else { s with editor := { s.editor with vars := text } }.touch

/-- Change the template. -/
def editTemplate (s : Session) (text : String) : Session :=
  if s.template = text then s else { s with template := text }.touch

/-- **Make a dataset active.** The edits so far are kept, or discarded if `persist` is false. -/
def switchDataset (s : Session) (name : String) (persist : Bool) :
    Except ValidationError Session :=
  (s.registry.switch name (if persist then some s.editor else none)).map fun r =>
    { s with registry := r, editor := r.active.buffers }

/-- **Add a blank dataset** and make it active; the edits so far are kept. -/
def addDataset (s : Session) (name : String) : Except ValidationError Session := do
  let r ← s.registry.add name
  let s ← { s with registry := r }.switchDataset name true
  return s.touch

/-- Remove a dataset. Where it is the active one, the edits so far belong to it. -/
def removeNow (s : Session) (name : String) :
    Except ValidationError Registry.Removal × Session :=
  -- The edits so far go with the active dataset, and are reported with it.
  let s :=
    if name = s.registry.activeName then { s with registry := s.registry.setActive s.editor }
    else s
  match s.registry.remove name with
  | .error e => (.error e, s)
  | .ok (removal, r) =>
    let editor := if removal.activeChanged then r.active.buffers else s.editor
    (.ok removal, { s with registry := r, editor }.touch)

/-- **A question to the user**, and what to do once they agree. -/
structure Question (α : Type) where
  prompt : String
  action : α
deriving DecidableEq, Repr

/-- **What an operation that may need consent comes to.** -/
inductive Decision (α β : Type) where
  | done (a : α)
  | ask (q : Question β)
deriving DecidableEq, Repr

/-- Whether a dataset holds nothing; for the active one the edits so far count. -/
def isBlankDataset (s : Session) (name : String) : Except ValidationError Bool :=
  if name = s.registry.activeName then .ok s.editor.isBlank
  else
    match s.registry.find? name with
    | some d => .ok d.buffers.isBlank
    | none => .error (.unknownDataset name)

/-- **Remove a dataset**, or ask first where it holds something. The answer to the question goes to
`removeNow` with the name. -/
def removeDataset (s : Session) (name : String) :
    Except ValidationError (Decision Registry.Removal String) × Session :=
  match s.isBlankDataset name with
  | .error e => (.error e, s)
  | .ok blank =>
    if s.registry.size = 1 then (.error .lastDataset, s)
    else if blank then
      let (result, s) := s.removeNow name
      (result.map .done, s)
    else
      (.ok (.ask ⟨"Are you sure Data Set '" ++ name ++ "' should be deleted?", name⟩), s)

/-- Forget the copy in the store and all that belongs to it. -/
def resetIdentity (s : Session) : Session :=
  { s with
    remoteId := none
    contentHash := none
    revision := 0
    openPassword := none
    modifyPassword := none
    pendingProtection := none
    location := none
    updated := none
    state := .unsaved
    capabilities := {} }

/-- **Replace the document** with a pasted one, which is nowhere saved. -/
def applyPasted (s : Session) (dt : DataTemplate) : Session :=
  { s.resetIdentity with generation := s.generation + 1 }.adopt dt |>.touch

/-- A session holds the document that has been pasted. -/
@[simp] theorem snapshot_applyPasted (s : Session) (dt : DataTemplate) :
    (s.applyPasted dt).snapshot = dt := snapshot_adopt {} dt

/-- Paste a document, or ask first where changes would be lost. -/
def paste (s : Session) (dt : DataTemplate) : Decision Unit DataTemplate × Session :=
  if s.dirty then
    (.ask ⟨"Unsaved changes will be lost. Replace with the pasted DataTemplate?", dt⟩, s)
  else (.done (), s.applyPasted dt)

/-- **Set passwords with the next update.** There must be a copy without passwords. -/
def protect (s : Session) (p : Protection) : Except ValidationError Session :=
  if s.isUnsaved then .error .noRemoteCopy
  else if !s.capabilities.canProtect then .error .protectUnavailable
  else
    .ok { s with pendingProtection := some p, openPassword := none, modifyPassword := none }.touch

/-! ## Loading -/

/-- The password to present when the document is fetched. -/
def fetchCredential (s : Session) : Option String := s.openPassword <|> s.modifyPassword

/-- The password to present when the document is updated. -/
def updateCredential (s : Session) : Option String := s.modifyPassword <|> s.openPassword

/-- **A load that has been started**: in which generation, and of what. -/
structure LoadTicket where
  generation : Nat
  id : String
deriving DecidableEq, Repr

/-- Start to load a document. -/
def beginLoad (s : Session) (id : String) : LoadTicket × Session :=
  (⟨s.generation + 1, id⟩,
    { s with generation := s.generation + 1, location := some id, state := .loading })

/-- **Take over a document** that has been fetched with a password, unless the ticket is of an
earlier generation. -/
def completeLoad (s : Session) (t : LoadTicket) (d : RemoteDocument) (password : Option String) :
    Session :=
  if s.generation ≠ t.generation then s
  else
    { s.adopt d.template with
      remoteId := some t.id
      location := some t.id
      contentHash := some d.hash
      revision := d.revision.getD 1
      updated := d.updated
      openPassword := password
      modifyPassword := none
      pendingProtection := none
      capabilities := ⟨true, !d.isProtected⟩
      dirty := false
      state := .loaded }

/-- A session holds the document that it has taken over. -/
theorem snapshot_completeLoad {s : Session} {t : LoadTicket} (h : s.generation = t.generation)
    (d : RemoteDocument) (password : Option String) :
    (s.completeLoad t d password).snapshot = d.template := by
  rw [completeLoad, if_neg (not_not_intro h)]
  exact s.snapshot_adopt d.template

/-- **Give up a load**, unless the ticket is of an earlier generation. The user is pointed back at
what was there before. -/
def abortLoad (s : Session) (t : LoadTicket) (state : SyncState) : Session :=
  if s.generation ≠ t.generation then s else { s with location := s.remoteId, state }

/-! ## Saving -/

/-- **A save that has been started**: in which generation, and in which state. -/
structure SaveTicket where
  generation : Nat
  prior : SyncState
deriving DecidableEq, Repr

/-- Start to save. -/
def beginSave (s : Session) : SaveTicket × Session :=
  (⟨s.generation, s.state⟩, { s with state := .saving })

/-- Whether a ticket is of the current generation. -/
def isCurrent (s : Session) (generation : Nat) : Bool := s.generation == generation

/-- Change the state, unless the ticket is of an earlier generation. -/
def markState (s : Session) (t : SaveTicket) (state : SyncState) : Session :=
  if s.isCurrent t.generation then { s with state } else s

/-- **A new copy is in the store.** -/
def completeCreate (s : Session) (id : String) (hash : Option String) (now : Instant) : Session :=
  { s with
    location := some id
    remoteId := some id
    contentHash := hash
    revision := 1
    updated := some now
    capabilities := ⟨true, true⟩
    dirty := false
    state := .saved }

/-- The passwords are set, or a password has been accepted that was not known so far. -/
def settlePasswords (s : Session) (presented : Option String) : Session :=
  match s.pendingProtection with
  | some p =>
    { s with
      pendingProtection := none
      capabilities := { s.capabilities with canProtect := false }
      openPassword := p.openPassword
      modifyPassword := p.modifyPassword }
  | none =>
    if presented.isSome ∧ s.updateCredential ≠ presented then { s with modifyPassword := presented }
    else s

/-- **The copy in the store has been updated** to a revision with a password. -/
def completeUpdate (s : Session) (revision : Nat) (hash presented : Option String)
    (now : Instant) : Session :=
  { s.settlePasswords presented with
    revision
    contentHash := hash <|> s.contentHash
    updated := some now
    dirty := false
    state := .saved }

end Session

end TemplateShare
