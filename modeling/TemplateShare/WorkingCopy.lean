import TemplateShare.Session
import TemplateShare.Yaml.Printer

/-! # Working copies

A working copy is a document in a file: the portable form, and, once there is a copy in the store, a
block that says which one.

    # dtlink DataTemplate

    ---
    dt:
      ...

    link:
      id: mI4xRz0aQk2b
      revision: 3
      hash: 9f86d0...
      protected: false
      synced: 2c26b4...

`synced` is the checksum of the document as it was last in step with the store. A file whose
document has another checksum is dirty. Passwords are never part of it.

* **`WorkingCopy.parse`**, **`WorkingCopy.render`**: from and to the text of a file.
* **`WorkingCopy.isDirty`**: whether the document has changed.
* **`WorkingCopy.session`**, **`WorkingCopy.updateFrom`**: to and from sessions. -/

namespace TemplateShare

/-- **A working copy.** -/
structure WorkingCopy where
  template : DataTemplate
  record : Option SyncRecord := none
  /-- The checksum of the document when it was last in step with the store. -/
  synced : Option String := none
deriving DecidableEq, Repr

/-- **The checksum of a document**: the hash of its portable form, in which white space at the end
of a text does not count. -/
def DataTemplate.checksum (dt : DataTemplate) : String := Sha256.hex (Portable.render .plain dt)

namespace WorkingCopy

/-! ## Reading -/

open Yaml in
/-- A text among the fields of a link. -/
def textField (es : List (String × Value)) (key : String) : Except Yaml.Error String := do
  match ← field es key with
  | .text s => .ok (String.ofList s)
  | _ => .error .shape

open Yaml in
/-- A text among the fields of a link that may be missing or null. -/
def textField? (es : List (String × Value)) (key : String) :
    Except Yaml.Error (Option String) := do
  match ← field? es key with
  | none | some .null => .ok none
  | some (.text s) => .ok (some (String.ofList s))
  | _ => .error .shape

open Yaml in
/-- The revision of a link. -/
def revisionField (es : List (String × Value)) : Except Yaml.Error Nat := do
  match ← field es "revision" with
  | .integer i => if 0 ≤ i ∧ i < Nat.pow 2 64 then .ok i.toNat else .error .shape
  | _ => .error .shape

open Yaml in
/-- Whether the copy in the store has a password; it has none where the link does not say. -/
def protectedField (es : List (String × Value)) : Except Yaml.Error Bool := do
  match ← field? es "protected" with
  | none => .ok false
  | some (.flag b) => .ok b
  | _ => .error .shape

/-- The time of the last update. -/
def updatedField (es : List (String × Yaml.Value)) : Except Yaml.Error (Option Instant) := do
  match ← textField? es "updated" with
  | none => .ok none
  | some t =>
    match Instant.parse t with
    | some i => .ok (some i)
    | none => .error .shape

open Yaml in
/-- **Read a link**: what is known of the copy in the store, and the checksum, which is any
scalar. -/
def readLink (d : Document) (n : Node) : Except Yaml.Error (SyncRecord × String) := do
  let es ← d.entries n
  -- All fields but the checksum are resolved, also those that nobody asks for.
  let values ← (es.filter (·.1 != "synced")).mapM fun (k, v) => do
    return (k, ← d.value .field 2 v)
  let synced ← field es "synced"
  let record : SyncRecord :=
    { id := ← textField values "id", revision := ← revisionField values,
      hash := ← textField? values "hash", isProtected := ← protectedField values,
      updated := ← updatedField values }
  return (record, ← d.text synced)

/-- **Read a working copy.** -/
def parse (text : String) : Except EncodingError WorkingCopy := do
  let template ← Portable.parse text
  let link ← Portable.ofYaml do
    let d ← Yaml.Document.parse text.toList
    d.optionalField (← d.entries d.root) "link" (readLink d)
  return { template, record := link.map (·.1), synced := link.map (·.2) }

/-! ## Writing -/

/-- A line of the link block, or the lines of a longer text. -/
def linkField (key value : String) : String := "  " ++ key ++ ": " ++ Yaml.Scalar.print 4 value

/-- A line of the link block, if there is a value. -/
def optionalLinkField (key : String) (value : Option String) : String :=
  (value.map (linkField key)).getD ""

/-- **The link block.** -/
def linkBlock (r : SyncRecord) (synced : String) : String :=
  "link:\n" ++ linkField "id" r.id ++
    "  revision: " ++ toString r.revision ++ "\n" ++ optionalLinkField "hash" r.hash ++
    "  protected: " ++ (if r.isProtected then "true" else "false") ++ "\n" ++
    optionalLinkField "updated" (r.updated.map Instant.render) ++ linkField "synced" synced

/-- **The text of a working copy.** The link is written only with a checksum. -/
def render (c : WorkingCopy) : String :=
  let document := Portable.render .plain c.template
  match c.record, c.synced with
  | some r, some s => document ++ "\n" ++ linkBlock r s
  | _, _ => document

/-! ## Sessions -/

/-- **Whether the document has changed** since it was last in step with the store. Without a link
it always has. -/
def isDirty (c : WorkingCopy) : Bool := c.synced != some c.template.checksum

/-- **The session of a working copy.** -/
def session (c : WorkingCopy) : Session :=
  match c.record with
  | some r => .linked c.template r c.isDirty
  | none => .unsaved c.template

/-- **Take over a session.** The checksum moves only when nothing is left to save. -/
def updateFrom (c : WorkingCopy) (s : Session) : WorkingCopy :=
  let template := s.snapshot
  { template
    record := s.syncRecord
    synced :=
      if s.isUnsaved then none
      else if s.dirty then c.synced
      else some template.checksum }

/-- The working copy of a session. -/
def ofSession (s : Session) : WorkingCopy := ({ template := {} } : WorkingCopy).updateFrom s

@[simp] theorem template_updateFrom (c : WorkingCopy) (s : Session) :
    (c.updateFrom s).template = s.snapshot := rfl

@[simp] theorem record_updateFrom (c : WorkingCopy) (s : Session) :
    (c.updateFrom s).record = s.syncRecord := rfl

end WorkingCopy

end TemplateShare
