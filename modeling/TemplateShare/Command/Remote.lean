import TemplateShare.Command.Copy
import TemplateShare.Link

/-! # Commands that talk to the store

* **`Command.pull`**, **`Command.openLink`**: from the store, or from a link, into a working copy.
* **`Command.push`**: from a working copy to the store.
* **`Command.protect`**: set passwords. -/

namespace TemplateShare.Command

/-- **What commands depend on**: how documents are saved, what links start with, and how often a
password may be asked for. -/
structure Context where
  options : Sync.Options
  linkBase : String
  attempts : Nat
deriving DecidableEq, Repr

/-! ## Loading -/

/-- The report of a command that has been declined before it did anything. -/
def notLoaded : Report := ({} : Report).tell .warning "Not Loaded"

/-- **Fetch a document** into a working copy. -/
def pull (id path : String) : Procedure Report := do
  if !(← confirmReplace path) then return notLoaded
  let (result, s) ← perform (fetchWithPrompt {} id)
  let summary ← settle result
  saveCopy path (.ofSession s)
  let r := ({ session := some s } : Report).tell .success
    ("Loaded " ++ summary.id ++ " into " ++ path)
  return if summary.isProtected then r.tell .info "Password protected" else r

/-- **Open a link**: fetch the document that it names, or unpack the one that it carries. -/
def openLink (link path : String) : Procedure Report := do
  match ← settle (Link.parse link) with
  | .remote id => pull id path
  | .inline dt =>
    if !(← confirmReplace path) then return notLoaded
    let s := Session.ofTemplate dt
    saveCopy path (.ofSession s)
    return ({ session := some s } : Report).tell .success
      ("Opened inline DataTemplate into " ++ path)

/-! ## Saving -/

/-- How a working copy is pushed. -/
structure PushOptions where
  /-- Create a new copy in the store even if there is one already. -/
  newLink : Bool := false
  /-- Overwrite a later revision without asking. -/
  force : Bool := false
deriving DecidableEq, Repr

/-- The working copy without its link. -/
def detached (copy : WorkingCopy) : WorkingCopy := { template := copy.template }

/-- What a save comes to, or the question whether to overwrite a later revision. -/
inductive PushStart where
  | saved (outcome : Sync.SaveOutcome)
  | conflict (q : Session.Question String)

/-- **Tell a conflict from other faults.** -/
def startPush (x : Except Error Sync.SaveOutcome) (s : Session) : Except Error PushStart :=
  match x with
  | .ok outcome => .ok (.saved outcome)
  | .error (.conflict _) => (liftValidation (Sync.requestOverwrite s)).map .conflict
  | .error e => .error e

/-- The working copy and the report after a save that the store accepted. -/
def pushed (ctx : Context) (path : String) (copy : WorkingCopy) (s : Session) (r : Report)
    (id text : String) : Procedure Report := do
  -- The link is made last: a base that is no URL is a fault after the file has been written.
  storeCopy path copy s
  let link ← settle (Link.remote ctx.linkBase id)
  return { r.tell .success text with output := some link, session := some s }

/-- **The end of a push**: answer questions for a password, and report what came of it. -/
def finishPush (ctx : Context) (path : String) (copy : WorkingCopy) (s : Session) (r : Report)
    (outcome : Sync.SaveOutcome) : Procedure Report := do
  let (result, s) ← perform (saveWithPrompt ctx.options ctx.attempts s outcome)
  let shown (r : Report) : Report := { r with session := some s }
  match ← settle result with
  | .created id => pushed ctx path copy s r id "Link Created"
  | .updated id revision =>
    pushed ctx path copy s r id ("Link Updated (revision " ++ toString revision ++ ")")
  | .noChanges => return shown (r.tell .info "No Changes Detected")
  | .notUpdated | .discarded | .passwordRequired _ => return shown (r.tell .warning "Not Updated")

/-- **Save a working copy to the store**: create a copy there, or update the one that is there. -/
def push (ctx : Context) (path : String) (o : PushOptions) : Procedure Report := do
  let (copy, s) ← openCopy path
  let copy := if o.newLink && !s.isUnsaved then detached copy else copy
  let (first, s) ← perform (Sync.save ctx.options copy.session)
  match ← settle (startPush first s) with
  | .saved outcome => finishPush ctx path copy s {} outcome
  | .conflict q =>
    let r := ({} : Report).tell .warning "Remote DataTemplate is a Later Revision"
    let agreed ← if o.force then pure true else perform (confirm q.prompt)
    if agreed then
      let (second, s) ← perform (Sync.overwrite ctx.options s q.action)
      finishPush ctx path copy s r (← settle second)
    else return { r.tell .warning "Not Updated" with session := some s }

/-- **Set passwords** on the copy in the store. Changes in the working copy go with them. -/
def protect (ctx : Context) (path : String) (p : Protection) : Procedure Report := do
  let (copy, s) ← openCopy path
  let s ← settle (liftValidation (s.protect p))
  let (first, s) ← perform (Sync.update ctx.options s)
  let (result, s) ← perform (saveWithPrompt ctx.options ctx.attempts s (← settle first))
  let shown (r : Report) : Report := { r with session := some s }
  match ← settle result with
  | .updated .. =>
    storeCopy path copy s
    let r := ({} : Report).tell .success "Passwords Set"
    return shown <|
      if p.modifyPassword.isNone then
        r.tell .info "The open password also protects against changes"
      else r
  | _ => return shown (({} : Report).tell .warning "Passwords Not Set")

end TemplateShare.Command
