import TemplateShare.Command.Report
import TemplateShare.Sync
import TemplateShare.WorkingCopy

/-! # Working copies in commands

What commands have in common: they open the working copy at a path, write a session back to it,
and ask before something is lost or where the store wants a password.

* **`Procedure`**: a dialogue that a fault may end.
* **`Command.openCopy`**, **`Command.storeCopy`**: read and write working copies.
* **`Command.confirmReplace`**: ask before changes are lost.
* **`Command.fetchWithPrompt`**, **`Command.saveWithPrompt`**: exchanges with questions. -/

namespace TemplateShare

/-- **A dialogue that a fault may end.** -/
abbrev Procedure (α : Type) := ExceptT Error Dialogue α

namespace Command

/-! ## Steps -/

/-- Send nothing and ask nothing, but end if there is a fault. -/
def settle {α : Type} (x : Except Error α) : Procedure α := ExceptT.mk (.done x)

/-- A dialogue as part of a procedure. -/
def perform {α : Type} (d : Dialogue α) : Procedure α := ExceptT.mk (d.bind fun a => .done (.ok a))

/-- Ask the user to agree. -/
def confirm (question : String) : Dialogue Bool := .confirm question .done

/-- Ask the user for a password. -/
def askPassword (question : String) : Dialogue (Option String) := .askPassword question .done

/-- Read a file. -/
def load (path : String) : Dialogue (Except FileError Bytes) := .loadFile path .done

/-- The text of a file that has been read. -/
def textOf : Except FileError Bytes → Except Error String
  | .error e => .error (.file e)
  | .ok content =>
    match Utf8.decode content with
    | .ok text => .ok text
    | .error _ => .error (.file .notText)

/-- **Read the text of a file.** -/
def loadText (path : String) : Procedure String := do settle (textOf (← perform (load path)))

/-- **Write the text of a file.** -/
def saveText (path text : String) : Procedure Unit :=
  ExceptT.mk <| .saveFile path (Utf8.encode text) fun
    | .ok () => .done (.ok ())
    | .error e => .done (.error (.file e))

/-! ## Working copies -/

/-- **Read a working copy.** -/
def loadCopy (path : String) : Procedure WorkingCopy := do
  settle (liftEncoding (WorkingCopy.parse (← loadText path)))

/-- **Open a working copy**: read it, and start the session that it describes. -/
def openCopy (path : String) : Procedure (WorkingCopy × Session) := do
  let copy ← loadCopy path
  return (copy, copy.session)

/-- Write a working copy. -/
def saveCopy (path : String) (copy : WorkingCopy) : Procedure Unit := saveText path copy.render

/-- **Write a session back** to its working copy. -/
def storeCopy (path : String) (copy : WorkingCopy) (s : Session) : Procedure Unit :=
  saveCopy path (copy.updateFrom s)

/-- The working copy of a file that has been read, if there is such a file. -/
def existingCopy : Except FileError Bytes → Except Error (Option WorkingCopy)
  | .error e => if e.isAbsence then .ok none else .error (.file e)
  | .ok content => do
    return some (← liftEncoding (WorkingCopy.parse (← textOf (.ok content))))

/-- **Ask before a working copy with changes is replaced.** Where there is no file, or nothing has
changed in it, nothing is asked. -/
def confirmReplace (path : String) : Procedure Bool := do
  match ← settle (existingCopy (← perform (load path))) with
  | none => return true
  | some copy =>
    if copy.isDirty then
      perform (confirm ("Unsaved changes in " ++ path ++ " will be lost. Replace them?"))
    else return true

/-! ## Exchanges -/

/-- **Fetch a document, asking once for a password** if the store wants one. -/
def fetchWithPrompt (s : Session) (id : String) : Dialogue (Sync.Outcome Sync.LoadSummary) := do
  let (first, s) ← Sync.fetch s id
  let (outcome, s) ← match first with
    | .ok (.passwordRequired ticket) =>
      (askPassword ("Password for " ++ ticket.id)).bind (Sync.fetchWithPassword s ticket)
    | first => pure (first, s)
  match outcome with
  | .error e => return (.error e, s)
  | .ok (.loaded summary) => return (.ok summary, s)
  | .ok (.passwordRequired _) => return (.error .unauthorized, s)
  | .ok .discarded => return (.error (.transport "load was superseded"), s)

/-- The question for a password that allows changes. -/
def updateQuestion (p : Sync.UpdatePrompt) : String :=
  if p.rejected then "Password rejected. Modify password" else "Modify password"

/-- **Answer questions for a password** until the store accepts one or the user gives up. No more
than `attempts` questions are asked; a run that needs no more of them is the same under every larger
bound. -/
def saveWithPrompt (o : Sync.Options) :
    Nat → Session → Sync.SaveOutcome → Dialogue (Sync.Outcome Sync.SaveOutcome)
  | attempts + 1, s, .passwordRequired p =>
    .askPassword (updateQuestion p) fun answer =>
      (Sync.resumeUpdate o s p answer).bind fun
        | (.ok outcome, s) => saveWithPrompt o attempts s outcome
        | (.error e, s) => .done (.error e, s)
  | _, s, outcome => .done (.ok outcome, s)

end Command

end TemplateShare
