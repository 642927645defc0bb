import TemplateShare.Command.Copy
import TemplateShare.Link
import TemplateShare.Pasted
import TemplateShare.RenderPayload

/-! # Commands on working copies

* **`Command.listDatasets`**, **`Command.addDataset`**, **`Command.removeDataset`**
* **`Command.preview`**, **`Command.render`**: the data as a table, and what is to be rendered.
* **`Command.paste`**, **`Command.exportCopy`**, **`Command.showLink`**: from and to texts.
* **`Command.settings`**: show and change the settings. -/

namespace TemplateShare.Command

/-- The report of a session. -/
def reportOf (s : Session) : Report := { session := some s }

/-! ## Datasets -/

/-- **List the datasets.** -/
def listDatasets (path : String) : Procedure Report := do
  return reportOf (← openCopy path).2

/-- A message about a dataset. -/
def datasetMessage (name what : String) : String := "Data Set '" ++ name ++ "' " ++ what

/-- **Add a dataset.** -/
def addDataset (path name : String) : Procedure Report := do
  let (copy, s) ← openCopy path
  let s ← settle (liftValidation (s.addDataset name))
  storeCopy path copy s
  return (reportOf s).tell .success (datasetMessage name "added")

/-- **Remove a dataset**, after asking where it holds something. -/
def removeDataset (path name : String) : Procedure Report := do
  let (copy, s) ← openCopy path
  let (first, s) := s.removeDataset name
  let removed ← match ← settle (liftValidation first) with
    | .done _ => pure (some s)
    | .ask q =>
      if ← perform (confirm q.prompt) then
        let (second, s) := s.removeNow q.action
        let _ ← settle (liftValidation second)
        pure (some s)
      else pure none
  match removed with
  | none => return (reportOf s).tell .info (datasetMessage name "kept")
  | some s =>
    storeCopy path copy s
    return (reportOf s).tell .success (datasetMessage name "removed")

/-! ## Data -/

/-- Open a working copy and make a dataset active, or leave the first one active. -/
def openDataset (path : String) (dataset : Option String) : Procedure Session := do
  let (_, s) ← openCopy path
  match dataset with
  | none => return s
  | some name => settle (liftValidation (s.switchDataset name true))

/-- A message about rows that are too short or too long. -/
def mismatchMessage (p : Preview) : String :=
  toString p.mismatchedRows ++ " row(s) do not match the header (" ++
    toString p.header.length ++ " fields)"

/-- **Show the data of a dataset as a table.** -/
def preview (path : String) (dataset : Option String) : Procedure Report := do
  let s ← openDataset path dataset
  match Preview.ofData s.editor.data.toList with
  | none => return (reportOf s).tell .info "No Data"
  | some p =>
    let r := { reportOf s with preview := some p }
    return if 0 < p.mismatchedRows then r.tell .warning (mismatchMessage p) else r

/-- **Print what is to be rendered.** -/
def render (path : String) (dataset : Option String) : Procedure Report := do
  let s ← openDataset path dataset
  let payload ← settle (liftValidation (RenderPayload.build s))
  let r : Report := { output := some payload.text }
  return if payload.isVaulted then
      r.tell .warning "Variables contain vaulted values; the renderer will need a vault password"
    else r

/-! ## Texts -/

/-- **Print the link of a working copy**: to the copy in the store, or with the document in it. -/
def showLink (path linkBase : String) : Procedure Report := do
  let (copy, s) ← openCopy path
  match s.remoteId with
  | some id =>
    let r := if copy.isDirty then
        ({} : Report).tell .warning "Local changes are not in the linked copy yet; push first"
      else {}
    return { r with output := some (← settle (Link.remote linkBase id)) }
  | none => return { output := some (← settle (Link.inline linkBase s.snapshot)) }

/-- **Replace a working copy by a pasted document**, after asking where changes would be lost. The
result has no link. -/
def paste (text path : String) : Procedure Report := do
  -- The text is read before the file is looked at.
  let dt ← settle (liftEncoding (Pasted.parse text))
  let s : Session := match ← settle (existingCopy (← perform (load path))) with
    | some copy => copy.session
    | none => {}
  let pasted ← match s.paste dt with
    | (.done (), s) => pure (some s)
    | (.ask q, s) =>
      if ← perform (confirm q.prompt) then pure (some (s.applyPasted q.action)) else pure none
  match pasted with
  | none => return (reportOf s).tell .warning "Not Pasted"
  | some s =>
    saveCopy path (.ofSession s)
    return (reportOf s).tell .success ("Pasted DataTemplate into " ++ path)

/-- **The forms of an export.** -/
inductive ExportForm where
  /-- The portable document. -/
  | document (style : Portable.Style)
  /-- What is sent to the store. -/
  | wire
deriving DecidableEq, Repr

/-- **Print a working copy** without its link. -/
def exportCopy (path : String) (form : ExportForm) : Procedure Report := do
  let (_, s) ← openCopy path
  let text := match form with
    | .document style => Portable.render style s.snapshot
    | .wire => (Wire.encode s.snapshot).text
  return { output := some text }

/-! ## Settings -/

/-- The path of a file in a directory. -/
def inDirectory (directory name : String) : String :=
  if directory.isEmpty || directory.endsWith "/" then directory ++ name
  else directory ++ "/" ++ name

/-- The settings in a file that has been read; those at the start if there is no such file. -/
def settingsOf : Except FileError Bytes → Except Error Settings
  | .error e => if e.isAbsence then .ok {} else .error (.file e)
  | .ok content => do Settings.parse (← textOf (.ok content))

/-- **Read the settings** in a directory. -/
def loadSettings (directory : String) : Procedure Settings := do
  settle (settingsOf (← perform (load (inDirectory directory Settings.fileName))))

/-- **Write the settings** to a directory. -/
def saveSettings (directory : String) (s : Settings) : Procedure Unit :=
  saveText (inDirectory directory Settings.fileName) s.text

/-- What is to be done with the settings. -/
inductive SettingsAction where
  | showAll
  | show (key : String)
  | set (key value : String)
deriving DecidableEq, Repr

/-- **Show or change the settings.** A change that is not possible is a message, not a fault. -/
def settings (directory : String) (action : SettingsAction) : Procedure Report := do
  let s ← loadSettings directory
  match action with
  | .showAll => return { settings := some s }
  | .show key =>
    return match Settings.Key.ofName? key with
      | some k => ({} : Report).tell .info (s.get k)
      | none => ({} : Report).tell .error (Settings.Fault.key key).message
  | .set key value =>
    match s.setNamed key value with
    | .error f => return ({} : Report).tell .error f.message
    | .ok s =>
      saveSettings directory s
      let shown := ((Settings.Key.ofName? key).map s.get).getD value
      return ({ settings := some s } : Report).tell .success (key ++ " set to " ++ shown)

end TemplateShare.Command
