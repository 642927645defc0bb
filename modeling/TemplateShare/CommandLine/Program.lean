import TemplateShare.Clipboard
import TemplateShare.CommandLine.Arguments
import TemplateShare.CommandLine.Table
import TemplateShare.Endpoint
import TemplateShare.Time.Elapsed

/-! # The program

What happens when an order is given on the command line: the settings are read, the order is carried
out, and its report is printed.

* **`Environment`**: what is known before.
* **`Setup`**, **`Setup.prepare`**: the settings in force and the address of the store.
* **`Printed`**, **`Setup.perform`**: what an order prints, and the fault that ends it. -/

namespace TemplateShare.CommandLine

/-! ## Surroundings -/

/-- **What is known before an order is carried out.** -/
structure Environment where
  /-- Where the settings are. -/
  settingsDirectory : String
  /-- The store, where the arguments do not say. -/
  serverVariable : Option String := none
  /-- Whether the user can be asked. -/
  hasTerminal : Bool := false
  /-- What can be read if the order asks for it. -/
  input : Bytes := []
  now : Instant
  /-- How the tools for the clipboard end. -/
  toolStatus : Clipboard.Tool → Option Nat := fun _ => none

/-- **Where the settings are**: in the directory that a variable names, or in one of the program's own
below the directory for settings, which is an absolute path or below the home directory. -/
def settingsDirectory (explicit shared home : Option String) : Except Error String :=
  match explicit with
  | some directory => .ok directory
  | none =>
    let own (directory : String) : String := Command.inDirectory directory "dtlink"
    match shared.filter (·.startsWith "/"), home.filter (!·.isEmpty) with
    | some directory, _ => .ok (own directory)
    | none, some directory => .ok (own (Command.inDirectory directory ".config"))
    | none, none => .error (.config "Could not determine config dir")

/-- **The settings in force**, and the address of the store. -/
structure Setup where
  settings : Settings
  endpoint : Endpoint

/-- **Read the settings.** Those that cannot be read count for nothing. The store of the arguments
goes before that of the environment, and that before that of the settings. -/
def Setup.prepare (env : Environment) (server : Option String) : Dialogue (Except Error Setup) := do
  let path := Command.inDirectory env.settingsDirectory Settings.fileName
  let stored := ((Command.settingsOf (← Command.load path)).toOption).getD {}
  let settings := stored.withServer (server <|> env.serverVariable)
  return (Endpoint.ofText settings.serverUrl).map fun endpoint => ⟨settings, endpoint⟩

/-- **Ask nothing.** Passwords are given up, and nothing is agreed to. -/
def declined {α : Type} : Dialogue α → Dialogue α
  | .done a => .done a
  | .exchange r next => .exchange r fun x => declined (next x)
  | .askPassword _ next => declined (next none)
  | .confirm _ next => declined (next false)
  | .loadFile p next => .loadFile p fun x => declined (next x)
  | .saveFile p c next => .saveFile p c fun x => declined (next x)

/-! ## Printing -/

/-- **What an order prints**, the fault that ends it, and the text that tools were given for the
clipboard. -/
structure Printed where
  lines : List String := []
  fault : Option Error := none
  copied : Option (String × List Clipboard.Tool) := none

namespace Printed

/-- What goes to the output. -/
def output (p : Printed) : String := String.join (p.lines.map (· ++ "\n"))

/-- What goes to the place for complaints. -/
def complaint (p : Printed) : String :=
  match p.fault with
  | some e => "Error: " ++ e.message ++ "\n"
  | none => ""

/-- How the program ends. -/
def exitCode (p : Printed) : Nat := if p.fault.isSome then 1 else 0

end Printed

/-- The lines of the messages. -/
def messageLines (r : Report) : List String := r.messages.map (·.text)

/-- The line of the output, without white space at its end. -/
def outputLines (r : Report) : List String := (r.output.map Text.trimEnd).toList

/-- The line about the copy in the store, if there is one. -/
def statusLines (now : Instant) (r : Report) : List String :=
  match r.session with
  | some s =>
    if s.isUnsaved then []
    else
      let updated := match s.updated with
        | some t => " / Updated " ++ Elapsed.since t now
        | none => ""
      ["Revision " ++ toString s.revision ++ updated]
  | none => []

/-- The lines of a list of datasets. The active one has a star. -/
def datasetLines (r : Report) : List String :=
  match r.session with
  | some s =>
    s.registry.names.map fun n => (if n = s.registry.activeName then "* " else "  ") ++ n
  | none => []

/-- The lines of a table. -/
def tableLines (r : Report) : List String :=
  match r.preview with
  | some p => (Table.lines .unicode p).map String.ofList
  | none => []

/-- The lines of all settings. -/
def settingsLines (r : Report) : List String :=
  match r.settings with
  | some s => Settings.Key.all.map fun k => k.name ++ " = " ++ s.get k
  | none => []

/-- **The lines of a report** on an order. -/
def reportLines (now : Instant) (order : Order) (r : Report) : List String :=
  match order with
  | .pull .. | .push .. | .protect .. | .openLink .. | .paste .. =>
    messageLines r ++ statusLines now r ++ outputLines r
  | .listDatasets .. => datasetLines r ++ messageLines r
  | .addDataset .. | .removeDataset .. => messageLines r
  | .preview .. => tableLines r ++ messageLines r
  | .render .. | .showLink .. => outputLines r ++ messageLines r
  | .exportCopy .. => outputLines r
  | .settings .. => if r.messages.isEmpty then settingsLines r else messageLines r

/-! ## Orders -/

/-- What the user is told before passwords are set. -/
def protectHint : String := "Leave a password empty to not set it."

/-- Ask for a password twice, but not again for an empty one. -/
def askTwice (label : String) : Dialogue (String × String) := do
  let entry := (← Command.askPassword label).getD ""
  if entry.isEmpty then return ("", "")
  return (entry, (← Command.askPassword (label ++ " (again)")).getD "")

/-- **Ask for the passwords that are to be set.** -/
def askProtection : Dialogue (Except ValidationError Protection) := do
  let (open₁, open₂) ← askTwice "Open password"
  let (modify₁, modify₂) ← askTwice "Modify password"
  return Protection.ofEntries open₁ open₂ modify₁ modify₂

/-- The prompt for a password, after which nothing of the answer is shown. -/
def passwordPrompt (question : String) : String := question ++ ": "

/-- The prompt for agreement. -/
def agreementPrompt (question : String) : String := question ++ " [y/N]: "

/-- **Whether an answer agrees**: `y` or `yes`, in any case. -/
def agrees (answer : String) : Bool :=
  let lower := String.ofList ((Text.trim answer).toList.map Char.toLower)
  lower = "y" || lower = "yes"

/-- How often a password may be asked for. -/
def attempts : Nat := 1000

/-- What commands depend on. -/
def Setup.context (s : Setup) (now : Instant) : Command.Context :=
  { options := { compressThreshold := s.settings.compressThreshold, now },
    linkBase := s.settings.linkBase, attempts }

/-- **A procedure that asks nothing** where nobody can or wants to be asked. -/
def quietly {α : Type} (env : Environment) (i : Invocation) (p : Procedure α) : Procedure α :=
  ExceptT.mk (if env.hasTerminal && !i.noInput then p.run else declined p.run)

/-- The text that is to be pasted: of a file, or of the input. -/
def pastedText (env : Environment) : Option String → Procedure String
  | some file => Command.loadText file
  | none => Command.settle (Command.textOf (.ok env.input))

/-- **Set passwords**, which only a user at a terminal can do. -/
def Setup.protect (s : Setup) (env : Environment) (i : Invocation) (path : String) :
    Procedure Report := do
  if !env.hasTerminal then
    throw (Error.config "Setting passwords needs an interactive terminal")
  -- The passwords to set are asked for even where all other questions are declined.
  let p ← Command.settle (liftValidation (← Command.perform askProtection))
  quietly env i (Command.protect (s.context env.now) path p)

/-- **The procedure of an order.** -/
def Setup.procedure (s : Setup) (env : Environment) (i : Invocation) : Procedure Report :=
  let ctx := s.context env.now
  match i.order with
  | .pull id path => quietly env i (Command.pull id path)
  | .push path options => quietly env i (Command.push ctx path options)
  | .protect path => s.protect env i path
  | .listDatasets path => Command.listDatasets path
  | .addDataset path name => Command.addDataset path name
  | .removeDataset path name => quietly env i (Command.removeDataset path name)
  | .preview path dataset => Command.preview path dataset
  | .render path dataset => Command.render path dataset
  | .showLink path => Command.showLink path ctx.linkBase
  | .openLink link path => quietly env i (Command.openLink link path)
  | .paste path source => do
    let text ← pastedText env source
    quietly env i (Command.paste text path)
  | .exportCopy path form _ =>
    Command.exportCopy path (form.getD (.document s.settings.exportStyle))
  | .settings action => Command.settings env.settingsDirectory action

/-- What is printed before an order is carried out. -/
def firstLines (env : Environment) : Order → List String
  | .protect _ => if env.hasTerminal then [protectHint] else []
  | _ => []

/-- Print a report, or give its output to the clipboard. -/
def present (env : Environment) (order : Order) (r : Report) : Printed :=
  match order, r.output with
  | .exportCopy _ _ true, some text =>
    let prepared := Clipboard.prepare text
    match Clipboard.copy env.toolStatus with
    | (.ok (), ran) => { lines := ["Copied to clipboard"], copied := some (prepared, ran) }
    | (.error e, ran) => { fault := some e, copied := some (prepared, ran) }
  | _, _ => { lines := reportLines env.now order r }

/-- **Carry out an order.** -/
def Setup.perform (s : Setup) (env : Environment) (i : Invocation) : Dialogue Printed := do
  let first := firstLines env i.order
  match ← (s.procedure env i).run with
  | .error e => return { lines := first, fault := some e }
  | .ok r =>
    let p := present env i.order r
    return { p with lines := first ++ p.lines }

end TemplateShare.CommandLine
