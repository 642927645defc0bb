import TemplateShare.Command.Local
import TemplateShare.Command.Remote

/-! # Arguments

How a user names a command: words for commands, values in order, and switches, of which some take a
value. A switch may be given once. Behind `--` everything is a value.

* **`Level`**: which switches and values may follow the word for a command, and which words.
* **`Level.read`**: the arguments of a level.
* **`Invocation`**, **`Invocation.ofArguments`**: what the arguments ask for. -/

namespace TemplateShare.CommandLine

/-! ## Levels -/

/-- **Why arguments ask for nothing.** -/
inductive Usage where
  /-- They ask how to ask. -/
  | help
  | version
  /-- They make no sense. -/
  | fault
deriving DecidableEq, Repr

/-- What a value is. The path of a file may not be empty. -/
inductive Kind where
  | text
  | path
deriving DecidableEq, Repr

/-- Whether a value is of a kind. -/
def Kind.admits (k : Kind) (value : String) : Bool := k = .text || !value.isEmpty

/-- **A switch**: its name, its letter, and what value it takes, if any. -/
structure Switch where
  name : String
  letter : Option Char := none
  value : Option Kind := none
deriving DecidableEq, Repr

/-- **A level of arguments**: its switches, its values in order, and the words that lead on. -/
structure Level where
  switches : List Switch
  values : List Kind := []
  words : List String := []
deriving DecidableEq, Repr

/-- **What has been read** of a level. A switch without a value has an empty one. -/
structure Found where
  switches : List (String × String) := []
  values : List String := []
deriving DecidableEq, Repr

namespace Found

/-- Whether a switch has been given. -/
def has (f : Found) (name : String) : Bool := (f.switches.lookup name).isSome

/-- The value of a switch. -/
def value? (f : Found) (name : String) : Option String := f.switches.lookup name

/-- Add a switch, which may be given once. -/
def addSwitch (f : Found) (s : Switch) (value : String) : Except Usage Found :=
  if f.has s.name || !s.value.all (·.admits value) then .error .fault
  else .ok { f with switches := f.switches ++ [(s.name, value)] }

end Found

/-! ## Reading -/

/-- A switch that asks for help or for the version ends everything. -/
def endsAll : String → Option Usage
  | "help" => some .help
  | "version" => some .version
  | _ => none

namespace Level

/-- Add a value, for which there has to be a place. -/
def addValue (l : Level) (f : Found) (value : String) : Except Usage Found :=
  match l.values[f.values.length]? with
  | some k =>
    if k.admits value then .ok { f with values := f.values ++ [value] } else .error .fault
  | none => .error .fault

/-- What a switch leads to: it has been read, or it waits for its value. -/
abbrev Step := Found × Option Switch

/-- A switch by its name, with the value behind `=`, if any. -/
def readName (l : Level) (f : Found) (arg : List Char) : Except Usage Step :=
  let name := String.ofList (arg.takeWhile (· != '='))
  let value := match arg.dropWhile (· != '=') with
    | _ :: v => some (String.ofList v)
    | [] => none
  match l.switches.find? (·.name == name) with
  | none => .error .fault
  | some s =>
    match s.value, value with
    | none, some _ => .error .fault
    | none, none =>
      match endsAll s.name with
      | some u => .error u
      | none => (f.addSwitch s "").map (·, none)
    | some _, some v => (f.addSwitch s v).map (·, none)
    | some _, none => if f.has s.name then .error .fault else .ok (f, some s)

/-- Switches by their letters. Behind the letter of a switch that takes a value stands its value,
which may have `=` in front. -/
def readLetters (l : Level) (f : Found) : List Char → Except Usage Step
  | [] => .ok (f, none)
  | c :: cs =>
    match l.switches.find? (·.letter == some c) with
    | none => .error .fault
    | some s =>
      match s.value with
      | none =>
        match endsAll s.name with
        | some u => .error u
        | none =>
          match f.addSwitch s "" with
          | .ok f => l.readLetters f cs
          | .error u => .error u
      | some _ =>
        match cs with
        | [] => if f.has s.name then .error .fault else .ok (f, some s)
        | '=' :: v => (f.addSwitch s (String.ofList v)).map (·, none)
        | v => (f.addSwitch s (String.ofList v)).map (·, none)

/-- Values, behind `--`. -/
def readValues (l : Level) (f : Found) : List String → Except Usage Found
  | [] => .ok f
  | a :: rest =>
    match l.addValue f a with
    | .ok f => l.readValues f rest
    | .error u => .error u

/-- **Read the arguments of a level** up to a word that leads on, which comes with the arguments
behind it. `waiting` is a switch whose value comes next; no switch can be that value. -/
def readFrom (l : Level) (f : Found) (waiting : Option Switch) :
    List String → Except Usage (Found × Option (String × List String))
  | [] => if waiting.isSome then .error .fault else .ok (f, none)
  | a :: rest =>
    match waiting with
    | some s =>
      if a.toList.head? = some '-' ∧ a ≠ "-" then .error .fault
      else
        match f.addSwitch s a with
        | .ok f => l.readFrom f none rest
        | .error u => .error u
    | none =>
      -- A word leads on wherever it stands, unless a switch waits for its value.
      if l.words.contains a then .ok (f, some (a, rest))
      else
        match a.toList with
        | ['-', '-'] => (l.readValues f rest).map (·, none)
        | '-' :: '-' :: name =>
          match l.readName f name with
          | .ok (f, waiting) => l.readFrom f waiting rest
          | .error u => .error u
        | '-' :: c :: cs =>
          match l.readLetters f (c :: cs) with
          | .ok (f, waiting) => l.readFrom f waiting rest
          | .error u => .error u
        | _ =>
          match l.addValue f a with
          | .ok f => l.readFrom f none rest
          | .error u => .error u

/-- **Read the arguments of a level.** -/
def read (l : Level) (args : List String) :
    Except Usage (Found × Option (String × List String)) :=
  l.readFrom {} none args

end Level

/-! ## Invocations -/

/-- **What a user can ask for.** -/
inductive Order where
  | pull (id path : String)
  | push (path : String) (options : Command.PushOptions)
  | protect (path : String)
  | listDatasets (path : String)
  | addDataset (path name : String)
  | removeDataset (path name : String)
  | preview (path : String) (dataset : Option String)
  | render (path : String) (dataset : Option String)
  | showLink (path : String)
  | openLink (link path : String)
  /-- The text comes from a file or, without one, from the input. -/
  | paste (path : String) (source : Option String)
  /-- Without a form, the settings say which. -/
  | exportCopy (path : String) (form : Option Command.ExportForm) (toClipboard : Bool)
  | settings (action : Command.SettingsAction)
deriving DecidableEq, Repr

/-- **What arguments ask for**, and the switches that go with every order. -/
structure Invocation where
  order : Order
  server : Option String := none
  noInput : Bool := false
  verbose : Bool := false
deriving DecidableEq, Repr

namespace Invocation

/-- The switches of every level. -/
def common : List Switch :=
  [⟨"server", none, some .text⟩, ⟨"no-input", none, none⟩, ⟨"verbose", some 'v', none⟩,
    ⟨"help", some 'h', none⟩]

/-- The file that documents are written to if no other is named. -/
def defaultPath : String := "datatemplate.yml"

/-- The switch for the file that is written. -/
def output : Switch := ⟨"output", some 'o', some .path⟩

/-- The switch for a dataset. -/
def dataset : Switch := ⟨"dataset", some 'd', some .text⟩

/-- The switches that have been read on all levels. The last level counts. -/
structure Common where
  server : Option String := none
  noInput : Bool := false
  verbose : Bool := false
deriving DecidableEq, Repr

/-- Add what has been read on another level. -/
def Common.add (c : Common) (f : Found) : Common :=
  ⟨f.value? "server" <|> c.server, c.noInput || f.has "no-input", c.verbose || f.has "verbose"⟩

/-- Read the last level of an order. -/
def finish (c : Common) (switches : List Switch) (values : List Kind) (args : List String)
    (order : Found → Option Order) : Except Usage Invocation := do
  let (f, _) ← (⟨common ++ switches, values, []⟩ : Level).read args
  let c := c.add f
  match order f with
  | some order => return { order, server := c.server, noInput := c.noInput, verbose := c.verbose }
  | none => throw Usage.fault

/-- The form of an export; there is only one. -/
def exportForm (f : Found) : Option (Option Command.ExportForm) :=
  match f.has "html", f.has "wire" with
  | true, true => none
  | true, false => some (some (.document .html))
  | false, true => some (some .wire)
  | false, false => some none

/-- The orders about datasets. -/
def ofDatasetWord (c : Common) (word : String) (args : List String) : Except Usage Invocation :=
  match word with
  | "list" | "ls" =>
    finish c [] [.path] args fun f => match f.values with
      | [path] => some (.listDatasets path)
      | _ => none
  | "add" =>
    finish c [] [.path, .text] args fun f => match f.values with
      | [path, name] => some (.addDataset path name)
      | _ => none
  | "remove" | "rm" =>
    finish c [] [.path, .text] args fun f => match f.values with
      | [path, name] => some (.removeDataset path name)
      | _ => none
  | _ => .error .help

/-- The words that follow the word for datasets. -/
def datasetWords : List String := ["list", "ls", "add", "remove", "rm", "help"]

/-- **The orders by their words.** -/
def ofWord (c : Common) (word : String) (args : List String) : Except Usage Invocation :=
  match word with
  | "pull" =>
    finish c [output] [.text] args fun f => match f.values with
      | [id] => some (.pull id ((f.value? "output").getD defaultPath))
      | _ => none
  | "push" =>
    finish c [⟨"new", none, none⟩, ⟨"force", none, none⟩] [.path] args fun f =>
      match f.values with
      | [path] => some (.push path ⟨f.has "new", f.has "force"⟩)
      | _ => none
  | "protect" =>
    finish c [] [.path] args fun f => match f.values with
      | [path] => some (.protect path)
      | _ => none
  | "dataset" | "ds" => do
    let (f, next) ← (⟨common, [], datasetWords⟩ : Level).read args
    match next with
    | some (word, args) => ofDatasetWord (c.add f) word args
    | none => throw Usage.fault
  | "preview" =>
    finish c [dataset] [.path] args fun f => match f.values with
      | [path] => some (.preview path (f.value? "dataset"))
      | _ => none
  | "render" =>
    finish c [dataset] [.path] args fun f => match f.values with
      | [path] => some (.render path (f.value? "dataset"))
      | _ => none
  | "link" =>
    finish c [] [.path] args fun f => match f.values with
      | [path] => some (.showLink path)
      | _ => none
  | "open" =>
    finish c [output] [.text] args fun f => match f.values with
      | [link] => some (.openLink link ((f.value? "output").getD defaultPath))
      | _ => none
  | "paste" =>
    finish c [⟨"from", none, some .path⟩] [.path] args fun f => match f.values with
      | [path] => some (.paste path (f.value? "from"))
      | _ => none
  | "export" =>
    finish c [⟨"html", none, none⟩, ⟨"wire", none, none⟩, ⟨"clipboard", some 'c', none⟩] [.path]
      args fun f => match f.values with
        | [path] => (exportForm f).map fun form => .exportCopy path form (f.has "clipboard")
        | _ => none
  | "config" =>
    finish c [] [.text, .text] args fun f => match f.values with
      | [] => some (.settings .showAll)
      | [key] => some (.settings (.show key))
      | [key, value] => some (.settings (.set key value))
      | _ => none
  | _ => .error .help

/-- The words for orders. -/
def words : List String :=
  ["pull", "push", "protect", "dataset", "ds", "preview", "render", "link", "open", "paste",
    "export", "config", "help"]

/-- **What arguments ask for.** -/
def ofArguments (args : List String) : Except Usage Invocation := do
  let (f, next) ← (⟨common ++ [⟨"version", some 'V', none⟩], [], words⟩ : Level).read args
  match next with
  | some (word, args) => ofWord (({} : Common).add f) word args
  | none => throw Usage.fault

end Invocation

end TemplateShare.CommandLine
