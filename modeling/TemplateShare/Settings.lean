import TemplateShare.Error
import TemplateShare.Json.Value
import TemplateShare.Portable.Printer
import TemplateShare.Text.Blank
import TemplateShare.Url.Parser

/-! # Settings

What the user has settled once: where the store is, what links start with, how long to wait, from
which size on bodies are packed, and in which style documents are exported. Settings are kept in a
JSON file, in which every field may be missing.

* **`Settings`**, **`Settings.Key`**: the settings, and the names that the user knows them by.
* **`Settings.get`**, **`Settings.set`**: by key.
* **`Settings.parse`**, **`Settings.text`**: from and to the text of the file. -/

namespace TemplateShare

/-- **The settings.** -/
structure Settings where
  serverUrl : String := "http://127.0.0.1:8080/"
  /-- What links start with, where it is not the URL of the store. -/
  linkBaseUrl : Option String := none
  timeoutSeconds : Nat := 10
  compressThreshold : Nat := 1024
  exportStyle : Portable.Style := .plain
deriving DecidableEq, Repr, Inhabited

namespace Settings

/-- What links start with. -/
def linkBase (s : Settings) : String := s.linkBaseUrl.getD s.serverUrl

/-- **Another store for the time being**; a blank URL is none. -/
def withServer (s : Settings) : Option String → Settings
  | some url => if Text.isBlank url then s else { s with serverUrl := url }
  | none => s

/-! ## Keys -/

/-- **The settings by name.** -/
inductive Key where
  | serverUrl
  | linkBase
  | timeout
  | compressThreshold
  | exportStyle
deriving DecidableEq, Repr

/-- The name of a setting. -/
def Key.name : Key → String
  | .serverUrl => "server-url"
  | .linkBase => "link-base"
  | .timeout => "timeout"
  | .compressThreshold => "compress-threshold"
  | .exportStyle => "export-style"

/-- All settings in the order in which they are shown. -/
def Key.all : List Key := [.serverUrl, .linkBase, .timeout, .compressThreshold, .exportStyle]

/-- The setting of a name. -/
def Key.ofName? (name : String) : Option Key := Key.all.find? fun k => k.name == name

/-- A setting is found by its name. -/
@[simp] theorem Key.ofName?_name (k : Key) : Key.ofName? k.name = some k := by
  cases k <;> decide

/-- **The value of a setting.** -/
def get (s : Settings) : Key → String
  | .serverUrl => s.serverUrl
  | .linkBase => s.linkBase
  | .timeout => toString s.timeoutSeconds
  | .compressThreshold => toString s.compressThreshold
  | .exportStyle => s.exportStyle.name

/-! ## Changing -/

/-- **Why a setting is not changed.** -/
inductive Fault where
  | url (value : String) (fault : Url.Fault)
  | timeout (value : String)
  | zeroTimeout
  | threshold (value : String)
  | style (complaint : String)
  | key (name : String)
deriving DecidableEq, Repr

/-- The wording of a fault. -/
def Fault.message : Fault → String
  | .url value fault => "Invalid URL '" ++ value ++ "': " ++ fault.message
  | .timeout value => "Invalid timeout: " ++ value ++ " (expected whole seconds)"
  | .zeroTimeout => "Timeout must be at least 1 second"
  | .threshold value => "Invalid byte count: " ++ value
  | .style complaint => complaint
  | .key name => "Unknown config key: " ++ name

/-- A number of 64 bits, which may have a plus in front. -/
def number? (s : String) : Option Nat :=
  let digits := match s.toList with
    | '+' :: r => r
    | r => r
  (Decimal.natural? 10 digits).filter (· < Nat.pow 2 64)

/-- A URL as it stands. -/
def checkUrl (value : String) : Except Fault String :=
  match Url.parse value with
  | .ok _ => .ok value
  | .error f => .error (.url value f)

/-- **Change a setting.** -/
def set (s : Settings) (key : Key) (value : String) : Except Fault Settings :=
  match key with
  | .serverUrl => do return { s with serverUrl := ← checkUrl value }
  | .linkBase => do return { s with linkBaseUrl := some (← checkUrl value) }
  | .timeout =>
    match number? value with
    | none => .error (.timeout value)
    | some n => if n = 0 then .error .zeroTimeout else .ok { s with timeoutSeconds := n }
  | .compressThreshold =>
    match number? value with
    | none => .error (.threshold value)
    | some n => .ok { s with compressThreshold := n }
  | .exportStyle =>
    match Portable.Style.ofName value with
    | .ok style => .ok { s with exportStyle := style }
    | .error complaint => .error (.style complaint)

/-- Change a setting by its name. -/
def setNamed (s : Settings) (name value : String) : Except Fault Settings :=
  match Key.ofName? name with
  | some key => s.set key value
  | none => .error (.key name)

/-! ## The file -/

/-- The name of the settings file. -/
def fileName : String := "config.json"

/-- The style of an exact name. -/
def readStyleName : Option (List Char) → Option Portable.Style
  | some s => [Portable.Style.plain, .html].find? fun style => style.name.toList == s
  | none => none

/-- A style by its name, or as the only member, which is null, of an object. -/
def readStyle : Json → Option Portable.Style
  | .text s => readStyleName s
  | .object [(k, .null)] => readStyleName k
  | _ => none

/-- Read settings. -/
def ofJson (v : Json) : Option Settings :=
  match v.asRecord
      ["server_url", "link_base", "timeout_secs", "compress_threshold", "export_style"] with
  | some [server, link, timeout, threshold, style] => do
    let initial : Settings := {}
    return {
      serverUrl := ← Json.fieldOr initial.serverUrl Json.asText server
      linkBaseUrl := ← Json.fieldOr none (Json.asOptional Json.asText) link
      timeoutSeconds := ← Json.fieldOr initial.timeoutSeconds (Json.asNatural (Nat.pow 2 64)) timeout
      compressThreshold :=
        ← Json.fieldOr initial.compressThreshold (Json.asNatural (Nat.pow 2 64)) threshold
      exportStyle := ← Json.fieldOr initial.exportStyle readStyle style }
  | _ => none

/-- **The settings of a file's text.** -/
def parse (text : String) : Except Error Settings :=
  match (Json.parse text.toList).bind ofJson with
  | some s => .ok s
  | none => .error .settings

/-- **The text of the settings file.** -/
def text (s : Settings) : String :=
  let quoted (t : String) : List Char := Json.quote t.toList
  let member (key : String) (value : List Char) : List Char × List Char := (key.toList, value)
  String.ofList <| Json.objectLines <|
    [member "server_url" (quoted s.serverUrl)] ++
      (s.linkBaseUrl.map fun t => member "link_base" (quoted t)).toList ++
      [member "timeout_secs" (Nat.toDigits 10 s.timeoutSeconds),
        member "compress_threshold" (Nat.toDigits 10 s.compressThreshold),
        member "export_style" (quoted s.exportStyle.name)]

end Settings

end TemplateShare
