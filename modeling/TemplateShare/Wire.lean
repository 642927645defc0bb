import TemplateShare.Assoc
import TemplateShare.DataTemplate
import TemplateShare.Json.Value
import TemplateShare.Text.Base64

/-! # Wire payloads

What is sent to the store: a JSON object whose texts are in Base64. The short form has the fields
`data`, `template` and `vars`; otherwise the datasets stand by name, in order, under `datasets`.
Tabs in the template and in variables become two blanks; data stays as it was typed.

* **`Wire.Payload`**: the payload with its fields still encoded.
* **`Wire.encode`**, **`Wire.Payload.decode`**: from and to documents.
* **`Wire.Payload.text`**, **`Wire.parse`**: to and from JSON. -/

namespace TemplateShare.Wire

/-! ## Fields -/

/-- A text with each tab as two blanks. -/
def expandTabs (s : String) : String := Text.replaceChar '\t' "  " s

/-- A text in Base64. -/
def encodeField (s : String) : String := Base64.encode (Utf8.encode s)

/-- **Decode a field.** Nothing but white space is the empty text. The name of the field stands in
front of any complaint. -/
def decodeField (name s : String) : Except EncodingError String :=
  let trimmed := Text.trim s
  if trimmed.isEmpty then .ok ""
  else
    match Base64.decode (Utf8.encode trimmed) with
    | .error f => .error (.badEncoding (name ++ ": " ++ f.message))
    | .ok bytes =>
      match Utf8.decode bytes with
      | .error f => .error (.badEncoding (name ++ ": " ++ f.message))
      | .ok text => .ok text

/-! ## Payloads -/

/-- **A payload.** Its texts are in Base64; a missing one counts as empty. -/
structure Payload where
  data : Option String := none
  template : Option String := none
  vars : Option String := none
  datasets : Option (List (String × Buffers)) := none
deriving DecidableEq, Repr

/-- The texts of a dataset in Base64. -/
def encodeBuffers (b : Buffers) : Buffers :=
  ⟨encodeField b.data, encodeField (expandTabs b.vars)⟩

/-- **The payload of a document.** -/
def encode (dt : DataTemplate) : Payload :=
  let template := some (encodeField (expandTabs dt.template))
  if dt.isSingle then
    let b := encodeBuffers dt.activeBuffers
    { data := some b.data, template := template, vars := some b.vars }
  else
    { template := template
      datasets := some (dt.datasets.map fun d => (d.name, encodeBuffers d.buffers)) }

/-- Decode the texts of a dataset. -/
def decodeBuffers (name : String) (b : Buffers) : Except EncodingError Buffers := do
  let data ← decodeField (name ++ ".data") b.data
  let vars ← decodeField (name ++ ".vars") b.vars
  return ⟨data, vars⟩

/-- **The document of a payload.** With `datasets`, the other data and variables do not count and
the first dataset is active. -/
def Payload.decode (p : Payload) : Except EncodingError DataTemplate := do
  let template ← decodeField "template" (p.template.getD "")
  match p.datasets with
  | none =>
    let data ← decodeField "data" (p.data.getD "")
    let vars ← decodeField "vars" (p.vars.getD "")
    return .single data vars template
  | some ds =>
    let datasets ← ds.mapM fun (name, b) => do return ⟨name, ← decodeBuffers name b⟩
    match Registry.ofDatasets datasets with
    | .ok r => return ⟨r, template⟩
    | .error e => .error (.malformed (.datasets e))

/-! ## JSON -/

/-- The JSON of a dataset's texts. -/
def buffersText (b : Buffers) : List Char :=
  Json.objectText
    [("data".toList, Json.quote b.data.toList), ("vars".toList, Json.quote b.vars.toList)]

/-- **The JSON of a payload**, on one line, without the missing fields. -/
def Payload.text (p : Payload) : String :=
  let member (key : String) (value : Option (List Char)) : List (List Char × List Char) :=
    (value.map (key.toList, ·)).toList
  let string (s : Option String) : Option (List Char) := s.map fun s => Json.quote s.toList
  let datasets := p.datasets.map fun ds =>
    Json.objectText (ds.map fun (name, b) => (name.toList, buffersText b))
  String.ofList <| Json.objectText <|
    member "data" (string p.data) ++ member "template" (string p.template) ++
      member "vars" (string p.vars) ++ member "datasets" datasets

/-- Read the texts of a dataset. -/
def readBuffers (v : Json) : Option Buffers :=
  match v.asRecord ["data", "vars"] with
  | some [data, vars] => do
    return ⟨← Json.fieldOr "" Json.asText data, ← Json.fieldOr "" Json.asText vars⟩
  | _ => none

/-- Read datasets by name. A name that comes again keeps its first place and takes the later
texts. -/
def readDatasets (v : Json) : Option (List (String × Buffers)) := do
  let ms ← v.asMembers
  let ds ← ms.mapM fun (k, v) => (readBuffers v).map (k, ·)
  return Assoc.ofList ds

/-- Read a payload. -/
def readPayload (v : Json) : Option Payload :=
  match v.asRecord ["data", "template", "vars", "datasets"] with
  | some [data, template, vars, datasets] => do
    let text := Json.fieldOr none (Json.asOptional Json.asText)
    return { data := ← text data, template := ← text template, vars := ← text vars,
             datasets := ← Json.fieldOr none (Json.asOptional readDatasets) datasets }
  | _ => none

/-- **The payload of a JSON text.** -/
def parse (s : String) : Except EncodingError Payload :=
  match (Json.parse s.toList).bind readPayload with
  | some p => .ok p
  | none => .error (.malformed .unreadable)

end TemplateShare.Wire
