import TemplateShare.Preview
import TemplateShare.Session
import TemplateShare.Wire

/-! # Payloads for rendering

What the rendering engine receives: the active dataset and the template, in Base64. Blank lines and
comments of the data are dropped here, and nowhere else.

* **`RenderPayload.build`**: the payload of a session.
* **`RenderPayload.text`**: its JSON. -/

namespace TemplateShare

/-- **A payload**, whose texts are in Base64. -/
structure RenderPayload where
  data : String
  vars : String
  template : String
  id : Option String
  dataset : String
  /-- Whether the variables hold vaulted values, for which the engine needs a password. -/
  isVaulted : Bool
deriving DecidableEq, Repr

namespace RenderPayload

/-- The start of a vaulted value. -/
def vaultMarker : String := "$ANSIBLE_VAULT;"

/-- A blank at the start of a line; a tab counts as two. -/
def indentBlank (c : Char) : List Char := if c = '\t' then [' ', ' '] else [c]

/-- A line whose indentation has no tabs. -/
def expandIndent (line : List Char) : List Char :=
  (line.takeWhile Delimiter.isBlank).flatMap indentBlank ++ line.dropWhile Delimiter.isBlank

/-- The data as the engine receives them. -/
def dataText (data : List Char) : List Char :=
  Preview.filterLines <|
    List.intercalate ['\n'] ((Text.charLines data).map expandIndent)

/-- **The payload of a session.** There has to be a template, and data of a header without rows are
not enough. -/
def build (s : Session) : Except ValidationError RenderPayload :=
  if s.template.isEmpty then .error .emptyTemplate
  else
    let data := dataText s.editor.data.toList
    if (Text.charLines data).length = 1 then .error .notEnoughRows
    else
      let vars := Wire.expandTabs s.editor.vars
      .ok {
        data := Wire.encodeField (String.ofList data)
        vars := Wire.encodeField vars
        template := Wire.encodeField (Wire.expandTabs s.template)
        id := s.remoteId
        dataset := s.registry.activeName
        isVaulted := Text.contains vars vaultMarker }

/-- **The JSON of a payload.** -/
def text (p : RenderPayload) : String :=
  let member (key value : String) : List Char × List Char := (key.toList, Json.quote value.toList)
  String.ofList <| Json.objectText <|
    [member "data" p.data, member "vars" p.vars, member "template" p.template] ++
      (p.id.map (member "id")).toList ++ [member "dataset" p.dataset]

end RenderPayload

end TemplateShare
