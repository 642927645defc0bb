import TemplateShare.Portable.Printer
import TemplateShare.Yaml.Read

/-! # Portable documents: reading

The mapping under `dt` is read with every field optional (`Portable.Fields.read`), and the document
is made of it where the datasets obey the rules for datasets (`Portable.Fields.toTemplate`).
`Portable.parse` reads a whole text, or nothing. -/

namespace TemplateShare.Portable

/-- **The fields of the `dt` mapping.** -/
structure Fields where
  data : Option String := none
  vars : Option String := none
  template : Option String := none
  datasets : Option (List (String × Option String × Option String)) := none

/-- Read the data and variables of a dataset. -/
def readBuffers (d : Yaml.Document) (n : Yaml.Node) :
    Except Yaml.Error (Option String × Option String) := do
  let es ← d.entries n
  let data ← d.optionalField es "data" d.text
  let vars ← d.optionalField es "vars" d.text
  return (data, vars)

/-- Read the fields of the `dt` mapping. -/
def Fields.read (d : Yaml.Document) (n : Yaml.Node) : Except Yaml.Error Fields := do
  let es ← d.entries n
  let data ← d.optionalField es "data" d.text
  let vars ← d.optionalField es "vars" d.text
  let template ← d.optionalField es "template" d.text
  let datasets ← d.optionalField es "datasets" (d.map (readBuffers d))
  return { data, vars, template, datasets }

/-- **A field's text.** A block keeps one line feed at its end, which does not belong to the text;
a missing field is empty. -/
def unclip (s : Option String) : String :=
  match s with
  | none => ""
  | some s =>
    let cs := s.toList
    if cs.getLast? = some '\n' then String.ofList cs.dropLast else s

/-- **The document of the fields.** With `datasets`, the data and variables beside it do not
count. -/
def Fields.toTemplate (f : Fields) : Except EncodingError DataTemplate :=
  match f.datasets with
  | none => .ok (.single (unclip f.data) (unclip f.vars) (unclip f.template))
  | some ds =>
    let datasets := ds.map fun (name, data, vars) => ⟨name, unclip data, unclip vars⟩
    match Registry.ofDatasets datasets with
    | .ok r => .ok ⟨r, unclip f.template⟩
    | .error e => .error (.malformed (.datasets e))

/-- Whether a text has the lines that every portable document has. -/
def looksLike (text : String) : Bool := Text.contains text marker

/-- A result of reading YAML, whose faults are not told apart. -/
def ofYaml {α : Type} : Except Yaml.Error α → Except EncodingError α
  | .ok a => .ok a
  | .error _ => .error (.malformed .unreadable)

/-- **Read a portable document.** -/
def parse (text : String) : Except EncodingError DataTemplate :=
  if looksLike text then do
    let fields ← ofYaml do
      let d ← Yaml.Document.parse text.toList
      let dt ← Yaml.field (← d.entries d.root) "dt"
      Fields.read d dt
    fields.toTemplate
  else .error (.malformed .notDocument)

end TemplateShare.Portable
