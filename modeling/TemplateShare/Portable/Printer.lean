import TemplateShare.DataTemplate
import TemplateShare.Text.Hex

/-! # Portable documents: writing

The portable form of a document is YAML that survives mail and version control:

    # dtlink DataTemplate

    ---
    dt:
      data: |2
        h1,h2
        x,y

      vars: ""

      template: |2
        text

Unless the short form applies, the data and variables move under `datasets` and the name of their
dataset, four columns deeper. White space at the end of a text is dropped. The HTML style is the
same document with the five markup characters escaped; it is for display only.

* **`Portable.field`**: one text under its key, in one of three layouts.
* **`Portable.body`**: the document from its `---` line on.
* **`Portable.render`**: the whole document. -/

namespace TemplateShare.Portable

/-! ## Styles -/

/-- How a document is written. -/
inductive Style where
  | plain
  | html
deriving DecidableEq, Repr

/-- The name of a style. -/
def Style.name : Style → String
  | .plain => "plain"
  | .html => "html"

/-- The style of a name, in any case of its ASCII letters, or the wording of the complaint. -/
def Style.ofName (s : String) : Except String Style :=
  let lower := String.ofList (s.toList.map Char.toLower)
  if lower = "plain" then .ok .plain
  else if lower = "html" then .ok .html
  else .error ("Unknown export style: " ++ lower ++ " (expected plain or html)")

/-- The entity of a markup character, or the character itself. -/
def entity : Char → List Char
  | '&' => "&amp;".toList
  | '<' => "&lt;".toList
  | '>' => "&gt;".toList
  | '"' => "&quot;".toList
  | '\'' => "&apos;".toList
  | c => [c]

/-- Text with its markup characters as entities. -/
def escapeMarkup (s : List Char) : List Char := s.flatMap entity

/-- Text as a style shows it. -/
def Style.show : Style → List Char → List Char
  | .plain, s => s
  | .html, s => escapeMarkup s

@[simp] theorem Style.show_plain (s : List Char) : Style.plain.show s = s := rfl

/-! ## Layouts of a text -/

/-- A control character: the first 32 code points, delete and the 32 after it. -/
def isControl (c : Char) : Bool := c.toNat < 0x20 || (0x7F ≤ c.toNat && c.toNat ≤ 0x9F)

/-- **Characters that a block cannot carry**: control characters other than line feed and tab, the
two Unicode line separators and the byte order mark. -/
def needsEscape (c : Char) : Bool :=
  (isControl c && c != '\n' && c != '\t') || c == '\u2028' || c == '\u2029' || c == '\ufeff'

/-- A character inside double quotes. -/
def quotedChar (c : Char) : List Char :=
  if c = '"' then ['\\', '"']
  else if c = '\\' then ['\\', '\\']
  else if c = '\n' then ['\\', 'n']
  else if c = '\r' then ['\\', 'r']
  else if c = '\t' then ['\\', 't']
  else if isControl c || needsEscape c then '\\' :: 'u' :: Hex.upper 4 c.toNat
  else [c]

/-- A text in double quotes on one line. -/
def quoted (s : List Char) : List Char := '"' :: s.flatMap quotedChar ++ ['"']

/-- Blanks. -/
def blanks (n : Nat) : List Char := List.replicate n ' '

/-- A line of a block, indented. -/
def blockLine (style : Style) (indent : Nat) (line : List Char) : List Char :=
  blanks indent ++ style.show line ++ ['\n']

/-- **One text under its key.** Without its trailing white space, an empty text is `""`, a text
that a block can carry is a literal block, and any other is quoted. -/
def field (style : Style) (key : List Char) (indent : Nat) (text : String) : List Char :=
  let s := Text.dropSpaceEnd text.toList
  let lead := blanks indent ++ key ++ [':', ' ']
  if s.isEmpty then lead ++ ['"', '"', '\n']
  else if s.any needsEscape then lead ++ style.show (quoted s) ++ ['\n']
  else
    lead ++ ['|', '2', '\n'] ++
      (Text.charLines s).flatMap (blockLine style (indent + 2))

/-! ## Documents -/

/-- The data and variables of a dataset, each followed by an empty line. -/
def buffers (style : Style) (indent : Nat) (b : Buffers) : List Char :=
  field style "data".toList indent b.data ++ ['\n'] ++
    field style "vars".toList indent b.vars ++ ['\n']

/-- A dataset under its name in quotes. -/
def dataset (style : Style) (d : Dataset) : List Char :=
  blanks 4 ++ ['"'] ++ d.name.toList ++ ['"', ':', '\n'] ++ buffers style 6 d.buffers

/-- The lines that every portable document has. -/
def marker : String := "---\ndt:\n"

/-- The comment at the top of a portable document. -/
def header : String := "# dtlink DataTemplate\n\n"

/-- **The document from its `---` line on.** -/
def body (style : Style) (dt : DataTemplate) : List Char :=
  let datasets :=
    if dt.isSingle then buffers style 2 dt.activeBuffers
    else "  datasets:\n".toList ++ dt.datasets.flatMap (dataset style)
  marker.toList ++ datasets ++ field style "template".toList 2 dt.template

/-- **The portable form of a document.** -/
def render (style : Style) (dt : DataTemplate) : String :=
  String.ofList (header.toList ++ body style dt)

end TemplateShare.Portable
