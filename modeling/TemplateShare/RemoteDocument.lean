import TemplateShare.Portable.Parser
import TemplateShare.Text.Sha256
import TemplateShare.Time.Instant

/-! # Stored documents

The store keeps a document as YAML: the portable form from its `---` line on, followed by what the
store itself knows.

    ---
    dt:
      ...

    revision: 3
    dt_hash: "9f86d0..."
    dt_password: "..."
    dt_mpassword: "..."
    updated: "1718900000"

* **`RemoteDocument.print`**: the text of a document as it is written.
* **`RemoteDocument.namedHash`**, **`RemoteDocument.revise`**: the hash that a text names, and the
  text with another revision.
* **`RemoteDocument.parse`**: what a reader takes from it. -/

namespace TemplateShare

/-- **What a reader takes from a stored document.** -/
structure RemoteDocument where
  template : DataTemplate
  hash : String
  /-- Missing in documents that were written before revisions were counted. -/
  revision : Option Nat
  updated : Option Instant
  /-- Whether a password of either kind is set. -/
  isProtected : Bool
deriving DecidableEq, Repr

namespace RemoteDocument

/-! ## Writing -/

/-- The line of a revision, with the line feeds around it. -/
def revisionLine (revision : Nat) : String := "\nrevision: " ++ toString revision ++ "\n"

/-- The part of a stored document that its hash covers. -/
def hashedPart (dt : DataTemplate) (revision : Nat) : String :=
  String.ofList (Portable.body .plain dt) ++ revisionLine revision

/-- A line with a key and a text in quotes. -/
def quotedLine (key value : String) : String := key ++ ": \"" ++ value ++ "\"\n"

/-- A line with a key and a text in quotes, if there is a text. -/
def optionalLine (key : String) : Option String → String
  | none => ""
  | some value => quotedLine key value

/-- **The text of a document as it is written**: the document, its revision and hash, the hashes of
the passwords that are set, and the time in seconds. -/
def print (dt : DataTemplate) (revision : Nat) (hash : String)
    (openHash modifyHash : Option String) (clock : Int) : String :=
  hashedPart dt revision ++ quotedLine "dt_hash" hash ++ optionalLine "dt_password" openHash ++
    optionalLine "dt_mpassword" modifyHash ++ quotedLine "updated" (toString clock)

/-- The hash of a document that is written as a revision. -/
def hashOf (dt : DataTemplate) (revision : Nat) : String := Sha256.hex (hashedPart dt revision)

/-! ## The text as it is kept -/

/-- The key of the hash in front of its value. -/
def hashKey : String := "dt_hash: "

/-- **The hash that a text names**: what stands behind the key in the first line that begins with
it, without the quotes, and nothing where no line does. -/
def namedHash (text : String) : String :=
  let named := (Text.charLines text.toList).findSome? hashKey.toList.isPrefixOf?
  String.ofList (named.elim [] (Text.stripChar '"'))

/-- **A text with another revision**, in place of the first line that names the old one. All else
stays, the hash too. -/
def revise (old new : Nat) (text : String) : String :=
  String.ofList <|
    Text.replaceFirst (revisionLine old).toList (revisionLine new).toList text.toList

/-! ## Reading -/

/-- The time of a value: whole seconds, as a number or as text. -/
def instantOf? : Yaml.Value → Option Instant
  | .integer i => if i < Nat.pow 2 63 then Instant.ofEpoch? i else none
  | .text s =>
    (Decimal.int64? (Text.dropSpaceEnd (Text.dropSpace s))).bind Instant.ofEpoch?
  | _ => none

/-- **Read a stored document.** The hash must be there and must not be empty. -/
def parse (text : String) : Except EncodingError RemoteDocument := do
  let (fields, hash, revision, updated, openHash, modifyHash) ← Portable.ofYaml do
    let d ← Yaml.Document.parse text.toList
    let es ← d.entries d.root
    let fields ← Portable.Fields.read d (← Yaml.field es "dt")
    let hash ← d.optionalField es "dt_hash" d.text
    let revision ← d.optionalField es "revision" d.natural64
    let updated ← d.optionalField es "updated" (d.value .free 1)
    let openHash ← d.optionalField es "dt_password" d.text
    let modifyHash ← d.optionalField es "dt_mpassword" d.text
    return (fields, hash, revision, updated, openHash, modifyHash)
  match hash.filter (!·.isEmpty) with
  | none => .error (.malformed .missingHash)
  | some hash =>
    let template ← fields.toTemplate
    return { template, hash, revision, updated := updated.bind instantOf?,
             isProtected := openHash.isSome || modifyHash.isSome }

end RemoteDocument

end TemplateShare
