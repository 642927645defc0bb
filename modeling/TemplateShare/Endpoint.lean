import TemplateShare.Error
import TemplateShare.Exchange
import TemplateShare.Url.Query

/-! # The address of a store

A store is reached at a URL. The paths of requests are relative to it, their query entries are
added to the query, and a name and a password in the URL are sent along but never shown.

* **`Endpoint`**, **`Endpoint.ofText`**: the address.
* **`Endpoint.url`**: where a request goes.
* **`Endpoint.unanswered`**: what becomes of a request where nobody listens. -/

namespace TemplateShare

/-- **The address of a store.** The path of the URL ends in a slash, so that nothing of it is lost
when a path is joined to it. -/
structure Endpoint where
  base : Url
deriving DecidableEq, Repr

namespace Endpoint

/-! ## Addresses -/

/-- **The URL of a server.** The fault says what is wrong with the text. -/
def serverUrl (text : String) : Except Error Url :=
  match Url.parse text with
  | .ok u => .ok u
  | .error f => .error (.config ("Invalid server URL '" ++ text ++ "': " ++ f.message))

/-- A slash at the end of the path. An opaque path does not start with one, so there it is
encoded. -/
def withSlash (u : Url) : Url :=
  if u.path.getLast? = some '/' then u
  else if u.isOpaque && u.path.isEmpty then { u with path := ['%', '2', 'F'] }
  else { u with path := u.path ++ ['/'] }

/-- **The address in a text.** -/
def ofText (text : String) : Except Error Endpoint := (serverUrl text).map fun u => ⟨withSlash u⟩

/-! ## Requests -/

/-- **Where a request goes.** -/
def url (e : Endpoint) (r : Request) : Except Url.Fault Url :=
  (Url.join e.base (String.ofList (r.path.toList.dropWhile (· == '/')))).map
    fun u => u.appendPairs r.query

/-- The characters of the name of a header. -/
def isHeaderNameChar (c : Char) : Bool :=
  c.isAlphanum || "!#$%&'*+-.^_\x60|~".toList.contains c

/-- Whether a header can be sent. -/
def isSendable (h : String × String) : Bool :=
  !h.1.isEmpty && h.1.toList.all isHeaderNameChar &&
    h.2.toList.all fun c => (0x20 ≤ c.toNat && c.toNat ≠ 0x7F) || c == '\t'

/-- Whether octets are those of a text. -/
def isText (s : List Char) : Bool :=
  (Utf8.decode (Url.percentDecode (Utf8.encode (String.ofList s)))).toOption.isSome

/-- **The URL without a name and a password.** They stay where the name is not a text, or where
there is neither. -/
def withoutUser (u : Url) : Url :=
  match u.authority with
  | none => u
  | some a =>
    if isText a.username && (!a.username.isEmpty || a.password.any isText) then
      { u with authority := some { a with username := [], password := none } }
    else u

/-- Whether a request to a host can be written down. -/
def isWritable (u : Url) : Bool :=
  (u.scheme = "http".toList || u.scheme = "https".toList) &&
    match u.host? with
    | some h => !h.text.any fun c => c == '"' || c == '\x60' || c == '\x7b' || c == '\x7d'
    | none => false

/-- **Where a request fails**, and the URL that it was for, if there is one by then. -/
structure Failure where
  stage : String
  url : Option String := none
deriving DecidableEq, Repr

/-- The wording of a failure. -/
def Failure.message (f : Failure) : String :=
  match f.url with
  | some u => f.stage ++ " for url (" ++ u ++ ")"
  | none => f.stage

/-- The stage of requests that cannot be made. -/
def making : String := "builder error"

/-- The stage of requests that have been made. -/
def sending : String := "error sending request"

/-- **What becomes of a request where nobody listens.** A path that does not join, a URL without a
host, a header that cannot be sent and a URL that cannot be written down are noticed before. -/
def unanswered (e : Endpoint) (r : Request) : Failure :=
  match e.url r with
  | .error f => ⟨f.message, none⟩
  | .ok u =>
    if u.host?.isNone then ⟨making, some u.text⟩
    -- The URL is not known to the complaint about a header.
    else if !r.headers.all isSendable then ⟨making, none⟩
    else
      let u := withoutUser u
      if isWritable u then ⟨sending, some u.text⟩ else ⟨making, some u.text⟩

/-- The failure as a reply. -/
def reply (e : Endpoint) (r : Request) : Reply := .error (.network (e.unanswered r).message)

/-- A path that ends in a slash stays as it is. -/
theorem withSlash_of_getLast? {u : Url} (h : u.path.getLast? = some '/') : withSlash u = u := by
  simp [withSlash, h]

end Endpoint

end TemplateShare
