import TemplateShare.Url.Host
import TemplateShare.Url.Path

/-! # URLs

A URL in its parts, and how it is written. A path is opaque where a scheme is followed by neither a
host nor a slash.

* **`Url`**, **`Url.Authority`**: the parts.
* **`Url.text`**: the URL as a text. -/

namespace TemplateShare

/-- **The authority of a URL**: who, on which host, at which port. -/
structure Url.Authority where
  username : List Char := []
  password : Option (List Char) := none
  host : Url.Host
  port : Option Nat := none
deriving DecidableEq, Repr

/-- **A URL.** -/
structure Url where
  scheme : List Char
  authority : Option Url.Authority := none
  path : List Char := []
  isOpaque : Bool := false
  query : Option (List Char) := none
  fragment : Option (List Char) := none
deriving DecidableEq, Repr

namespace Url

/-- The kind of the scheme. -/
def kind (u : Url) : Kind := kindOf u.scheme

/-- The host, where it is not an empty name. -/
def host? (u : Url) : Option Host :=
  match u.authority with
  | some a => if a.host.isEmpty then none else some a.host
  | none => none

/-! ## Writing -/

/-- The name and the password in front of a host. -/
def Authority.userinfo (a : Authority) : List Char :=
  let password := match a.password with
    | some p => ':' :: p
    | none => []
  if a.username.isEmpty && a.password.isNone then [] else a.username ++ password ++ ['@']

/-- An authority behind its two slashes. -/
def Authority.text (a : Authority) : List Char :=
  let port := match a.port with
    | some n => ':' :: Nat.toDigits 10 n
    | none => []
  a.userinfo ++ a.host.text ++ port

/-- **What stands between the scheme and the path.** Without an authority, a path that starts with
two slashes is told apart from one by a dot. -/
def lead (u : Url) : List Char :=
  match u.authority with
  | some a => ['/', '/'] ++ a.text
  | none => if !u.isOpaque && ['/', '/'].isPrefixOf u.path then ['/', '.'] else []

/-- A part behind its mark, if it is there. -/
def marked (mark : Char) : Option (List Char) → List Char
  | some s => mark :: s
  | none => []

/-- The characters of a URL. -/
def chars (u : Url) : List Char :=
  u.scheme ++ [':'] ++ u.lead ++ u.path ++ marked '?' u.query ++ marked '#' u.fragment

/-- **The URL as a text.** -/
def text (u : Url) : String := String.ofList u.chars

end Url

end TemplateShare
