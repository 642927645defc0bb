import TemplateShare.Url.Idna.Context
import TemplateShare.Url.Idna.Mapping
import TemplateShare.Url.Punycode

/-! # Domain names

Domain names in the form that the network uses: in ASCII and in lower case. Names with other
characters are mapped to the ones that count, and their labels are written in Punycode behind
`xn--`. A label that is written so already has to stand for one that needs it.

* **`DomainName.unicode?`**: the label that is meant, if it is one.
* **`DomainName.toAscii`**: the name in ASCII, if it is one. -/

namespace TemplateShare.DomainName

open Url.Idna (mapChar replacement compose isMark areJoinersInPlace areDirected)

/-- Whether a text is in ASCII. -/
def isAscii (s : List Char) : Bool := s.all (·.toNat < 0x80)

/-- **A name as it counts**: its characters are mapped, and put together. -/
def prepare (s : List Char) : List Char :=
  let mapped := s.flatMap mapChar
  if isAscii mapped then mapped else compose mapped

/-! ## Validity -/

/-- The characters of ASCII that no domain name of a URL may hold. -/
def isForbidden (c : Char) : Bool :=
  c.toNat ≤ 0x20 || c.toNat == 0x7F || c == '%' || c == '#' || c == '/' || c == ':' ||
    c == '<' || c == '>' || c == '?' || c == '@' || c == '[' || c == '\\' || c == ']' ||
    c == '^' || c == '|'

/-- The characters of a label: those that count as themselves. -/
def isLabelChar (c : Char) : Bool :=
  if c.toNat < 0x80 then !isForbidden c && !c.isUpper else mapChar c == [c] && c != replacement

/-- **Labels that may stand in a name**: of allowed characters, put together, which begin with no
mark and have all joiners in place. -/
def isLabel (s : List Char) : Bool :=
  s.all isLabelChar &&
    (isAscii s || compose s == s && !s.head?.any isMark && areJoinersInPlace [] s)

/-! ## ASCII form -/

/-- What a label in Punycode starts with. -/
def acePrefix : List Char := ['x', 'n', '-', '-']

/-- **The label that is meant.** One in Punycode has to stand for a label that needs it. -/
def unicode? (s : List Char) : Option (List Char) :=
  if acePrefix.isPrefixOf s then
    match Punycode.decode (s.drop 4) with
    | none => none
    | some u =>
      if isLabel u && !isAscii u && Punycode.encode u == s.drop 4 then some u else none
  else if isLabel s then some s
  else none

/-- **A label in ASCII.** -/
def write (u : List Char) : List Char :=
  if isAscii u then u else acePrefix ++ Punycode.encode u

/-- The labels of a name. -/
def labels : List Char → List (List Char)
  | [] => [[]]
  | c :: s =>
    if c = '.' then [] :: labels s
    else
      match labels s with
      | [] => [[c]]
      | l :: ls => (c :: l) :: ls

/-- Whether labels may stand in one name. -/
def areJoinable (us : List (List Char)) : Bool := us.all isAscii || areDirected us

/-- **The name in ASCII**, if all of its labels are valid and may stand in one name. -/
def toAscii (s : List Char) : Option (List Char) :=
  match (labels (prepare s)).mapM unicode? with
  | none => none
  | some us => if areJoinable us then some (List.intercalate ['.'] (us.map write)) else none

end TemplateShare.DomainName
