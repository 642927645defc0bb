import TemplateShare.Url.Parser

/-! # Queries of URLs

A query holds pairs of texts: `key=value`, joined by `&`, with blanks as `+` and all characters but
a few percent-encoded.

* **`Url.queryPairs`**: the pairs of a query.
* **`Url.withPairs`**, **`Url.appendPairs`**: a URL with pairs. -/

namespace TemplateShare.Url

/-! ## Writing -/

/-- Characters that stand for themselves in a pair. -/
def isFormChar (b : UInt8) : Bool :=
  let c := Char.ofNat b.toNat
  b < 0x80 && (c.isAlphanum || c == '*' || c == '-' || c == '.' || c == '_')

/-- An octet of a pair. -/
def formOctet (b : UInt8) : List Char :=
  if isFormChar b then [Char.ofNat b.toNat] else if b == 0x20 then ['+'] else encodedOctet b

/-- **A text of a pair**, encoded. -/
def formText (s : String) : List Char := (Utf8.encode s).flatMap formOctet

/-- A pair. -/
def pairText (p : String × String) : List Char := formText p.1 ++ ['='] ++ formText p.2

/-- **Pairs behind what a query holds already.** -/
def appendTo (query : List Char) (pairs : List (String × String)) : List Char :=
  pairs.foldl (fun q p => q ++ (if q.isEmpty then [] else ['&']) ++ pairText p) query

/-- **The URL with more pairs.** Without pairs it stays as it is. -/
def appendPairs (u : Url) (pairs : List (String × String)) : Url :=
  if pairs.isEmpty then u else { u with query := some (appendTo (u.query.getD []) pairs) }

/-- **The URL with these pairs** in place of its query. -/
def withPairs (u : Url) (pairs : List (String × String)) : Url :=
  { u with query := some (appendTo [] pairs) }

/-! ## Reading -/

/-- The pieces between the occurrences of a character. -/
def piecesAt (mark : Char) : List Char → List (List Char)
  | [] => [[]]
  | c :: s =>
    if c = mark then [] :: piecesAt mark s
    else
      match piecesAt mark s with
      | [] => [[c]]
      | p :: ps => (c :: p) :: ps

/-- The text of an encoded part of a pair. -/
def formDecode (s : List Char) : String :=
  let blanks := s.map fun c => if c = '+' then ' ' else c
  String.ofList (Utf8.decodeLenient (percentDecode (Utf8.encode (String.ofList blanks))))

/-- **The pairs of a query**, in order. A piece without `=` is a key of an empty text. -/
def pairsOf (query : List Char) : List (String × String) :=
  ((piecesAt '&' query).filter (!·.isEmpty)).map fun p =>
    (formDecode (p.takeWhile (· != '=')), formDecode ((p.dropWhile (· != '=')).drop 1))

/-- **The pairs of a URL's query.** -/
def queryPairs (u : Url) : List (String × String) := pairsOf (u.query.getD [])

end TemplateShare.Url
