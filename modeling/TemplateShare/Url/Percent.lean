import TemplateShare.Text.Hex
import TemplateShare.Text.Utf8

/-! # Percent-encoding

Characters that a part of a URL may not hold are written as `%` and two hexadecimal digits for each
of their octets. Which characters these are depends on the part.

* **`Url.encodeWith`**: encode the characters of a set.
* **`Url.percentDecode`**: the octets of an encoded text. -/

namespace TemplateShare.Url

/-! ## The sets -/

/-- Controls and everything outside of ASCII: encoded in every part. -/
def controlSet (c : Char) : Bool := c.toNat < 0x20 || 0x7E < c.toNat

/-- What a query encodes. -/
def querySet (c : Char) : Bool :=
  controlSet c || c == ' ' || c == '"' || c == '#' || c == '<' || c == '>'

/-- What the query of a special scheme encodes. -/
def specialQuerySet (c : Char) : Bool := querySet c || c == '\''

/-- What a fragment encodes. -/
def fragmentSet (c : Char) : Bool :=
  controlSet c || c == ' ' || c == '"' || c == '<' || c == '>' || c == '\x60'

/-- What a path encodes. -/
def pathSet (c : Char) : Bool :=
  fragmentSet c || c == '#' || c == '?' || c == '\x7b' || c == '\x7d'

/-- What a user name and a password encode. -/
def userinfoSet (c : Char) : Bool :=
  pathSet c || c == '/' || c == ':' || c == ';' || c == '=' || c == '@' || c == '[' ||
    c == '\\' || c == ']' || c == '^' || c == '|'

/-! ## Encoding -/

/-- An octet as `%` and two digits. -/
def encodedOctet (b : UInt8) : List Char := '%' :: Hex.upper 2 b.toNat

/-- All octets of a character, encoded. -/
def encodedChar (c : Char) : List Char :=
  (Utf8.encode (String.ofList [c])).flatMap encodedOctet

/-- **Encode the characters of a set.** -/
def encodeWith (set : Char → Bool) (s : List Char) : List Char :=
  s.flatMap fun c => if set c then encodedChar c else [c]

@[simp] theorem encodeWith_nil (set : Char → Bool) : encodeWith set [] = [] := rfl

@[simp] theorem encodeWith_append (set : Char → Bool) (s t : List Char) :
    encodeWith set (s ++ t) = encodeWith set s ++ encodeWith set t := by
  simp [encodeWith]

/-- A text without characters of the set stays as it is. -/
theorem encodeWith_eq_self {set : Char → Bool} {s : List Char} (h : ∀ c ∈ s, set c = false) :
    encodeWith set s = s := by
  induction s with
  | nil => rfl
  | cons c s ih =>
    have hc := h c (by simp)
    have hs := ih fun d hd => h d (by simp [hd])
    simpa [encodeWith, hc] using hs

/-! ## Decoding -/

/-- The number of two hexadecimal digits. -/
def octetValue? (a b : UInt8) : Option UInt8 :=
  (Hex.number? [Char.ofNat a.toNat, Char.ofNat b.toNat]).map UInt8.ofNat

/-- **The octets of an encoded text.** A `%` without two digits stands for itself. -/
def percentDecode : Bytes → Bytes
  | [] => []
  | 0x25 :: a :: b :: s =>
    match octetValue? a b with
    | some n => n :: percentDecode s
    | none => 0x25 :: percentDecode (a :: b :: s)
  | c :: s => c :: percentDecode s

end TemplateShare.Url
