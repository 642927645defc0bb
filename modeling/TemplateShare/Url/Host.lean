import TemplateShare.Text.Decimal
import TemplateShare.Url.DomainName
import TemplateShare.Url.Percent

/-! # Hosts of URLs

A host is a name, or an address of version 4 or 6. An address of version 4 may be written with one
to four numbers in three radices; one of version 6 with a gap for zeros and with an address of
version 4 at its end.

* **`Url.Host`**: the hosts.
* **`Url.Host.parse`**, **`Url.Host.parseOpaque`**: of special schemes and of all others.
* **`Url.Host.text`**: the form in which a host is written. -/

namespace TemplateShare.Url

/-! ## Faults -/

/-- **Why a text is no URL.** -/
inductive Fault where
  | emptyHost
  | domainName
  | port
  | ipv4
  | ipv6
  | domainCharacter
  | noBase
  /-- The base has no path that another one could be relative to. -/
  | opaqueBase
deriving DecidableEq, Repr

/-- The wording of a fault. -/
def Fault.message : Fault → String
  | .emptyHost => "empty host"
  | .domainName => "invalid international domain name"
  | .port => "invalid port number"
  | .ipv4 => "invalid IPv4 address"
  | .ipv6 => "invalid IPv6 address"
  | .domainCharacter => "invalid domain character"
  | .noBase => "relative URL without a base"
  | .opaqueBase => "relative URL with a cannot-be-a-base base"

/-- **A host**: a name, which may be empty, or an address in one number or in eight pieces. -/
inductive Host where
  | domain (name : List Char)
  | ipv4 (address : Nat)
  | ipv6 (pieces : List Nat)
deriving DecidableEq, Repr

namespace Host

/-! ## Addresses of version 4 -/

/-- A number in decimal, behind `0x` in hexadecimal and behind `0` in octal digits. -/
def number? (s : List Char) : Option Nat :=
  match s with
  | [] => none
  | '0' :: 'x' :: r | '0' :: 'X' :: r => if r.isEmpty then some 0 else Decimal.natural? 16 r
  | '0' :: c :: r => Decimal.natural? 8 (c :: r)
  | _ => Decimal.natural? 10 s

/-- The parts of a name between full stops, without an empty one at the end. -/
def parts (s : List Char) : List (List Char) :=
  let ps := DomainName.labels s
  if 1 < ps.length ∧ ps.getLast? = some [] then ps.dropLast else ps

/-- **Whether a name ends in a number**, so that it has to be an address. -/
def endsInNumber (s : List Char) : Bool :=
  match (parts s).getLast? with
  | none => false
  | some p => !p.isEmpty && (p.all Char.isDigit || (number? p).isSome)

/-- **An address of version 4.** All numbers but the last stand for one octet each. -/
def ipv4? (s : List Char) : Option Nat := do
  let ps := parts s
  if 4 < ps.length then failure
  let ns ← ps.mapM number?
  let octets := ns.dropLast
  let last ← ns.getLast?
  if octets.any (255 < ·) ∨ Nat.pow 256 (4 - octets.length) ≤ last then failure
  return octets.zipIdx.foldl (fun address (n, i) => address + n * Nat.pow 256 (3 - i)) last

/-- An address of version 4 as four numbers. -/
def ipv4Text (n : Nat) : List Char :=
  List.intercalate ['.'] <|
    [n / 0x1000000, n / 0x10000 % 256, n / 0x100 % 256, n % 256].map (Nat.toDigits 10)

/-! ## Addresses of version 6 -/

/-- A number up to 255 in decimal without leading zeros. -/
def octet? (s : List Char) : Option Nat :=
  if s.head? = some '0' ∧ 1 < s.length then none
  else (Decimal.natural? 10 s).filter (· ≤ 255)

/-- The two pieces of an address of version 4 at the end. -/
def embedded? (s : List Char) : Option (List Nat) :=
  match (DomainName.labels s).mapM octet? with
  | some [a, b, c, d] => some [a * 256 + b, c * 256 + d]
  | _ => none

/-- Read pieces, and where the gap is; `count` pieces have been read. The gap stands for at least
one piece. `fuel` bounds the number of pieces. -/
def pieces? : Nat → Nat → Bool → List Char → Option (List Nat × Option Nat)
  | 0, _, _, _ => none
  | fuel + 1, count, hasGap, s =>
    if s.isEmpty then some ([], none)
    else if 8 ≤ count then none
    else
      match s with
      | ':' :: r =>
        if hasGap then none
        else (pieces? fuel (count + 1) true r).map fun (ps, _) => (ps, some 0)
      | _ => do
        let digits := (s.take 4).takeWhile fun c => (Hex.value? c).isSome
        let rest := s.drop digits.length
        if digits.isEmpty then failure
        match rest with
        | '.' :: _ => if 6 < count then none else (embedded? s).map (·, none)
        | ':' :: r =>
          if r.isEmpty then none
          else
            let (ps, gap) ← pieces? fuel (count + 1) hasGap r
            return ((← Hex.number? digits) :: ps, gap.map (· + 1))
        | [] => return ([← Hex.number? digits], none)
        | _ => none

/-- **An address of version 6.** Without a gap there are eight pieces. -/
def ipv6? (s : List Char) : Option (List Nat) := do
  let start ← match s with
    | ':' :: ':' :: r => (pieces? (r.length + 1) 1 true r).map fun (ps, _) => (ps, some 0)
    | ':' :: _ | [] | [_] => none
    | _ => pieces? (s.length + 1) 0 false s
  match start with
  | (ps, some gap) =>
    if ps.length ≤ 7 then some (ps.take gap ++ List.replicate (8 - ps.length) 0 ++ ps.drop gap)
    else none
  | (ps, none) => if ps.length = 8 then some ps else none

/-- A piece without leading zeros. -/
def pieceText (n : Nat) : List Char := Nat.toDigits 16 n

/-- How many zeros a list starts with. -/
def zeros (ps : List Nat) : Nat := (ps.takeWhile (· == 0)).length

/-- The first longest run of at least two zeros: where it starts, and how long it is. -/
def longestZeros (ps : List Nat) : Option (Nat × Nat) :=
  let runs := (List.range ps.length).map fun i => (i, zeros (ps.drop i))
  runs.foldl (fun best r =>
    if r.2 < 2 then best
    else
      match best with
      | some b => if b.2 < r.2 then some r else best
      | none => some r) none

/-- **An address of version 6**, in which the first longest run of zeros is left out. -/
def ipv6Text (ps : List Nat) : List Char :=
  let join (ps : List Nat) : List Char := List.intercalate [':'] (ps.map pieceText)
  match longestZeros ps with
  | some (i, n) => join (ps.take i) ++ [':', ':'] ++ join (ps.drop (i + n))
  | none => join ps

/-! ## Hosts -/

/-- A host in brackets. -/
def bracketed? (s : List Char) : Except Fault Host :=
  if s.getLast? = some ']' then
    match ipv6? (s.drop 1).dropLast with
    | some ps => .ok (.ipv6 ps)
    | none => .error .ipv6
  else .error .ipv6

/-- **The host of a special scheme.** -/
def parse (s : List Char) : Except Fault Host :=
  if s.head? = some '[' then bracketed? s
  else
    -- What is encoded counts as if it stood there plainly.
    match Utf8.decode (percentDecode (Utf8.encode (String.ofList s))) with
    | .error _ => .error .domainName
    | .ok decoded =>
      match DomainName.toAscii decoded.toList with
      | none => .error .domainName
      | some name =>
        if name.isEmpty then .error .emptyHost
        else if endsInNumber name then
          match ipv4? name with
          | some n => .ok (.ipv4 n)
          | none => .error .ipv4
        else .ok (.domain name)

/-- The characters that no host of any scheme may hold. -/
def isForbidden (c : Char) : Bool :=
  c == '\x00' || c == '\t' || c == '\n' || c == '\r' || c == ' ' || c == '#' || c == '/' ||
    c == ':' || c == '<' || c == '>' || c == '?' || c == '@' || c == '[' || c == '\\' ||
    c == ']' || c == '^' || c == '|'

/-- **The host of a scheme that is not special**, which may be empty. -/
def parseOpaque (s : List Char) : Except Fault Host :=
  if s.head? = some '[' then bracketed? s
  else if s.any isForbidden then .error .domainCharacter
  else .ok (.domain (encodeWith controlSet s))

/-- **How a host is written.** -/
def text : Host → List Char
  | .domain name => name
  | .ipv4 n => ipv4Text n
  | .ipv6 ps => ['['] ++ ipv6Text ps ++ [']']

/-- Whether a host is no more than an empty name. -/
def isEmpty (h : Host) : Bool := h = .domain []

end Host

end TemplateShare.Url
