import TemplateShare.Text.Hex
import TemplateShare.Yaml.Token

/-! # Anchors, tags and directives

The parts of YAML that start with `&`, `*`, `!` and `%`. Tags are kept as text of octets: the
octets of percent escapes stand as characters below 256. -/

namespace TemplateShare.Yaml

/-! ## Anchors and aliases -/

/-- Whether an anchor's name may end here. -/
def endsAnchor : List Char → Bool
  | [] => true
  | c :: _ => isSpacing c || "?:,]\x7d%@`".toList.contains c

/-- **Read the name of an anchor or alias**, from its indicator to behind the name. -/
def anchorName (c : Cursor) : Except Error (List Char × Cursor) :=
  let c := c.advance 1
  let name := c.rest.takeWhile isWord
  let d := c.skipWhile isWord
  if name.isEmpty || !endsAnchor d.rest then .error .token else .ok (name, d)

/-! ## Tags -/

/-- Whether a character may stand in a tag. Flow indicators may only in the `!<…>` form. -/
def isTagChar (verbatim : Bool) (c : Char) : Bool :=
  isWord c || ";/?:@&=+$.%!~*'()".toList.contains c || (verbatim && ",[]".toList.contains c)

/-- The value of the octet that `%` and two hexadecimal digits spell. -/
def escapedOctet? : List Char → Option Nat
  | '%' :: a :: b :: _ => Hex.number? [a, b]
  | _ => none

/-- The number of continuation octets behind a leading octet of UTF-8. -/
def continuationCount? (n : Nat) : Option Nat :=
  if n < 0x80 then some 0
  else if 0xC0 ≤ n ∧ n < 0xE0 then some 1
  else if 0xE0 ≤ n ∧ n < 0xF0 then some 2
  else if 0xF0 ≤ n ∧ n < 0xF8 then some 3
  else none

/-- **Read the characters of a tag** up to the first that may not stand in one. Each escaped
octet that leads a sequence must be followed by as many escaped octets as it announces; `pending`
is how many are still to come. -/
def tagText (verbatim : Bool) : Nat → Nat → Cursor → Except Error (List Char × Cursor)
  | 0, _, c => .ok ([], c)
  | fuel + 1, 0, c =>
    match c.rest with
    | [] => .ok ([], c)
    | x :: _ =>
      if !isTagChar verbatim x then .ok ([], c)
      else if x == '%' then
        match escapedOctet? c.rest with
        | none => .error .token
        | some n =>
          match continuationCount? n with
          | none => .error .token
          | some k => do
            let (text, c) ← tagText verbatim fuel k (c.advance 3)
            .ok (Char.ofNat n :: text, c)
      else do
        let (text, c) ← tagText verbatim fuel 0 (c.advance 1)
        .ok (x :: text, c)
  | fuel + 1, k + 1, c =>
    match escapedOctet? c.rest with
    | none => .error .token
    | some n =>
      if 0x80 ≤ n ∧ n < 0xC0 then do
        let (text, c) ← tagText verbatim fuel k (c.advance 3)
        .ok (Char.ofNat n :: text, c)
      else .error .token

/-- The characters of a tag, with the length check: `lead` counts what was read before. -/
def tagBody (verbatim : Bool) (lead : Nat) (c : Cursor) : Except Error (List Char × Cursor) := do
  let (text, c) ← tagText verbatim (c.rest.length + 1) 0 c
  if lead + text.length = 0 then .error .token else .ok (text, c)

/-- A tag handle: `!`, word characters, and a closing `!` where there is one. -/
def tagHandle (c : Cursor) : Except Error (List Char × Cursor) :=
  if c.at? '!' then
    let name := (c.advance 1).rest.takeWhile isWord
    let d := (c.advance 1).skipWhile isWord
    if d.at? '!' then .ok ('!' :: (name ++ ['!']), d.advance 1) else .ok ('!' :: name, d)
  else .error .token

/-- **Read a tag**: `!<text>`, `!handle!text` or `!text`. A lone `!` has an empty handle. -/
def readTag (inFlow : Bool) (c : Cursor) : Except Error (Token × Cursor) := do
  let (handle, suffix, c) ←
    if (c.advance 1).at? '<' then do
      let (text, c) ← tagBody true 0 (c.advance 2)
      if c.at? '>' then .ok ([], text, c.advance 1) else .error .token
    else do
      let (handle, c) ← tagHandle c
      if 2 ≤ handle.length && handle.getLast? == some '!' then
        let (text, c) ← tagBody false 0 c
        .ok (handle, text, c)
      else
        let (text, c) ← tagBody false handle.length c
        let suffix := handle.drop 1 ++ text
        if suffix.isEmpty then .ok ([], ['!'], c) else .ok (['!'], suffix, c)
  if endsWord c.rest || (inFlow && c.at? ',') then .ok (.tag handle suffix, c)
  else .error .token

/-! ## Directives -/

/-- A decimal number of at most nine digits. -/
def versionNumber (c : Cursor) : Except Error (Nat × Cursor) :=
  let digits := c.rest.takeWhile Char.isDigit
  if digits.isEmpty || 9 < digits.length then .error .token
  else .ok (digits.foldl (fun n d => n * 10 + (d.toNat - '0'.toNat)) 0, c.skipWhile Char.isDigit)

/-- **Read a directive line**: `%YAML` with a version or `%TAG` with an abbreviation. -/
def readDirective (c : Cursor) : Except Error (Token × Cursor) := do
  let c := c.advance 1
  let name := c.rest.takeWhile isWord
  let c := c.skipWhile isWord
  if name.isEmpty || !endsWord c.rest then .error .token
  else
    let (token, c) ←
      if name == "YAML".toList then do
        let (major, c) ← versionNumber (c.skipWhile isBlank)
        if !c.at? '.' then .error .token
        else
          let (minor, c) ← versionNumber (c.advance 1)
          .ok (Token.versionDirective major minor, c)
      else if name == "TAG".toList then do
        let (handle, c) ← tagHandle (c.skipWhile isBlank)
        if (handle != ['!'] && (handle.length < 2 || handle.getLast? != some '!')) || !c.atBlank
        then .error .token
        else
          let (expansion, c) ← tagBody true 0 (c.skipWhile isBlank)
          if endsWord c.rest then .ok (Token.tagDirective handle expansion, c)
          else .error .token
      else .error .token
    let c := c.skipWhile isBlank
    let c := if c.at? '#' then c.skipWhile (!isBreak ·) else c
    if !endsLine c.rest then .error .token
    else .ok (token, if c.atBreak then c.skipBreak else c)

end TemplateShare.Yaml
