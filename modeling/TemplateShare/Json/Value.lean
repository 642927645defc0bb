import TemplateShare.Text.Hex
import TemplateShare.Text.Decimal

/-! # JSON texts

A JSON value as a tree. Two things are kept that a typed reader needs: a number keeps its text,
and a string whose escapes spell half of a surrogate pair is `none`, because it is no text but does
not matter where nobody asks for it.

* **`Json.parse`**: the value of a text.
* **`Json.quote`**: a text as a JSON string. -/

namespace TemplateShare

/-- **A JSON value.** -/
inductive Json where
  | null
  | flag (b : Bool)
  | number (literal : List Char)
  | text (s : Option (List Char))
  | array (items : List Json)
  | object (members : List (Option (List Char) × Json))

namespace Json

/-! ## Reading -/

/-- White space between tokens. -/
def isSpace (c : Char) : Bool := c == ' ' || c == '\n' || c == '\t' || c == '\r'

/-- The characters behind any white space. -/
def skip (s : List Char) : List Char := s.dropWhile isSpace

/-- What a piece of a string stands for: a character, or half of a surrogate pair. -/
abbrev Piece := Option Char

/-- The character of an escape of one letter. -/
def escapeLetter? : Char → Option Char
  | '"' => some '"'
  | '\\' => some '\\'
  | '/' => some '/'
  | 'b' => some '\x08'
  | 'f' => some '\x0c'
  | 'n' => some '\n'
  | 'r' => some '\r'
  | 't' => some '\t'
  | _ => none

/-- The number that four hexadecimal digits spell, and the text behind them. -/
def hex4? : List Char → Option (Nat × List Char)
  | a :: b :: c :: d :: s => (Hex.number? [a, b, c, d]).map (·, s)
  | _ => none

/-- The low half of a surrogate pair that is written next, and the text behind it. -/
def lowHalf? : List Char → Option (Nat × List Char)
  | '\\' :: 'u' :: s => (hex4? s).filter fun (n, _) => 0xDC00 ≤ n && n ≤ 0xDFFF
  | _ => none

/-- **The rest of a string** behind its opening quote: its pieces and the text behind the closing
quote. Control characters may not stand in a string. -/
def stringBody : Nat → List Char → Option (List Piece × List Char)
  | 0, _ => none
  | fuel + 1, s =>
    match s with
    | [] => none
    | '"' :: s => some ([], s)
    | '\\' :: 'u' :: s =>
      match hex4? s with
      | none => none
      | some (n, s) =>
        if 0xD800 ≤ n ∧ n ≤ 0xDBFF then
          match lowHalf? s with
          | some (m, s) =>
            (stringBody fuel s).map fun (ps, s) =>
              (some (Char.ofNat (0x10000 + (n - 0xD800) * 0x400 + (m - 0xDC00))) :: ps, s)
          | none => (stringBody fuel s).map fun (ps, s) => (none :: ps, s)
        else if 0xDC00 ≤ n ∧ n ≤ 0xDFFF then
          (stringBody fuel s).map fun (ps, s) => (none :: ps, s)
        else (stringBody fuel s).map fun (ps, s) => (some (Char.ofNat n) :: ps, s)
    | '\\' :: c :: s =>
      match escapeLetter? c with
      | some d => (stringBody fuel s).map fun (ps, s) => (some d :: ps, s)
      | none => none
    | c :: s =>
      if c.toNat < 0x20 || c == '\\' then none
      else (stringBody fuel s).map fun (ps, s) => (some c :: ps, s)

/-- A string behind its opening quote. -/
def stringRest (s : List Char) : Option (Option (List Char) × List Char) :=
  (stringBody (s.length + 1) s).map fun (ps, s) => (ps.mapM id, s)

/-- Digits, at least one. -/
def digits? (s : List Char) : Option (List Char × List Char) :=
  let ds := s.takeWhile Char.isDigit
  if ds.isEmpty then none else some (ds, s.dropWhile Char.isDigit)

/-- The digits before the point: a zero stands alone. -/
def wholePart? (s : List Char) : Option (List Char × List Char) := do
  let (ds, s) ← digits? s
  if ds.head? = some '0' ∧ 1 < ds.length then none else some (ds, s)

/-- The point and the digits behind it, if there is a point. -/
def fraction? : List Char → Option (List Char × List Char)
  | '.' :: s => (digits? s).map fun (ds, s) => ('.' :: ds, s)
  | s => some ([], s)

/-- The exponent, if there is one. -/
def exponent? : List Char → Option (List Char × List Char)
  | e :: s =>
    if e = 'e' ∨ e = 'E' then
      match s with
      | '+' :: s => (digits? s).map fun (ds, s) => (e :: '+' :: ds, s)
      | '-' :: s => (digits? s).map fun (ds, s) => (e :: '-' :: ds, s)
      | s => (digits? s).map fun (ds, s) => (e :: ds, s)
    else some ([], e :: s)
  | [] => some ([], [])

/-- **A number**, kept as it is written. -/
def number? (s : List Char) : Option (Json × List Char) := do
  let (sign, s) := match s with
    | '-' :: s => (['-'], s)
    | s => ([], s)
  let (whole, s) ← wholePart? s
  let (frac, s) ← fraction? s
  let (exp, s) ← exponent? s
  return (.number (sign ++ whole ++ frac ++ exp), s)

/-- The value of a literal name, if the text starts with it. -/
def literal? (name : String) (v : Json) (s : List Char) : Option (Json × List Char) :=
  if name.toList.isPrefixOf s then some (v, s.drop name.length) else none

mutual

/-- **A value** at the start of a text, after any white space. -/
def value : Nat → List Char → Option (Json × List Char)
  | 0, _ => none
  | fuel + 1, s =>
    match skip s with
    | '"' :: s => (stringRest s).map fun (t, s) => (.text t, s)
    | '[' :: s =>
      match skip s with
      | ']' :: s => some (.array [], s)
      | s => (items fuel s).map fun (vs, s) => (.array vs, s)
    | '\x7b' :: s =>
      match skip s with
      | '\x7d' :: s => some (.object [], s)
      | s => (members fuel s).map fun (ms, s) => (.object ms, s)
    | 'n' :: s => literal? "ull" .null s
    | 't' :: s => literal? "rue" (.flag true) s
    | 'f' :: s => literal? "alse" (.flag false) s
    | s => number? s

/-- The items of an array, at least one, and its end. -/
def items : Nat → List Char → Option (List Json × List Char)
  | 0, _ => none
  | fuel + 1, s => do
    let (v, s) ← value fuel s
    match skip s with
    | ',' :: s => (items fuel s).map fun (vs, s) => (v :: vs, s)
    | ']' :: s => some ([v], s)
    | _ => none

/-- The members of an object, at least one, and its end. -/
def members : Nat → List Char → Option (List (Option (List Char) × Json) × List Char)
  | 0, _ => none
  | fuel + 1, s =>
    match skip s with
    | '"' :: s => do
      let (k, s) ← stringRest s
      match skip s with
      | ':' :: s =>
        let (v, s) ← value fuel s
        match skip s with
        | ',' :: s => (members fuel s).map fun (ms, s) => ((k, v) :: ms, s)
        | '\x7d' :: s => some ([(k, v)], s)
        | _ => none
      | _ => none
    | _ => none

end

/-- **The value of a text**, which may be surrounded by white space. -/
def parse (s : List Char) : Option Json :=
  match value (s.length + 1) s with
  | some (v, rest) => if (skip rest).isEmpty then some v else none
  | none => none

/-! ## Reading with a fixed type -/

/-- A text. -/
def asText : Json → Option String
  | .text (some s) => some (String.ofList s)
  | _ => none

/-- A number without sign, fraction and exponent, below a limit. -/
def asNatural (limit : Nat) : Json → Option Nat
  | .number s => (Decimal.natural? 10 s).filter (· < limit)
  | _ => none

/-- An optional value: none where it is null. -/
def asOptional {α : Type} (read : Json → Option α) : Json → Option (Option α)
  | .null => some none
  | v => (read v).map some

/-- The members of an object, all of whose keys are texts. -/
def asMembers : Json → Option (List (String × Json))
  | .object ms => ms.mapM fun (k, v) => k.map fun k => (String.ofList k, v)
  | _ => none

/-- Each known field's values. No field may come twice; other fields are ignored. -/
def pick (fields : List String) (ms : List (String × Json)) : Option (List (Option Json)) :=
  fields.mapM fun f =>
    match ms.filter (·.1 == f) with
    | [] => some none
    | [(_, v)] => some (some v)
    | _ => none

/-- **The fields of a record**, in the given order. An object names them; an array gives the first
of them without names. -/
def asRecord (fields : List String) : Json → Option (List (Option Json))
  | .array vs =>
    if vs.length ≤ fields.length then
      some (vs.map some ++ List.replicate (fields.length - vs.length) none)
    else none
  | v => (asMembers v).bind (pick fields)

/-- The value of a field, or a default where the field is missing. -/
def fieldOr {α : Type} (default : α) (read : Json → Option α) : Option Json → Option α
  | none => some default
  | some v => read v

/-! ## Writing -/

/-- A character inside a JSON string. -/
def quotedChar (c : Char) : List Char :=
  if c = '"' then ['\\', '"']
  else if c = '\\' then ['\\', '\\']
  else if c = '\x08' then ['\\', 'b']
  else if c = '\x0c' then ['\\', 'f']
  else if c = '\n' then ['\\', 'n']
  else if c = '\r' then ['\\', 'r']
  else if c = '\t' then ['\\', 't']
  else if c.toNat < 0x20 then '\\' :: 'u' :: Hex.lower 4 c.toNat
  else [c]

/-- A text as a JSON string. -/
def quote (s : List Char) : List Char := '"' :: s.flatMap quotedChar ++ ['"']

/-- **An object** on one line, from its members' keys and written values. -/
def objectText (ms : List (List Char × List Char)) : List Char :=
  '\x7b' :: List.intercalate [','] (ms.map fun (k, v) => quote k ++ [':'] ++ v) ++ ['\x7d']

/-- **An object** with a line for each member, indented by two blanks. An object without members
has no lines. -/
def objectLines (ms : List (List Char × List Char)) : List Char :=
  if ms.isEmpty then ['\x7b', '\x7d']
  else
    ['\x7b', '\n'] ++
      List.intercalate [',', '\n']
        (ms.map fun (k, v) => [' ', ' '] ++ quote k ++ [':', ' '] ++ v) ++
      ['\n', '\x7d']

end Json

end TemplateShare
