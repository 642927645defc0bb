import TemplateShare.Text.Hex
import TemplateShare.Yaml.Plain

/-! # Writing text as a YAML scalar

A text is written so that a reader who resolves scalars gets the same text back: plain where that
is unambiguous, in single quotes where it would be taken for something else, as a literal block
where it has line feeds, and in double quotes with escapes where none of these can carry it.

* **`Scalar.style`**: which of the four it is.
* **`Scalar.print`**: the scalar. -/

namespace TemplateShare.Yaml.Scalar

/-! ## What a text contains -/

/-- The characters that YAML takes for line breaks. -/
def isBreak (c : Char) : Bool :=
  c == '\n' || c == '\r' || c == '\u0085' || c == '\u2028' || c == '\u2029'

/-- Blanks and line breaks. -/
def isBlank (c : Char) : Bool := c == ' ' || c == '\t' || isBreak c

/-- **Characters that are written as they are**; the others need an escape. -/
def isPrintable (c : Char) : Bool :=
  let n := c.toNat
  n == 0x0A || (0x20 ≤ n && n ≤ 0x7E) || (0xA0 ≤ n && n ≤ 0xD7FF) ||
    (0xE000 ≤ n && n ≤ 0xFFFD && n != 0xFEFF) || 0x10000 ≤ n

/-- Whether two characters that stand side by side have the given properties. -/
def hasPair (p q : Char → Bool) : List Char → Bool
  | c :: d :: s => (p c && q d) || hasPair p q (d :: s)
  | _ => false

/-- The characters that mean something at the start of a scalar. -/
def isOpening (c : Char) : Bool :=
  c == '#' || c == ',' || c == '[' || c == ']' || c == '\x7b' || c == '\x7d' || c == '&' ||
    c == '*' || c == '!' || c == '|' || c == '>' || c == '\'' || c == '"' || c == '%' ||
    c == '@' || c == '\x60'

/-- Whether a blank or the end follows. -/
def atGap : List Char → Bool
  | [] => true
  | c :: _ => isBlank c

/-- Whether a text would end as a key or start a comment somewhere behind its first character,
before which there is a blank or not. -/
def hasInnerIndicator (afterBlank : Bool) : List Char → Bool
  | [] => false
  | c :: s => (c == ':' && atGap s) || (c == '#' && afterBlank) || hasInnerIndicator (isBlank c) s

/-- **Whether a text contains what YAML would read as structure.** -/
def hasIndicator (s : List Char) : Bool :=
  "---".toList.isPrefixOf s || "...".toList.isPrefixOf s ||
    match s with
    | [] => false
    | c :: r =>
      isOpening c || ((c == '?' || c == ':' || c == '-') && atGap r) ||
        hasInnerIndicator (isBlank c) r

/-- A blank or a line break at an end. -/
def hasLooseEnd (s : List Char) : Bool :=
  let loose (c : Char) : Bool := c == ' ' || isBreak c
  s.head?.any loose || s.getLast?.any loose

/-- Whether a reader who resolves plain scalars takes a text for something else, or could. -/
def isMistakable (s : List Char) : Bool :=
  Plain.isPaddedDigits s ||
    match Plain.resolve s with
    | .text => false
    | _ => true

/-! ## Choosing a style -/

/-- The ways to write a scalar. -/
inductive Style where
  | plain
  | single
  | double
  | literal
deriving DecidableEq, Repr

/-- Whether quotes or a block can carry a text without escapes. -/
def isCarried (s : List Char) : Bool := s.all isPrintable && !hasPair (· == ' ') isBreak s

/-- **The style of a text.** -/
def style (s : List Char) : Style :=
  if s.contains '\n' then
    if isCarried s && s.getLast? != some ' ' then .literal else .double
  else
    let single := isCarried s && !hasPair isBreak (· == ' ') s
    let plain := single && !isMistakable s && !hasIndicator s && !hasLooseEnd s && !s.any isBreak
    if plain then .plain else if single then .single else .double

/-! ## Writing -/

/-- The letter of a short escape. -/
def escapeLetter? (c : Char) : Option Char :=
  match c.toNat with
  | 0x00 => some '0'
  | 0x07 => some 'a'
  | 0x08 => some 'b'
  | 0x09 => some 't'
  | 0x0A => some 'n'
  | 0x0B => some 'v'
  | 0x0C => some 'f'
  | 0x0D => some 'r'
  | 0x1B => some 'e'
  | 0x22 => some '"'
  | 0x5C => some '\\'
  | 0x85 => some 'N'
  | 0x2028 => some 'L'
  | 0x2029 => some 'P'
  | _ => none

/-- A character between double quotes. -/
def doubleChar (c : Char) : List Char :=
  match escapeLetter? c with
  | some x => ['\\', x]
  | none =>
    let n := c.toNat
    if isPrintable c then [c]
    else if n ≤ 0xFF then '\\' :: 'x' :: Hex.upper 2 n
    else if n ≤ 0xFFFF then '\\' :: 'u' :: Hex.upper 4 n
    else '\\' :: 'U' :: Hex.upper 8 n

/-- Text on lines that are indented; `atStart` says whether a line is about to start. -/
def indented (indent : List Char) (write : Char → List Char) (atStart : Bool) :
    List Char → List Char
  | [] => []
  | c :: s =>
    if isBreak c then c :: indented indent write true s
    else (if atStart then indent else []) ++ write c ++ indented indent write false s

/-- A character between single quotes. -/
def singleChar (c : Char) : List Char := if c = '\'' then ['\'', '\''] else [c]

/-- What follows the bar of a literal block: how far it is indented, where its text starts with a
blank, and what becomes of the line breaks at its end. -/
def blockHints (s : List Char) : List Char :=
  let indent := if s.head?.any fun c => c == ' ' || isBreak c then ['2'] else []
  let chomp :=
    match s.reverse with
    | [] => ['-']
    | c :: r => if !isBreak c then ['-'] else if r.head?.all isBreak then ['+'] else []
  indent ++ chomp

/-- **The scalar of a text**, up to the end of its last line; lines after the first are indented. A
literal block that ends with a line break ends there. -/
def print (indent : Nat) (text : String) : String :=
  let s := text.toList
  let margin := List.replicate indent ' '
  let endsInBreak := s.getLast?.any isBreak
  String.ofList <|
    match style s with
    | .plain => s ++ ['\n']
    | .single =>
      ['\''] ++ indented margin singleChar false s ++ (if endsInBreak then margin else []) ++
        ['\'', '\n']
    | .double => ['"'] ++ s.flatMap doubleChar ++ ['"', '\n']
    | .literal =>
      ['|'] ++ blockHints s ++ ['\n'] ++ indented margin (fun c => [c]) true s ++
        (if endsInBreak then [] else ['\n'])

end TemplateShare.Yaml.Scalar
