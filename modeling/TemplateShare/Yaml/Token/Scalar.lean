import TemplateShare.Text.Hex
import TemplateShare.Yaml.Token

/-! # The text of YAML scalars

How the five kinds of scalar are read. Each reader starts at the cursor where its scalar starts
and gives the text together with the cursor behind it:

* **`plainScalar`**: words up to an indicator, folded over lines.
* **`quotedScalar`**: a single or double quoted scalar, folded over lines.
* **`blockScalar`**: a literal or folded block, by indentation. -/

namespace TemplateShare.Yaml

/-! ## Folding -/

/-- **Line folding.** What the white space between two words stands for. Without a line break it
stands for itself; one ordinary break is a space; of more than one, the first is dropped; a line
or paragraph separator that comes first is kept. -/
def foldGap (broken : Bool) (blanks first more : List Char) : List Char :=
  if broken then
    match first with
    | '\n' :: _ => if more.isEmpty then [' '] else more
    | _ => first ++ more
  else blanks

/-- The white space between two words of a scalar. -/
structure Gap where
  /-- Whether a line break is part of it. -/
  broken : Bool := false
  /-- The blanks before the first break. -/
  blanks : List Char := []
  /-- The text of the first break. -/
  first : List Char := []
  /-- The text of the breaks after it. -/
  more : List Char := []

/-- What the gap stands for in the scalar. -/
def Gap.text (g : Gap) : List Char := foldGap g.broken g.blanks g.first g.more

/-- **Read the white space between two words.** With `floor`, a tab before that column on a line
after the first is refused, because it would stand in for indentation. -/
def readGap (floor : Option Nat) : Nat → Gap → Cursor → Except Error (Gap × Cursor)
  | 0, g, c => .ok (g, c)
  | fuel + 1, g, c =>
    match c.rest with
    | [] => .ok (g, c)
    | x :: _ =>
      if isBlank x then
        if g.broken && floor.any (c.column < ·) && x == '\t' then .error .token
        else if g.broken then readGap floor fuel g (c.advance 1)
        else readGap floor fuel { g with blanks := g.blanks ++ [x] } (c.advance 1)
      else if isBreak x then
        if g.broken then
          readGap floor fuel { g with more := g.more ++ breakText c.rest } c.skipBreak
        else
          readGap floor fuel
            { g with broken := true, blanks := [], first := breakText c.rest } c.skipBreak
      else .ok (g, c)

/-! ## Plain scalars -/

/-- Whether a flow indicator ends a plain scalar inside a flow collection. -/
def isFlowIndicator (c : Char) : Bool :=
  c == ',' || c == '[' || c == ']' || c == '\x7b' || c == '\x7d'

/-- **A plain word.** The characters up to white space, up to a colon that ends a key, or in a
flow collection up to a flow indicator. In a flow collection a colon before a flow indicator or a
question mark is refused. -/
def plainWord (inFlow : Bool) : List Char → Except Error (List Char)
  | [] => .ok []
  | x :: r =>
    if isSpacing x then .ok []
    else if inFlow && x == ':' && r.head?.any (fun y => isFlowIndicator y || y == '?') then
      .error .token
    else if x == ':' && endsWord r then .ok []
    else if inFlow && isFlowIndicator x then .ok []
    else (plainWord inFlow r).map (x :: ·)

/-- What is left of a plain scalar after the gap `g`: more words, as long as they are indented to
column `floor` or stand in a flow collection. The last component tells whether the white space
behind the scalar has a line break. -/
def plainRest (inFlow : Bool) (floor : Nat) :
    Nat → Gap → Cursor → Except Error (List Char × Cursor × Bool)
  | 0, g, c => .ok ([], c, g.broken)
  | fuel + 1, g, c =>
    if c.atDocumentIndicator || c.at? '#' then .ok ([], c, g.broken)
    else do
      let word ← plainWord inFlow c.rest
      if word.isEmpty then .ok ([], c, g.broken)
      else
        let c := c.advance word.length
        let (next, c) ← readGap (some floor) c.rest.length {} c
        if c.rest.isEmpty || (!inFlow && next.broken && c.column < floor) then
          .ok (g.text ++ word, c, next.broken)
        else
          let (more, c, broken) ← plainRest inFlow floor fuel next c
          .ok (g.text ++ word ++ more, c, broken)

/-- **Read a plain scalar** whose continuation lines are indented to column `floor`. -/
def plainScalar (inFlow : Bool) (floor : Nat) (c : Cursor) :
    Except Error (List Char × Cursor × Bool) :=
  plainRest inFlow floor (c.rest.length + 1) {} c

/-! ## Quoted scalars -/

/-- The character that a one-letter escape stands for. -/
def escapeLetter? : Char → Option Char
  | '0' => some '\x00'
  | 'a' => some '\x07'
  | 'b' => some '\x08'
  | 't' => some '\t'
  | '\t' => some '\t'
  | 'n' => some '\n'
  | 'v' => some '\x0b'
  | 'f' => some '\x0c'
  | 'r' => some '\r'
  | 'e' => some '\x1b'
  | ' ' => some ' '
  | '"' => some '"'
  | '/' => some '/'
  | '\\' => some '\\'
  | 'N' => some '\u0085'
  | '_' => some '\u00a0'
  | 'L' => some '\u2028'
  | 'P' => some '\u2029'
  | _ => none

/-- The number of hexadecimal digits behind a numeric escape. -/
def escapeWidth? : Char → Option Nat
  | 'x' => some 2
  | 'u' => some 4
  | 'U' => some 8
  | _ => none

/-- The character with a given code, if there is one. -/
def charOfCode? (n : Nat) : Option Char :=
  if n.isValidChar then some (Char.ofNat n) else none

/-- **A run of a quoted scalar** up to white space, the closing quote or the end of the text. The
flag tells whether an escaped line break ends the run. -/
def quotedRun (double : Bool) : Nat → Cursor → Except Error (List Char × Bool × Cursor)
  | 0, c => .ok ([], false, c)
  | fuel + 1, c =>
    match c.rest with
    | [] => .ok ([], false, c)
    | x :: r =>
      if isSpacing x then .ok ([], false, c)
      else if !double && x == '\'' then
        if r.head? == some '\'' then do
          let (text, cut, c) ← quotedRun double fuel (c.advance 2)
          .ok ('\'' :: text, cut, c)
        else .ok ([], false, c)
      else if double && x == '"' then .ok ([], false, c)
      else if double && x == '\\' then
        match r with
        | [] => .error .token
        | y :: digits =>
          if isBreak y then .ok ([], true, (c.advance 1).skipBreak)
          else
            match escapeLetter? y with
            | some z => do
              let (text, cut, c) ← quotedRun double fuel (c.advance 2)
              .ok (z :: text, cut, c)
            | none =>
              match escapeWidth? y with
              | none => .error .token
              | some n =>
                if digits.length < n then .error .token
                else
                  match (Hex.number? (digits.take n)).bind charOfCode? with
                  | none => .error .token
                  | some z => do
                    let (text, cut, c) ← quotedRun double fuel (c.advance (2 + n))
                    .ok (z :: text, cut, c)
      else do
        let (text, cut, c) ← quotedRun double fuel (c.advance 1)
        .ok (x :: text, cut, c)

/-- What is left of a quoted scalar behind its opening quote. -/
def quotedRest (double : Bool) : Nat → Cursor → Except Error (List Char × Cursor)
  | 0, _ => .error .token
  | fuel + 1, c =>
    if c.atDocumentIndicator || c.rest.isEmpty then .error .token
    else do
      let (text, cut, c) ← quotedRun double c.rest.length c
      if c.at? (if double then '"' else '\'') then .ok (text, c.advance 1)
      else
        let (g, c) ← readGap none c.rest.length { broken := cut } c
        let (more, c) ← quotedRest double fuel c
        .ok (text ++ g.text ++ more, c)

/-- **Read a quoted scalar**, from its opening quote to behind its closing quote. -/
def quotedScalar (double : Bool) (c : Cursor) : Except Error (List Char × Cursor) :=
  quotedRest double c.rest.length (c.advance 1)

/-! ## Block scalars -/

/-- What happens to the line breaks at the end of a block scalar. -/
inductive Chomp where
  /-- Drop them all. -/
  | strip
  /-- Keep one. -/
  | clip
  /-- Keep them all. -/
  | keep
deriving DecidableEq, Repr

/-- **The header of a block scalar**: chomping and indentation indicators in either order. An
indentation of zero columns is refused. -/
def blockHeader (c : Cursor) : Except Error (Chomp × Option Nat × Cursor) :=
  match c.rest with
  | x :: y :: _ =>
    if let some chomp := chomp? x then
      if y.isDigit then digit y chomp (c.advance 2) else .ok (chomp, none, c.advance 1)
    else if x.isDigit then
      match chomp? y with
      | some chomp => digit x chomp (c.advance 2)
      | none => digit x .clip (c.advance 1)
    else .ok (.clip, none, c)
  | [x] =>
    if let some chomp := chomp? x then .ok (chomp, none, c.advance 1)
    else if x.isDigit then digit x .clip (c.advance 1)
    else .ok (.clip, none, c)
  | [] => .ok (.clip, none, c)
where
  /-- The chomping that an indicator asks for. -/
  chomp? : Char → Option Chomp
    | '+' => some .keep
    | '-' => some .strip
    | _ => none
  /-- The header with the indentation digit `d`. -/
  digit (d : Char) (chomp : Chomp) (c : Cursor) : Except Error (Chomp × Option Nat × Cursor) :=
    if d == '0' then .error .token else .ok (chomp, some (d.toNat - '0'.toNat), c)

/-- **The blank lines before the next line of a block.** Without a known indentation the widest
blank line and the parent's indentation settle it. A tab in the indentation is refused. Gives the
indentation, the text of the breaks, and the cursor at the next line's text. -/
def blockBlankLines (least : Nat) (indent : Option Nat) :
    Nat → Nat → Cursor → Except Error (Nat × List Char × Cursor)
  | 0, _, _ => .error .token
  | fuel + 1, widest, c =>
    let wanted := match indent with
      | some n => n - c.column
      | none => c.rest.length
    let c := c.advance ((c.rest.take wanted).takeWhile (· == ' ')).length
    let widest := max widest c.column
    let inside := indent.all (c.column < ·)
    if inside && c.at? '\t' then .error .token
    else if c.atBreak then do
      let (n, breaks, d) ← blockBlankLines least indent fuel widest c.skipBreak
      .ok (n, breakText c.rest ++ breaks, d)
    else .ok (indent.getD (max widest least), [], c)

/-- The separation between two lines of a block scalar: a literal block keeps the breaks; a folded
block turns a single break between two lines that do not start with a blank into a space. -/
def blockGap (fold leadBlank nextBlank : Bool) (first more : List Char) : List Char :=
  if fold && first.head? == some '\n' && !leadBlank && !nextBlank then
    if more.isEmpty then [' '] else more
  else first ++ more

/-- **The lines of a block scalar.** Gives the text up to the last line, the text of the break
behind that line, and the breaks of the blank lines after it. -/
def blockLines (fold : Bool) (least indent : Nat) :
    Nat → Bool → List Char → List Char → Cursor →
      Except Error (List Char × List Char × List Char × Cursor)
  | 0, _, first, more, c => .ok ([], first, more, c)
  | fuel + 1, leadBlank, first, more, c =>
    if c.column == indent && !c.rest.isEmpty then do
      -- Lines that start with a blank keep the breaks around them, also where others are folded.
      let gap := blockGap fold leadBlank c.atBlank first more
      let line := c.rest.takeWhile (!isBreak ·)
      let e := c.skipWhile (!isBreak ·)
      let d := if e.atBreak then e.skipBreak else e
      let (_, blanks, d) ← blockBlankLines least (some indent) (d.rest.length + 1) 0 d
      let (text, last, tail, d) ←
        blockLines fold least indent fuel c.atBlank (breakText e.rest) blanks d
      .ok (gap ++ line ++ text, last, tail, d)
    else .ok ([], first, more, c)

/-- **Read a block scalar** from behind its `|` or `>`, under a parent indented to `parent`
columns (or `-1`). -/
def blockScalar (fold : Bool) (parent : Int) (c : Cursor) :
    Except Error (List Char × Cursor) := do
  let (chomp, increment, c) ← blockHeader c
  let c := c.skipWhile isBlank
  let c := if c.at? '#' then c.skipWhile (!isBreak ·) else c
  if !endsLine c.rest then .error .token
  else
    let c := if c.atBreak then c.skipBreak else c
    -- A stated indentation counts from the parent, or from the margin if there is no parent.
    let wanted := increment.map fun n => if 0 ≤ parent then parent.toNat + n else n
    let least := max 1 (parent + 1).toNat
    let (indent, breaks, c) ← blockBlankLines least wanted (c.rest.length + 1) 0 c
    let (text, last, tail, c) ←
      blockLines fold least indent (c.rest.length + 1) false [] breaks c
    match chomp with
    | .strip => .ok (text, c)
    | .clip => .ok (text ++ last, c)
    | .keep => .ok (text ++ last ++ tail, c)

end TemplateShare.Yaml
