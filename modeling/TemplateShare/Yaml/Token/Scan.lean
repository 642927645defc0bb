import TemplateShare.Yaml.Token.Scalar
import TemplateShare.Yaml.Token.Tag

/-! # Reading tokens

A YAML stream as a list of tokens. Two things are not written in the text and are worked out on
the way:

* **Indentation.** A deeper column opens a block collection and a smaller one closes blocks
  (`Scanner.openBlock`, `Scanner.closeBlocks`).
* **Simple keys.** A node may turn out to be a key once its colon is read. The scanner remembers
  where such a node starts (`SimpleKey`); at the colon the `key` token is put in front of it. A
  simple key fits on one line and has its colon within 1024 characters.

`Token.scan` reads a whole stream. -/

namespace TemplateShare.Yaml

/-- **A node that may be a simple key**: where it starts, how many tokens stand before it, and
whether it has to be a key because it starts at the indentation of an open block mapping. -/
structure SimpleKey where
  required : Bool
  tokenCount : Nat
  index : Nat
  line : Nat
  column : Nat

/-- **A scanner**: the cursor, the tokens read so far (the latest first), the columns of the open
blocks (the innermost first; `-1` stands for none), the possible simple key of each flow level
(the innermost first) and whether a simple key may start here. -/
structure Scanner where
  cursor : Cursor
  tokens : List Token := []
  indent : Int := -1
  outerIndents : List Int := []
  key : Option SimpleKey := none
  outerKeys : List (Option SimpleKey) := []
  keyAllowed : Bool := true

namespace Scanner

/-- Whether the scanner is inside a flow collection. -/
def inFlow (s : Scanner) : Bool := !s.outerKeys.isEmpty

/-- Append a token and move to the cursor behind it. -/
def emit (s : Scanner) (t : Token) (c : Cursor) : Scanner :=
  { s with tokens := t :: s.tokens, cursor := c }

/-- Append a token of `n` characters. -/
def emitMark (s : Scanner) (t : Token) (n : Nat) : Scanner := s.emit t (s.cursor.advance n)

/-- Put tokens behind the first `n` tokens. -/
def insertTokens (n : Nat) (new : List Token) (tokens : List Token) : List Token :=
  tokens.take (tokens.length - n) ++ new ++ tokens.drop (tokens.length - n)

/-- **Open a block** at a column deeper than the current indentation. -/
def openBlock (s : Scanner) (column : Nat) : Bool × Scanner :=
  if !s.inFlow && s.indent < column then
    (true, { s with outerIndents := s.indent :: s.outerIndents, indent := column })
  else (false, s)

/-- **Close the blocks** that are deeper than a column. -/
def closeBlocks (s : Scanner) (column : Int) : Scanner :=
  if s.inFlow then s
  else
    let (tokens, indent, outer) := close column s.tokens s.indent s.outerIndents
    { s with tokens := tokens, indent := indent, outerIndents := outer }
where
  /-- Pop indentations until one is not deeper than `column`. -/
  close (column : Int) (tokens : List Token) (indent : Int) :
      List Int → List Token × Int × List Int
    | [] => (tokens, indent, [])
    | i :: outer =>
      if column < indent then close column (.blockEnd :: tokens) i outer
      else (tokens, indent, i :: outer)

/-- Whether the cursor is too far away for a simple key to end here. -/
def isStale (c : Cursor) (k : SimpleKey) : Bool := k.line < c.line || k.index + 1024 < c.index

/-- Forget a possible simple key that is too far away; one that had to be a key is refused. -/
def dropStale (c : Cursor) : Option SimpleKey → Except Error (Option SimpleKey)
  | none => .ok none
  | some k =>
    if isStale c k then if k.required then .error .token else .ok none else .ok (some k)

/-- Forget all possible simple keys that are too far away. -/
def dropStaleKeys (s : Scanner) : Except Error Scanner := do
  let outer ← s.outerKeys.mapM (dropStale s.cursor)
  let key ← dropStale s.cursor s.key
  .ok { s with key := key, outerKeys := outer }

/-- Give up the possible simple key of this level; one that had to be a key is refused. -/
def dropKey (s : Scanner) : Except Error Scanner :=
  if s.key.any SimpleKey.required then .error .token else .ok { s with key := none }

/-- Remember that a simple key may start here. -/
def saveKey (s : Scanner) : Except Error Scanner :=
  if s.keyAllowed then do
    let s ← s.dropKey
    let c := s.cursor
    let k : SimpleKey :=
      ⟨!s.inFlow && s.indent == (c.column : Int), s.tokens.length, c.index, c.line, c.column⟩
    .ok { s with key := some k }
  else .ok s

/-- **Skip to the next token**: blanks, comments and line breaks. A line break outside flow
collections allows a simple key; a tab may stand only where none is allowed. -/
def skipToToken (inFlow : Bool) : Nat → Bool → Cursor → Bool × Cursor
  | 0, allowed, c => (allowed, c)
  | fuel + 1, allowed, c =>
    let c := if c.column == 0 && c.at? '\ufeff' then c.advance 1 else c
    let c := c.skipWhile fun x => x == ' ' || (x == '\t' && (inFlow || !allowed))
    let c := if c.at? '#' then c.skipWhile (!isBreak ·) else c
    if c.atBreak then skipToToken inFlow fuel (allowed || !inFlow) c.skipBreak else (allowed, c)

/-- A block entry `-`, which opens a block sequence where it is the first. -/
def blockEntry (s : Scanner) : Except Error Scanner := do
  if !s.inFlow && !s.keyAllowed then .error .token
  else
    let (new, s) := s.openBlock s.cursor.column
    let s := if new then { s with tokens := .blockSequenceStart :: s.tokens } else s
    let s ← s.dropKey
    .ok ({ s with keyAllowed := true }.emitMark .blockEntry 1)

/-- A key written with `?`, which opens a block mapping where it is the first. -/
def explicitKey (s : Scanner) : Except Error Scanner := do
  if !s.inFlow && !s.keyAllowed then .error .token
  else
    let (new, s) := s.openBlock s.cursor.column
    let s := if new then { s with tokens := .blockMappingStart :: s.tokens } else s
    let s ← s.dropKey
    .ok ({ s with keyAllowed := !s.inFlow }.emitMark .key 1)

/-- **The colon of a mapping.** It makes the possible simple key a key; without one it follows an
explicit or an empty key. -/
def mappingValue (s : Scanner) : Except Error Scanner :=
  match s.key with
  | some k =>
    -- The key token belongs in front of the tokens that have been read since `k` was remembered.
    let (new, s) := s.openBlock k.column
    let start := if new then [.key, .blockMappingStart] else [.key]
    let s := { s with tokens := insertTokens k.tokenCount start s.tokens }
    .ok ({ s with key := none, keyAllowed := false }.emitMark .value 1)
  | none =>
    if !s.inFlow && !s.keyAllowed then .error .token
    else
      let (new, s) := s.openBlock s.cursor.column
      let s := if new then { s with tokens := .blockMappingStart :: s.tokens } else s
      .ok ({ s with keyAllowed := !s.inFlow }.emitMark .value 1)

/-- The start of a flow collection, which may be a simple key. -/
def flowStart (s : Scanner) (t : Token) : Except Error Scanner := do
  let s ← s.saveKey
  .ok ({ s with key := none, outerKeys := s.key :: s.outerKeys, keyAllowed := true }.emitMark t 1)

/-- The end of a flow collection. Outside of flow collections it closes nothing. -/
def flowEnd (s : Scanner) (t : Token) : Except Error Scanner := do
  let s ← s.dropKey
  let s :=
    match s.outerKeys with
    | [] => s
    | k :: outer => { s with key := k, outerKeys := outer }
  .ok ({ s with keyAllowed := false }.emitMark t 1)

/-- A directive or document indicator, before which all blocks end. -/
def closeAll (s : Scanner) : Except Error Scanner := do
  let s ← (s.closeBlocks (-1)).dropKey
  .ok { s with keyAllowed := false }

/-- A scalar in quotes. -/
def quoted (s : Scanner) (double : Bool) : Except Error Scanner := do
  let s ← s.saveKey
  let (text, c) ← quotedScalar double s.cursor
  let style := if double then ScalarStyle.doubleQuoted else .singleQuoted
  .ok ({ s with keyAllowed := false }.emit (.scalar style text) c)

/-- A block scalar. -/
def block (s : Scanner) (fold : Bool) : Except Error Scanner := do
  let s ← s.dropKey
  let (text, c) ← blockScalar fold s.indent (s.cursor.advance 1)
  let style := if fold then ScalarStyle.folded else .literal
  .ok ({ s with keyAllowed := true }.emit (.scalar style text) c)

/-- A plain scalar. A line break behind it allows a simple key again. -/
def plain (s : Scanner) : Except Error Scanner := do
  let s ← s.saveKey
  let (text, c, broken) ← plainScalar s.inFlow (s.indent + 1).toNat s.cursor
  .ok ({ s with keyAllowed := broken }.emit (.scalar .plain text) c)

/-- Whether a plain scalar may start here. -/
def startsPlain (inFlow : Bool) : List Char → Bool
  | [] => false
  | c :: r =>
    (!isSpacing c && !"-?:,[]\x7b\x7d#&*!|>'\"%@`".toList.contains c) ||
      (c == '-' && !(r.head?.any isBlank)) ||
      (!inFlow && (c == '?' || c == ':') && !endsWord r)

/-- **Read the token at the cursor**, which is not at the end of the text. -/
def readToken (s : Scanner) : Except Error Scanner :=
  match s.cursor.rest with
  | [] => .ok s
  | x :: r =>
    if s.cursor.column == 0 && x == '%' then do
      let s ← s.closeAll
      let (t, c) ← readDirective s.cursor
      .ok (s.emit t c)
    else if s.cursor.atDocumentIndicator then do
      let s ← s.closeAll
      .ok (s.emitMark (if x == '-' then .documentStart else .documentEnd) 3)
    else if x == '[' then s.flowStart .flowSequenceStart
    else if x == '\x7b' then s.flowStart .flowMappingStart
    else if x == ']' then s.flowEnd .flowSequenceEnd
    else if x == '\x7d' then s.flowEnd .flowMappingEnd
    else if x == ',' then do
      let s ← s.dropKey
      .ok ({ s with keyAllowed := true }.emitMark .flowEntry 1)
    else if x == '-' && endsWord r then s.blockEntry
    else if x == '?' && (s.inFlow || endsWord r) then s.explicitKey
    else if x == ':' && (s.inFlow || endsWord r) then s.mappingValue
    else if x == '*' || x == '&' then do
      let s ← s.saveKey
      let (name, c) ← anchorName s.cursor
      .ok ({ s with keyAllowed := false }.emit (if x == '*' then .alias name else .anchor name) c)
    else if x == '!' then do
      let s ← s.saveKey
      let (t, c) ← readTag s.inFlow s.cursor
      .ok ({ s with keyAllowed := false }.emit t c)
    else if x == '|' && !s.inFlow then s.block false
    else if x == '>' && !s.inFlow then s.block true
    else if x == '\'' then s.quoted false
    else if x == '"' then s.quoted true
    else if startsPlain s.inFlow s.cursor.rest then s.plain
    else .error .token

/-- **Read the next token**, or close everything at the end of the text. The flag tells whether
the end was reached. -/
def next (s : Scanner) : Except Error (Bool × Scanner) := do
  let (allowed, c) := skipToToken s.inFlow (s.cursor.rest.length + 1) s.keyAllowed s.cursor
  -- A required key that has grown stale is refused even where its block ends.
  let s ← { s with cursor := c, keyAllowed := allowed }.dropStaleKeys
  let s := s.closeBlocks c.column
  if c.rest.isEmpty then do
    let s ← (s.closeBlocks (-1)).dropKey
    .ok (true, s)
  else do
    let s ← s.readToken
    .ok (false, s)

/-- Read tokens to the end of the text. -/
def run : Nat → Scanner → Except Error (List Token)
  | 0, _ => .error .token
  | fuel + 1, s => do
    let (ended, s) ← s.next
    if ended then .ok s.tokens.reverse else run fuel s

end Scanner

/-- **The tokens of a YAML stream.** Every token but the last takes at least one character, so
the length of the text bounds their number. -/
def Token.scan (text : List Char) : Except Error (List Token) :=
  if text.all isAdmissible then Scanner.run (text.length + 1) { cursor := { rest := text } }
  else .error .character

end TemplateShare.Yaml
