import TemplateShare.Yaml.Token.Scan

/-! # YAML documents

A document is a tree of scalars, sequences and mappings, with aliases as leaves and a table of the
anchored nodes that aliases refer to:

* **`Node`**, **`Document`**: the tree, and the tree with its anchors.
* **`Document.ofTokens`**: the one document of a token list.
* **`Document.parse`**: the one document of a text.

Keeping aliases as numbers allows a node to refer to a collection that contains it. -/

namespace TemplateShare.Yaml

/-! ## Nodes -/

/-- **A node.** Tags are resolved: `none` where the node has no tag or the non-specific one. -/
inductive Node where
  /-- A use of the anchored node with this number. -/
  | alias (number : Nat)
  | scalar (tag : Option (List Char)) (style : ScalarStyle) (text : List Char)
  | sequence (tag : Option (List Char)) (items : List Node)
  | mapping (tag : Option (List Char)) (entries : List (Node × Node))

/-- The node that stands where nothing is written. -/
def Node.empty : Node := .scalar none .plain []

/-- **A document**: its root, the anchored node that each number stands for, and how many nodes it
holds. -/
structure Document where
  root : Node
  anchored : List (Nat × Node) := []
  size : Nat := 0

/-- The node that an alias refers to. -/
def Document.lookup (d : Document) (number : Nat) : Option Node := d.anchored.lookup number

/-! ## Tags -/

/-- The prefix that a tag handle abbreviates. The first matching declaration counts, and `!` and
`!!` have a meaning without one. -/
def expandHandle? (declared : List (List Char × List Char)) (handle : List Char) :
    Option (List Char) :=
  (declared ++ [(['!'], ['!']), (['!', '!'], "tag:yaml.org,2002:".toList)]).lookup handle

/-- The tag that a handle and a suffix name. -/
def resolveTag (declared : List (List Char × List Char)) (handle suffix : List Char) :
    Except Error (List Char) :=
  if handle.isEmpty then .ok suffix
  else
    match expandHandle? declared handle with
    | some lead => .ok (lead ++ suffix)
    | none => .error .layout

/-! ## From tokens to nodes -/

/-- **What is known while nodes are read**: the declared tag handles, the number that each anchor
name stands for (latest first), for every anchor so far its number and the place in the order of
anchors (latest first), the anchored nodes by that place, and the number of nodes. -/
structure Reading where
  declared : List (List Char × List Char) := []
  names : List (List Char × Nat) := []
  places : List (Nat × Nat) := []
  nodes : List (Nat × Node) := []
  size : Nat := 0

namespace Reading

/-- **Number an anchor.** Its number is how many different names came before, so it is given when
its node starts and may be used inside that node. A later anchor of the same number takes over.
The result is the place of the anchor in the order of anchors. -/
def declare (r : Reading) (name : List Char) : Nat × Reading :=
  let number := (r.names.map Prod.fst).eraseDups.length
  let place := r.places.length
  (place, { r with names := (name, number) :: r.names, places := (number, place) :: r.places })

/-- Record the node of an anchor. -/
def attach (r : Reading) (place : Nat) (n : Node) : Reading :=
  { r with nodes := (place, n) :: r.nodes }

/-- Count `n` more nodes. -/
def count (r : Reading) (n : Nat) : Reading := { r with size := r.size + n }

/-- The anchored nodes by number, the latest anchor of a number first. -/
def anchored (r : Reading) : List (Nat × Node) :=
  r.places.filterMap fun (number, place) => (r.nodes.lookup place).map (number, ·)

end Reading

/-- The anchor and tag in front of a node, in either order, and the tokens behind them. -/
def properties : List Token →
    Option (List Char) × Option (List Char × List Char) × List Token
  | .anchor a :: .tag h s :: ts => (some a, some (h, s), ts)
  | .anchor a :: ts => (some a, none, ts)
  | .tag h s :: .anchor a :: ts => (some a, some (h, s), ts)
  | .tag h s :: ts => (none, some (h, s), ts)
  | ts => (none, none, ts)

/-- Whether the next token is one of those that leave a block mapping's key or value empty. -/
def endsBlockItem : List Token → Bool
  | .key :: _ | .value :: _ | .blockEnd :: _ => true
  | _ => false

/-- A reader of nodes: what is known, the tokens, and the result with the tokens behind it. -/
abbrev NodeReader (α : Type) := Reading → List Token → Except Error (α × Reading × List Token)

mutual

/-- **Read a node.** `inBlock` allows block collections, and `indentless` allows a block sequence
that is not indented deeper than its mapping. -/
def readNode (inBlock indentless : Bool) : Nat → NodeReader Node
  | 0, _, _ => .error .layout
  | fuel + 1, r, ts =>
    match ts with
    | .alias name :: ts =>
      match r.names.lookup name with
      | some number => .ok (.alias number, r.count 1, ts)
      | none => .error .unknownAnchor
    | _ => do
      let (anchor, handle, ts) := properties ts
      let tag ← match handle with
        | none => pure none
        | some (h, s) => (resolveTag r.declared h s).map some
      -- The number is given before the content is read, so that the content may refer to it.
      let (place, r) := match anchor with
        | none => (none, r)
        | some name => (r.declare name).map some id
      let (n, r, ts) ← readContent inBlock indentless tag (anchor.isSome || tag.isSome) fuel r ts
      .ok (n, match place with | none => r | some k => r.attach k n, ts)

/-- Read a node behind its properties; only a node that has some may be empty. -/
def readContent (inBlock indentless : Bool) (tag : Option (List Char)) (mayBeEmpty : Bool) :
    Nat → NodeReader Node
  | 0, _, _ => .error .layout
  | fuel + 1, r, ts =>
    match ts with
    | .scalar style text :: ts =>
      .ok (.scalar (if tag == some ['!'] then none else tag) style text, r.count 1, ts)
    | .flowSequenceStart :: ts => do
      let (items, r, ts) ← readFlowSequence true fuel (r.count 2) ts
      .ok (.sequence tag items, r, ts)
    | .flowMappingStart :: ts => do
      let (entries, r, ts) ← readFlowMapping true fuel (r.count 2) ts
      .ok (.mapping tag entries, r, ts)
    | .blockEntry :: _ =>
      if indentless then do
        let (items, r, ts) ← readIndentless fuel (r.count 2) ts
        .ok (.sequence tag items, r, ts)
      else if mayBeEmpty then .ok (.scalar tag .plain [], r.count 1, ts)
      else .error .layout
    | .blockSequenceStart :: rest =>
      if inBlock then do
        let (items, r, ts) ← readBlockSequence fuel (r.count 2) rest
        .ok (.sequence tag items, r, ts)
      else if mayBeEmpty then .ok (.scalar tag .plain [], r.count 1, ts)
      else .error .layout
    | .blockMappingStart :: rest =>
      if inBlock then do
        let (entries, r, ts) ← readBlockMapping fuel (r.count 2) rest
        .ok (.mapping tag entries, r, ts)
      else if mayBeEmpty then .ok (.scalar tag .plain [], r.count 1, ts)
      else .error .layout
    | ts =>
      if mayBeEmpty then .ok (.scalar tag .plain [], r.count 1, ts) else .error .layout

/-- Read the entries of a block sequence and its end. -/
def readBlockSequence : Nat → NodeReader (List Node)
  | 0, _, _ => .error .layout
  | fuel + 1, r, ts =>
    match ts with
    | .blockEnd :: ts => .ok ([], r, ts)
    | .blockEntry :: ts => do
      let (n, r, ts) ←
        match ts with
        | .blockEntry :: _ | .blockEnd :: _ => .ok (Node.empty, r.count 1, ts)
        | _ => readNode true false fuel r ts
      let (ns, r, ts) ← readBlockSequence fuel r ts
      .ok (n :: ns, r, ts)
    | _ => .error .layout

/-- Read the entries of a block sequence that stands at the indentation of its mapping. -/
def readIndentless : Nat → NodeReader (List Node)
  | 0, _, _ => .error .layout
  | fuel + 1, r, ts =>
    match ts with
    | .blockEntry :: ts => do
      let (n, r, ts) ←
        match ts with
        | .blockEntry :: _ | .key :: _ | .value :: _ | .blockEnd :: _ =>
          .ok (Node.empty, r.count 1, ts)
        | _ => readNode true false fuel r ts
      let (ns, r, ts) ← readIndentless fuel r ts
      .ok (n :: ns, r, ts)
    | ts => .ok ([], r, ts)

/-- Read the entries of a block mapping and its end. -/
def readBlockMapping : Nat → NodeReader (List (Node × Node))
  | 0, _, _ => .error .layout
  | fuel + 1, r, ts =>
    match ts with
    | .blockEnd :: ts => .ok ([], r, ts)
    | .key :: ts => do
      let (k, r, ts) ←
        if endsBlockItem ts then .ok (Node.empty, r.count 1, ts)
        else readNode true true fuel r ts
      let (v, r, ts) ← readBlockValue fuel r ts
      let (es, r, ts) ← readBlockMapping fuel r ts
      .ok ((k, v) :: es, r, ts)
    | _ => .error .layout

/-- Read the value of a block mapping's entry, which may be missing or empty. -/
def readBlockValue : Nat → NodeReader Node
  | 0, _, _ => .error .layout
  | fuel + 1, r, ts =>
    match ts with
    | .value :: ts =>
      if endsBlockItem ts then .ok (Node.empty, r.count 1, ts)
      else readNode true true fuel r ts
    | ts => .ok (Node.empty, r.count 1, ts)

/-- Read the entries of a flow sequence and its end. An entry may be a mapping of one pair. -/
def readFlowSequence (isFirst : Bool) : Nat → NodeReader (List Node)
  | 0, _, _ => .error .layout
  | fuel + 1, r, ts => do
    match ts with
    | .flowSequenceEnd :: ts => .ok ([], r, ts)
    | _ =>
      let ts ←
        if isFirst then .ok ts
        else
          match ts with
          | .flowEntry :: ts => .ok ts
          | _ => .error .layout
      match ts with
      | .flowSequenceEnd :: ts => .ok ([], r, ts)
      | .key :: ts => do
        let (n, r, ts) ← readFlowPair fuel (r.count 2) ts
        let (ns, r, ts) ← readFlowSequence false fuel r ts
        .ok (n :: ns, r, ts)
      | ts => do
        let (n, r, ts) ← readNode false false fuel r ts
        let (ns, r, ts) ← readFlowSequence false fuel r ts
        .ok (n :: ns, r, ts)

/-- Read the one pair of a mapping inside a flow sequence. Where the key is empty, the token that
shows it is taken with it. -/
def readFlowPair : Nat → NodeReader Node
  | 0, _, _ => .error .layout
  | fuel + 1, r, ts => do
    let (k, r, ts) ←
      match ts with
      | .value :: ts | .flowEntry :: ts | .flowSequenceEnd :: ts =>
        .ok (Node.empty, r.count 1, ts)
      | ts => readNode false false fuel r ts
    match ts with
    | .value :: ts =>
      match ts with
      | .flowEntry :: _ | .flowSequenceEnd :: _ =>
        .ok (.mapping none [(k, Node.empty)], r.count 1, ts)
      | _ => do
        let (v, r, ts) ← readNode false false fuel r ts
        .ok (.mapping none [(k, v)], r, ts)
    | ts => .ok (.mapping none [(k, Node.empty)], r.count 1, ts)

/-- Read the entries of a flow mapping and its end. -/
def readFlowMapping (isFirst : Bool) : Nat → NodeReader (List (Node × Node))
  | 0, _, _ => .error .layout
  | fuel + 1, r, ts => do
    match ts with
    | .flowMappingEnd :: ts => .ok ([], r, ts)
    | _ =>
      let ts ←
        if isFirst then .ok ts
        else
          match ts with
          | .flowEntry :: ts => .ok ts
          | _ => .error .layout
      match ts with
      | .flowMappingEnd :: ts => .ok ([], r, ts)
      | .key :: ts => do
        let (k, r, ts) ←
          match ts with
          | .value :: _ | .flowEntry :: _ | .flowMappingEnd :: _ =>
            .ok (Node.empty, r.count 1, ts)
          | ts => readNode false false fuel r ts
        let (v, r, ts) ← readFlowValue fuel r ts
        let (es, r, ts) ← readFlowMapping false fuel r ts
        .ok ((k, v) :: es, r, ts)
      | ts => do
        let (k, r, ts) ← readNode false false fuel r ts
        let (es, r, ts) ← readFlowMapping false fuel (r.count 1) ts
        .ok ((k, Node.empty) :: es, r, ts)

/-- Read the value of a flow mapping's entry, which may be missing or empty. -/
def readFlowValue : Nat → NodeReader Node
  | 0, _, _ => .error .layout
  | fuel + 1, r, ts =>
    match ts with
    | .value :: ts =>
      match ts with
      | .flowEntry :: _ | .flowMappingEnd :: _ => .ok (Node.empty, r.count 1, ts)
      | _ => readNode false false fuel r ts
    | ts => .ok (Node.empty, r.count 1, ts)

end

/-! ## Documents -/

/-- The directives in front of a document: at most one version, 1.1 or 1.2, and no tag handle
declared twice. -/
def readDirectives : Bool → List (List Char × List Char) → List Token →
    Except Error (List (List Char × List Char) × List Token)
  | seen, declared, .versionDirective major minor :: ts =>
    if seen || major != 1 || (minor != 1 && minor != 2) then .error .layout
    else readDirectives true declared ts
  | seen, declared, .tagDirective handle expansion :: ts =>
    if (declared.lookup handle).isSome then .error .layout
    else readDirectives seen (declared ++ [(handle, expansion)]) ts
  | _, declared, ts => .ok (declared, ts)

/-- Whether a document has no root node because its end follows at once. -/
def endsDocument : List Token → Bool
  | [] | .versionDirective .. :: _ | .tagDirective .. :: _ | .documentStart :: _
  | .documentEnd :: _ => true
  | _ => false

/-- **The one document of a token list.** Only a document with a start line may be empty, but an
empty stream counts as an empty document. Behind the document only `...` lines may follow. -/
def Document.ofTokens (ts : List Token) : Except Error Document := do
  let fuel := 4 * ts.length + 8
  match ts with
  | [] => .ok { root := Node.empty, size := 1 }
  | .versionDirective .. :: _ | .tagDirective .. :: _ | .documentStart :: _ =>
    let (declared, ts) ← readDirectives false [] ts
    match ts with
    | .documentStart :: ts =>
      if endsDocument ts then finish (Node.empty, { size := 1 }, ts)
      else finish (← readNode true false fuel { declared := declared } ts)
    | _ => .error .layout
  | _ => finish (← readNode true false fuel {} ts)
where
  /-- The document of a root node, if nothing but `...` lines follows. -/
  finish : Node × Reading × List Token → Except Error Document
    | (n, r, ts) =>
      if (ts.dropWhile (· == .documentEnd)).isEmpty then .ok ⟨n, r.anchored, r.size⟩
      else .error .documentCount

/-- **The one document of a text.** -/
def Document.parse (text : List Char) : Except Error Document := do
  Document.ofTokens (← Token.scan text)

end TemplateShare.Yaml
