import TemplateShare.Assoc
import TemplateShare.Yaml.Node
import TemplateShare.Yaml.Plain

/-! # Typed reading of YAML documents

What a reader who knows the kind of value that it wants gets from a node. A text is any scalar as
it is written (`Document.text`), an optional value may be null (`Document.optional`), a record is a
mapping with text keys of which the unknown ones are ignored (`Document.record`, `field?`). Where no
kind is fixed, the node is unfolded into a `Value` (`Document.value`). -/

namespace TemplateShare.Yaml

/-! ## Reading with a fixed type -/

namespace Document

variable (d : Document)

/-- The node itself, or the one that an alias refers to. -/
def resolve : Node → Except Error Node
  | .alias number =>
    match d.lookup number with
    | some n => .ok n
    | none => .error .unknownAnchor
  | n => .ok n

/-- **A text**: any scalar, as it is written. -/
def text (n : Node) : Except Error String := do
  match ← d.resolve n with
  | .scalar _ _ s => .ok (String.ofList s)
  | _ => .error .shape

/-- The tag of null values. -/
def nullTag : List Char := "tag:yaml.org,2002:null".toList

/-- **An optional value.** A plain scalar that is empty or spells null stands for none, unless it
has a tag; one tagged as null has to spell it. -/
def optional {α : Type} (read : Node → Except Error α) (n : Node) : Except Error (Option α) := do
  match ← d.resolve n with
  | .scalar (some tag) .plain s =>
    if tag == nullTag then if Plain.isNull s then .ok none else .error .shape
    else some <$> read n
  | .scalar none .plain s => if s.isEmpty || Plain.isNull s then .ok none else some <$> read n
  | _ => some <$> read n

/-- **The entries of a mapping** whose keys are texts. An empty scalar is an empty mapping. -/
def entries (n : Node) : Except Error (List (String × Node)) := do
  match ← d.resolve n with
  | .mapping _ es => es.mapM fun (k, v) => do return (← d.text k, v)
  | .scalar _ _ [] => .ok []
  | _ => .error .shape

/-- An unsigned integer of 64 bits, written without quotes. -/
def natural64 (n : Node) : Except Error Nat := do
  match ← d.resolve n with
  | .scalar _ .plain s =>
    match Plain.unsigned? (Nat.pow 2 64) s with
    | some k => .ok k
    | none => .error .shape
  | _ => .error .shape

end Document

/-- **A field of a record**: the value under a key, none where it is missing. A field may not be
given twice. -/
def field? {α : Type} (es : List (String × α)) (key : String) : Except Error (Option α) :=
  match es.filter (·.1 == key) with
  | [] => .ok none
  | [(_, v)] => .ok (some v)
  | _ => .error .shape

/-- A field that a record must have. -/
def field {α : Type} (es : List (String × α)) (key : String) : Except Error α := do
  match ← field? es key with
  | some v => .ok v
  | none => .error .shape

/-- **An optional field of a record**: none where it is missing or null. -/
def Document.optionalField {α : Type} (d : Document) (es : List (String × Node)) (key : String)
    (read : Node → Except Error α) : Except Error (Option α) := do
  match ← field? es key with
  | none => .ok none
  | some n => d.optional read n

/-- **A map with text keys.** A key that comes again keeps its first place and takes the later
value. -/
def Document.map {α : Type} (d : Document) (read : Node → Except Error α) (n : Node) :
    Except Error (List (String × α)) := do
  let es ← d.entries n
  let es ← es.mapM fun (k, v) => do return (k, ← read v)
  .ok (Assoc.ofList es)

/-! ## Reading without a fixed type -/

/-- **A value** that is read without a fixed type: aliases are unfolded and plain scalars resolved.
A tag that starts with `!` stays around its value. -/
inductive Value where
  | null
  | flag (b : Bool)
  | integer (i : Int)
  | float (x : Float)
  | text (s : List Char)
  | sequence (items : List Value)
  | mapping (entries : List (Value × Value))
  | tagged (tag : List Char) (value : Value)

/-- Whether two floats are the same number, where no number equals itself. -/
def sameFloat (x y : Float) : Bool := x == y || (x != x && y != y)

mutual

/-- **Whether two values are equal.** The order of a mapping's entries does not count. -/
def Value.same : Value → Value → Bool
  | .null, .null => true
  | .flag a, .flag b => a == b
  | .integer a, .integer b => a == b
  | .float x, .float y => sameFloat x y
  | .text s, .text t => s == t
  | .sequence xs, .sequence ys => sameItems xs ys
  | .mapping xs, .mapping ys => xs.length == ys.length && sameEntries xs ys
  | .tagged s x, .tagged t y => s == t && x.same y
  | _, _ => false

/-- Whether two sequences have equal items. -/
def sameItems : List Value → List Value → Bool
  | [], [] => true
  | x :: xs, y :: ys => x.same y && sameItems xs ys
  | _, _ => false

/-- Whether every entry of the first mapping has an equal one in the second. -/
def sameEntries : List (Value × Value) → List (Value × Value) → Bool
  | [], _ => true
  | (k, v) :: es, ys => hasEntry k v ys && sameEntries es ys

/-- Whether a mapping has an entry with an equal key and an equal value. -/
def hasEntry (k v : Value) : List (Value × Value) → Bool
  | [] => false
  | (k', v') :: ys => (k.same k' && v.same v') || hasEntry k v ys

end

/-- **How a value may be unfolded.** Records that are read field by field admit neither tagged
values nor numbers of their own; free values admit tags but no key twice. -/
inductive Unfolding where
  | field
  | free
deriving DecidableEq, Repr

/-- What a scalar tag of the core schema asks for. -/
def coreTag (name : String) : List Char := "tag:yaml.org,2002:".toList ++ name.toList

/-- The value of a plain scalar's text. An integer beyond 64 bits has none. -/
def plainValue (s : List Char) : Except Error Value :=
  match Plain.resolve s with
  | .null => .ok .null
  | .flag b => .ok (.flag b)
  | .integer i => .ok (.integer i)
  | .wide => .error .shape
  | .float x => .ok (.float x)
  | .text => .ok (.text s)

/-- **The value of a scalar** with its tag. The tags of the core schema force a kind. -/
def scalarValue (tag : Option (List Char)) (style : ScalarStyle) (s : List Char) :
    Except Error Value :=
  match tag with
  | none => if style = .plain then plainValue s else .ok (.text s)
  | some t =>
    if t == coreTag "bool" then
      match Plain.flag? s with
      | some b => .ok (.flag b)
      | none => .error .shape
    else if t == coreTag "int" then
      match Plain.unsigned? (Nat.pow 2 64) s, Plain.signed? (Nat.pow 2 63) s with
      | some n, _ => .ok (.integer n)
      | none, some i => .ok (.integer i)
      | none, none => .error .shape
    else if t == coreTag "float" then
      match Plain.float? s with
      | some x => .ok (.float x)
      | none => .error .shape
    else if t == coreTag "null" then if Plain.isNull s then .ok .null else .error .shape
    else if t.head? == some '!' && style = .plain then plainValue s
    else .ok (.text s)

/-- The name that a tag of the document's own gives its value. -/
def localTag? (tag : Option (List Char)) : Option (List Char) :=
  match tag with
  | some ('!' :: t) => some (if t.isEmpty then ['!'] else t)
  | _ => none

/-- A reader of values that counts how often aliases have been followed. -/
abbrev Unfold (α : Type) := StateT Nat (Except Error) α

mutual

/-- **Unfold a node into a value**, at most `depth` collections deep and following at most 100
aliases for each node of the document. -/
def Document.unfold (d : Document) (mode : Unfolding) : Nat → Nat → Node → Unfold Value
  | 0, _, _ => throw .unfolding
  | fuel + 1, depth, n => do
    match n with
    | .alias number =>
      modify (· + 1)
      if 100 * d.size < (← get) then throw .unfolding
      match d.lookup number with
      | some (.alias _) | none => throw .unknownAnchor
      | some n => d.unfold mode fuel depth n
    | .scalar tag style s =>
      match localTag? tag with
      | some t =>
        if mode = .field then throw .shape
        return .tagged t (← StateT.lift (if style = .plain then plainValue s else .ok (.text s)))
      | none => StateT.lift (scalarValue tag style s)
    | .sequence tag items =>
      if depth = 0 then throw .unfolding
      let items ← d.unfoldItems mode fuel (depth - 1) items
      finish tag (.sequence items)
    | .mapping tag es =>
      if depth = 0 then throw .unfolding
      let es ← d.unfoldEntries mode fuel (depth - 1) [] es
      finish tag (.mapping es)
where
  /-- A collection with its tag. -/
  finish (tag : Option (List Char)) (v : Value) : Unfold Value :=
    match localTag? tag with
    | some t => if mode = .field then throw .shape else pure (.tagged t v)
    | none => pure v

/-- Unfold the items of a sequence. -/
def Document.unfoldItems (d : Document) (mode : Unfolding) :
    Nat → Nat → List Node → Unfold (List Value)
  | 0, _, _ => throw .unfolding
  | _ + 1, _, [] => return []
  | fuel + 1, depth, n :: ns => do
    let v ← d.unfold mode fuel depth n
    let vs ← d.unfoldItems mode fuel depth ns
    return v :: vs

/-- Unfold the entries of a mapping; a free value may not have a key twice. -/
def Document.unfoldEntries (d : Document) (mode : Unfolding) :
    Nat → Nat → List (Value × Value) → List (Node × Node) → Unfold (List (Value × Value))
  | 0, _, _, _ => throw .unfolding
  | _ + 1, _, done, [] => return done
  | fuel + 1, depth, done, (k, v) :: es => do
    let k ← d.unfold mode fuel depth k
    -- The key is looked for before its value is read.
    if mode = .free && done.any (·.1.same k) then throw .shape
    let v ← d.unfold mode fuel depth v
    d.unfoldEntries mode fuel depth (done ++ [(k, v)]) es

end

/-- **The value of a node** inside `outer` enclosing collections. Nesting is limited to 128. -/
def Document.value (d : Document) (mode : Unfolding) (outer : Nat) (n : Node) :
    Except Error Value :=
  (·.1) <$> (d.unfold mode (130 * (d.size + 2)) (128 - outer) n).run 0

end TemplateShare.Yaml
