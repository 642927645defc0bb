import TemplateShare.Proofs.Yaml.Layout
import TemplateShare.Yaml.Read

/-! # Trees of laid out mappings

The nodes that the tokens of a laid out document give, without anchors and without tags, so that a
text that is laid out has one document or none.

* **`Layout.node`**, **`Entries.nodes`** — the nodes.
* **`readNode_tokens`** — the tokens of a value are read as its node, whatever stands behind them.
* **`Entries.parse_document`** — the document of a text. -/

namespace TemplateShare.Yaml

/-- The node of a scalar. -/
def Written.node (w : Written) : Node := .scalar none w.style w.text

mutual

/-- **The node of a value.** -/
def Layout.node : Layout → Node
  | .scalar w => w.node
  | .block _ es => .mapping none es.nodes

/-- The nodes of entries. -/
def Entries.nodes : Entries → List (Node × Node)
  | .nil => []
  | .cons key value _ more => (key.node, value.node) :: more.nodes

end

mutual

/-- The number of nodes that a value counts as. -/
def Layout.size : Layout → Nat
  | .scalar _ => 1
  | .block _ es => 2 + es.size

/-- The number of nodes that entries count as. -/
def Entries.size : Entries → Nat
  | .nil => 0
  | .cons _ value _ more => 1 + value.size + more.size

end

/-! ## Reading nodes -/

/-- Counting twice is counting the sum. -/
theorem Reading.count_count (r : Reading) (m n : Nat) : (r.count m).count n = r.count (m + n) := by
  unfold Reading.count
  rw [Nat.add_assoc]

/-- Something is written for every value. -/
theorem endsBlockItem_tokens (v : Layout) (ts : List Token) :
    endsBlockItem (v.tokens ++ ts) = false := by
  cases v with
  | scalar w =>
    rw [Layout.tokens]
    rfl
  | block column es =>
    rw [Layout.tokens]
    rfl

/-- A scalar is read as its node. -/
theorem readNode_scalar (w : Written) (inBlock indentless : Bool) (fuel : Nat) (r : Reading)
    (ts : List Token) :
    readNode inBlock indentless (fuel + 2) r (.scalar w.style w.text :: ts) =
      .ok (w.node, r.count 1, ts) := by
  rw [readNode]
  · simp only [properties, bind, Except.bind, pure, Except.pure]
    rw [readContent]
    rfl
  · intro name ts h
    cases h

mutual

/-- **The tokens of a value are read as its node**, whatever stands behind them. -/
theorem readNode_tokens (v : Layout) (indentless : Bool) {fuel : Nat}
    (hfuel : 2 * v.tokens.length ≤ fuel) (r : Reading) (ts : List Token) :
    readNode true indentless fuel r (v.tokens ++ ts) = .ok (v.node, r.count v.size, ts) := by
  cases v with
  | scalar w =>
    rw [Layout.tokens] at hfuel ⊢
    obtain ⟨fuel, rfl⟩ : ∃ k, fuel = k + 2 := ⟨fuel - 2, by simp at hfuel; omega⟩
    rw [Layout.node, Layout.size]
    exact readNode_scalar w true indentless fuel r ts
  | block column es =>
    rw [Layout.tokens] at hfuel ⊢
    simp only [List.length_cons, List.length_append, List.length_nil] at hfuel
    obtain ⟨fuel, rfl⟩ : ∃ k, fuel = k + 2 := ⟨fuel - 2, by omega⟩
    -- Two units of fuel go into the node and its content.
    have hes : 2 * es.tokens.length + 1 ≤ fuel := by omega
    have hread := readBlockMapping_tokens es hes (r.count 2) ts
    rw [List.cons_append, List.append_assoc, List.singleton_append, readNode]
    · simp only [properties, bind, Except.bind, pure, Except.pure]
      rw [readContent]
      simp only [if_true, bind, Except.bind, hread]
      rw [Layout.node, Layout.size, Reading.count_count]
    · intro name ts h
      cases h
termination_by sizeOf v

/-- The tokens of entries are read as their nodes, up to the end of the block. -/
theorem readBlockMapping_tokens (es : Entries) {fuel : Nat}
    (hfuel : 2 * es.tokens.length + 1 ≤ fuel) (r : Reading) (ts : List Token) :
    readBlockMapping fuel r (es.tokens ++ .blockEnd :: ts) =
      .ok (es.nodes, r.count es.size, ts) := by
  obtain ⟨fuel, rfl⟩ : ∃ k, fuel = k + 1 := ⟨fuel - 1, by omega⟩
  cases es with
  | nil =>
    rw [Entries.tokens, List.nil_append, readBlockMapping]
    rfl
  | cons key value n more =>
    rw [Entries.tokens] at hfuel ⊢
    simp only [List.length_cons, List.length_append] at hfuel
    obtain ⟨fuel, rfl⟩ : ∃ k, fuel = k + 2 := ⟨fuel - 2, by omega⟩
    -- Key, value and the other entries are read with what is left of the fuel.
    have hkey := readNode_scalar key true true fuel r
      (.value :: (value.tokens ++ (more.tokens ++ .blockEnd :: ts)))
    have hvfuel : 2 * value.tokens.length ≤ fuel + 1 := by omega
    have hmfuel : 2 * more.tokens.length + 1 ≤ fuel + 2 := by omega
    have hvalue := readNode_tokens value true hvfuel (r.count 1) (more.tokens ++ .blockEnd :: ts)
    have hmore := readBlockMapping_tokens more hmfuel ((r.count 1).count value.size) ts
    simp only [List.cons_append, List.append_assoc]
    rw [readBlockMapping]
    simp only [endsBlockItem, Bool.false_eq_true, if_false, hkey, bind, Except.bind]
    rw [readBlockValue]
    simp only [endsBlockItem_tokens, Bool.false_eq_true, if_false, hvalue, hmore]
    rw [Entries.nodes, Entries.size]
    simp only [Reading.count_count, Nat.add_assoc]
termination_by sizeOf es

end

/-! ## Reading documents -/

/-- **The document of a value.** -/
def Layout.toDocument (v : Layout) : Document := ⟨v.node, [], v.size⟩

/-- A document start and the tokens of a value make a document. -/
theorem ofTokens_tokens (v : Layout) :
    Document.ofTokens (.documentStart :: v.tokens) = .ok v.toDocument := by
  have hread := readNode_tokens v false
    (show 2 * v.tokens.length ≤ 4 * (v.tokens.length + 1) + 8 by omega) {} []
  rw [List.append_nil] at hread
  have hends : endsDocument v.tokens = false := by
    cases v with
    | scalar w =>
      rw [Layout.tokens]
      rfl
    | block column es =>
      rw [Layout.tokens]
      rfl
  unfold Document.ofTokens
  simp only [readDirectives, bind, Except.bind, hends, Bool.false_eq_true, if_false,
    List.length_cons, hread]
  show Document.ofTokens.finish _ = _
  unfold Document.ofTokens.finish Layout.toDocument
  simp [Reading.count, Reading.anchored]

/-- **The document of a text that is laid out**, or none if a key is too long or a character may not
stand in a stream. -/
theorem Entries.parse_document {opening : List Char} (hopening : Scanner.IsOpening opening)
    {es : Entries} (hne : es ≠ .nil) (hfits : es.Fits 0) (d : Document) :
    Document.parse (es.document opening) = .ok d ↔
      ((es.document opening).all isAdmissible = true ∧ es.Short) ∧
        d = (Layout.block 0 es).toDocument := by
  have hscan := scan_document hopening hne hfits
  unfold Document.parse
  constructor
  · intro h
    cases htokens : Token.scan (es.document opening) with
    | error e =>
      rw [htokens] at h
      cases h
    | ok ts =>
      obtain ⟨hgood, rfl⟩ := (hscan ts).1 htokens
      rw [htokens] at h
      refine ⟨hgood, ?_⟩
      have hdocument := h.symm.trans (ofTokens_tokens (Layout.block 0 es))
      exact Except.ok.inj hdocument
  · rintro ⟨hgood, rfl⟩
    rw [(hscan _).2 ⟨hgood, rfl⟩]
    exact ofTokens_tokens (Layout.block 0 es)

end TemplateShare.Yaml
