import TemplateShare.Proofs.Decimal
import TemplateShare.Proofs.Yaml.Tree

/-! # Records in laid out mappings

What a typed reader takes from a document that has been laid out: the texts of its scalars, the
entries of its mappings, and its numbers. The keys of records and all numbers are plain words.

* **`Entries.fields`** — the entries of a mapping as a reader sees them.
* **`Document.entries_node`**, **`Document.text_node`** — reading them.
* **`Written.word`**, **`Written.digits`** — words and numbers as they are written. -/

namespace TemplateShare.Yaml

/-! ## Words and numbers -/

/-- A word that is written without quotes. -/
def Written.word (name : String) : Written := ⟨name.toList, .plain, name.toList⟩

/-- A number in decimal. -/
def Written.digits (n : Nat) : Written := ⟨Nat.toDigits 10 n, .plain, Nat.toDigits 10 n⟩

namespace Scanner

/-- The characters of names: letters, digits and the low line. -/
def IsNameChar (x : Char) : Prop := x.isAlphanum = true ∨ x = '_'

instance (x : Char) : Decidable (IsNameChar x) := by unfold IsNameChar; infer_instance

/-- Names have no characters but letters, digits and the low line. -/
theorem IsNameChar.ne {x y : Char} (h : IsNameChar x) (hy : ¬IsNameChar y) : x ≠ y := by
  rintro rfl
  exact hy h

/-- The characters of names are no white space. -/
theorem IsNameChar.not_spacing {x : Char} (h : IsNameChar x) : isSpacing x = false := by
  simp only [isSpacing, isBlank, isBreak, Bool.or_eq_false_iff, beq_eq_false_iff_ne]
  refine ⟨⟨h.ne (by decide), h.ne (by decide)⟩, ⟨⟨⟨h.ne (by decide), h.ne (by decide)⟩,
    h.ne (by decide)⟩, h.ne (by decide)⟩, h.ne (by decide)⟩

/-- The characters of names lie between the digits and the small letters. -/
theorem IsNameChar.range {x : Char} (h : IsNameChar x) : 0x30 ≤ x.toNat ∧ x.toNat ≤ 0x7A := by
  rcases h with h | rfl
  · delta Char.isAlphanum Char.isAlpha Char.isUpper Char.isLower Char.isDigit at h
    simp only [Bool.or_eq_true, Bool.and_eq_true, decide_eq_true_eq] at h
    have htoNat : x.toNat = x.val.toNat := rfl
    rcases h with (⟨hlow, hhigh⟩ | ⟨hlow, hhigh⟩) | ⟨hlow, hhigh⟩ <;>
    · have hlow' := UInt32.le_iff_toNat_le.1 hlow
      have hhigh' := UInt32.le_iff_toNat_le.1 hhigh
      simp at hlow' hhigh'
      omega
  · decide

/-- The characters of names may stand in a stream. -/
theorem IsNameChar.isAdmissible {x : Char} (h : IsNameChar x) : Yaml.isAdmissible x = true := by
  have hlow : 0x20 ≤ x.toNat := Nat.le_trans (by decide) h.range.1
  have hhigh : x.toNat ≤ 0x7E := Nat.le_trans h.range.2 (by decide)
  simp [Yaml.isAdmissible, hlow, hhigh]

/-- **Names can stand without quotes.** -/
theorem isWordScalar_name {w : List Char} (hne : w ≠ []) (h : ∀ x ∈ w, IsNameChar x) :
    IsWordScalar w where
  ne_nil := hne
  spacing x hx := (h x hx).not_spacing
  colon hlast := (h ':' (List.mem_of_getLast? hlast)).ne (by decide) rfl
  start x r hw := by
    subst hw
    refine .inl fun hmem => ?_
    exact (by decide : ∀ y ∈ indicators, ¬IsNameChar y) x hmem (h x List.mem_cons_self)

/-- Names do not start with a byte order mark. -/
theorem head?_name {w : List Char} (h : ∀ x ∈ w, IsNameChar x) : w.head? ≠ some '\ufeff' := by
  intro heq
  have hmem : '\ufeff' ∈ w := List.mem_of_mem_head? heq
  exact (h _ hmem).ne (by decide) rfl

/-- **A name is a key** at any column. -/
theorem isKey_name {name : String} (hne : name.toList ≠ []) (h : ∀ x ∈ name.toList, IsNameChar x)
    (column : Nat) : IsKey column (Written.word name).chars (Written.word name).style
      (Written.word name).text := by
  refine isKey_word (isWordScalar_name hne h) (head?_name h) (.inr fun x hx => ?_)
  exact ⟨(h x hx).ne (by decide), (h x hx).ne (by decide)⟩

/-- A character of a name stands for itself between quotes. -/
theorem IsNameChar.isSpelled {x : Char} (h : IsNameChar x) (double : Bool) :
    IsSpelled double [x] x := by
  refine isSpelled_self h.not_spacing ?_ fun _ => h.ne (by decide)
  cases double <;> exact h.ne (by decide)

/-- A number is a value. -/
theorem isValue_digits (parent n : Nat) :
    IsValue parent (Written.digits n).chars (Written.digits n).style (Written.digits n).text := by
  have h : ∀ x ∈ Nat.toDigits 10 n, IsNameChar x := by
    intro x hx
    left
    rw [Char.isAlphanum, Decimal.isDigit_of_mem_digits hx, Bool.or_true]
  exact isValue_word (isWordScalar_name Nat.toDigits_ne_nil h) (head?_name h) parent

end Scanner

/-! ## Reading records -/

/-- **The entries of a mapping** as a reader sees them. -/
def Entries.fields : Entries → List (String × Node)
  | .nil => []
  | .cons key value _ more => (String.ofList key.text, value.node) :: more.fields

@[simp] theorem Entries.fields_nil : Entries.nil.fields = [] := by rw [Entries.fields]

/-- An entry whose key is a word. -/
@[simp] theorem Entries.fields_word (key : String) (value : Layout) (n : Nat) (more : Entries) :
    (Entries.cons (.word key) value n more).fields = (key, value.node) :: more.fields := by
  rw [Entries.fields, Written.word, String.ofList_toList]

namespace Document

variable (d : Document)

/-- The text of a scalar. -/
@[simp] theorem text_node (w : Written) : d.text w.node = .ok (String.ofList w.text) := rfl

/-- The texts of keys are read. -/
theorem mapM_nodes (es : Entries) :
    (es.nodes.mapM fun (k, v) => do return (← d.text k, v)) =
      (.ok es.fields : Except Error (List (String × Node))) := by
  match es with
  | .nil =>
    rw [Entries.nodes, Entries.fields]
    rfl
  | .cons key value n more =>
    rw [Entries.nodes, Entries.fields, List.mapM_cons, mapM_nodes more]
    rfl

/-- **The entries of a mapping.** -/
@[simp] theorem entries_node (column : Nat) (es : Entries) :
    d.entries (Layout.block column es).node = .ok es.fields := by
  rw [Layout.node]
  exact d.mapM_nodes es

/-- An optional text that is not written plainly is there. -/
theorem optional_text {w : Written} (h : w.style ≠ .plain) :
    d.optional d.text w.node = .ok (some (String.ofList w.text)) := by
  obtain ⟨chars, style, text⟩ := w
  cases style with
  | plain => exact absurd rfl h
  | _ => rfl

/-- An optional mapping that is written is there. -/
@[simp] theorem optional_block {α : Type} (read : Node → Except Error α) (column : Nat)
    (es : Entries) :
    d.optional read (Layout.block column es).node =
      some <$> read (Layout.block column es).node := by
  rw [Layout.node]
  rfl

/-- A word is no null value if it does not spell one. -/
theorem optional_word {α : Type} (read : Node → Except Error α) {w : Written}
    (hstyle : w.style = .plain) (hne : w.text ≠ []) (hnull : Plain.isNull w.text = false) :
    d.optional read w.node = some <$> read w.node := by
  obtain ⟨chars, style, text⟩ := w
  obtain rfl : style = .plain := hstyle
  have hempty : text.isEmpty = false := by
    rwa [List.isEmpty_eq_false_iff]
  show (if text.isEmpty || Plain.isNull text then _ else _) = _
  rw [hempty, show Plain.isNull text = false from hnull]
  rfl

/-- **A number is read back**, if it has 64 bits. -/
theorem natural64_digits (n : Nat) :
    d.natural64 (Written.digits n).node = if n < Nat.pow 2 64 then .ok n else .error .shape := by
  have hresolve : d.resolve (Written.digits n).node =
      .ok (.scalar none .plain (Nat.toDigits 10 n)) := rfl
  simp only [natural64, hresolve, bind, Except.bind, Plain.unsigned?_digits]
  by_cases h : n < Nat.pow 2 64
  · rw [if_pos h, if_pos h]
  · rw [if_neg h, if_neg h]

/-- Digits do not spell null. -/
theorem isNull_digits (n : Nat) : Plain.isNull (Nat.toDigits 10 n) = false := by
  obtain ⟨c, r, h, hc⟩ := Plain.exists_digits n
  have hne {x : Char} (hx : x.isDigit = false) : c ≠ x := Decimal.ne_of_isDigit hc hx
  rw [h]
  simp [Plain.isNull, hne (show 'n'.isDigit = false from rfl),
    hne (show 'N'.isDigit = false from rfl), hne (show '~'.isDigit = false from rfl)]

/-- **An optional number is read back**, if it has 64 bits. -/
theorem optional_digits (n : Nat) :
    d.optional d.natural64 (Written.digits n).node =
      if n < Nat.pow 2 64 then .ok (some n) else .error .shape := by
  rw [d.optional_word d.natural64 rfl Nat.toDigits_ne_nil (isNull_digits n), d.natural64_digits]
  split <;> rfl

/-- **The value of a scalar** without a tag. -/
theorem value_node (mode : Unfolding) (outer : Nat) (w : Written) :
    d.value mode outer w.node = scalarValue none w.style w.text := by
  have hfuel : 130 * (d.size + 2) = 130 * (d.size + 2) - 1 + 1 := by omega
  unfold Document.value Written.node
  rw [hfuel, Document.unfold]
  show (·.1) <$> (StateT.lift (scalarValue none w.style w.text) : Unfold Value).run 0 = _
  cases scalarValue none w.style w.text <;> rfl

end Document

end TemplateShare.Yaml
