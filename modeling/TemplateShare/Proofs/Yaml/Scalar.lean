import TemplateShare.Proofs.Yaml.Record
import TemplateShare.Yaml.Printer

/-! # Scalars that read back

A text is written plain only if no reader would take it for anything else, so a reader who resolves
scalars gets a text back wherever the scanner does. For texts of visible characters, which are written
on one line, plain or in single quotes, it always does.

* **`Scalar.ReadsBack`** — texts that the scanner gets back from what is written of them.
* **`Document.value_written`** — what a reader who resolves scalars makes of a text.
* **`Scalar.IsVisible`**, **`Scalar.readsBack_visible`** — texts of visible characters. -/

namespace TemplateShare.Yaml

namespace Scalar

open Scanner

/-! ## Visible characters -/

/-- **The visible characters of ASCII**, without the single quote. -/
def IsVisible (x : Char) : Prop := 0x21 ≤ x.toNat ∧ x.toNat ≤ 0x7E ∧ x ≠ '\''

instance (x : Char) : Decidable (IsVisible x) := by unfold IsVisible; infer_instance

namespace IsVisible

variable {x : Char}

/-- Texts of visible characters have no others. -/
theorem ne {y : Char} (h : IsVisible x) (hy : ¬IsVisible y) : x ≠ y := by
  rintro rfl
  exact hy h

/-- Visible characters are no line breaks. -/
theorem not_break (h : IsVisible x) : Scalar.isBreak x = false := by
  simp only [Scalar.isBreak, Bool.or_eq_false_iff, beq_eq_false_iff_ne]
  exact ⟨⟨⟨⟨h.ne (by decide), h.ne (by decide)⟩, h.ne (by decide)⟩, h.ne (by decide)⟩,
    h.ne (by decide)⟩

/-- Visible characters are no white space. -/
theorem not_spacing (h : IsVisible x) : isSpacing x = false := by
  simp only [isSpacing, Yaml.isBlank, Bool.or_eq_false_iff, beq_eq_false_iff_ne]
  exact ⟨⟨h.ne (by decide), h.ne (by decide)⟩, h.not_break⟩

/-- Visible characters are written as they are. -/
theorem isPrintable (h : IsVisible x) : isPrintable x = true := by
  have hlow : 0x20 ≤ x.toNat := Nat.le_of_succ_le h.1
  simp [Scalar.isPrintable, hlow, h.2.1]

/-- Visible characters may stand in a stream. -/
theorem isAdmissible (h : IsVisible x) : isAdmissible x = true := by
  have hlow : 0x20 ≤ x.toNat := Nat.le_of_succ_le h.1
  simp [Yaml.isAdmissible, hlow, h.2.1]

/-- The characters of names are visible. -/
theorem of_isNameChar (h : IsNameChar x) : IsVisible x :=
  ⟨Nat.le_trans (by decide) h.range.1, Nat.le_trans h.range.2 (by decide), h.ne (by decide)⟩

end IsVisible

/-! ## Writing -/

/-- The style that a reader sees. -/
def Style.toScalarStyle : Style → ScalarStyle
  | .plain => .plain
  | .single => .singleQuoted
  | .double => .doubleQuoted
  | .literal => .literal

/-- **A text as it is written** in a mapping at column two, up to the end of its last line. -/
def written (text : String) : Written :=
  ⟨(print 4 text).toList.dropLast, (style text.toList).toScalarStyle, text.toList⟩

@[simp] theorem text_written (text : String) : (written text).text = text.toList := rfl

/-- **A text that reads back**: it is written on lines of its own, with characters that may stand in a
stream, and the scanner reads the text from them. -/
structure ReadsBack (text : String) : Prop where
  print : (print 4 text).toList = (written text).chars ++ ['\n']
  admissible : (written text).chars.all Yaml.isAdmissible = true
  value : IsValue 2 (written text).chars (written text).style text.toList

/-! ## Texts of visible characters -/

variable {s : List Char}

/-- No two characters stand side by side of which one does not occur. -/
theorem hasPair_eq_false {p q : Char → Bool}
    (h : (∀ x ∈ s, p x = false) ∨ ∀ x ∈ s, q x = false) : hasPair p q s = false := by
  induction s with
  | nil => rfl
  | cons c s ih =>
    cases s with
    | nil => rfl
    | cons d s =>
      rw [hasPair, ih (h.imp (fun h x hx => h x (.tail _ hx)) fun h x hx => h x (.tail _ hx))]
      rcases h with h | h
      · simp [h c List.mem_cons_self]
      · simp [h d (.tail _ List.mem_cons_self)]

/-- **A text of visible characters is plain** unless it could be taken for something else. -/
theorem style_visible (h : ∀ x ∈ s, IsVisible x) :
    style s = if isMistakable s || hasIndicator s then .single else .plain := by
  have hfeed : s.contains '\n' = false := by
    rw [List.contains_eq_mem, decide_eq_false_iff_not]
    exact fun hmem => (h _ hmem).ne (by decide) rfl
  have hbreaks : ∀ x ∈ s, isBreak x = false := fun x hx => (h x hx).not_break
  have hblanks : ∀ x ∈ s, (x == ' ') = false := fun x hx =>
    beq_eq_false_iff_ne.2 ((h x hx).ne (by decide))
  have hcarried : isCarried s = true := by
    rw [isCarried, hasPair_eq_false (.inl hblanks), Bool.not_false, Bool.and_true,
      List.all_eq_true]
    exact fun x hx => (h x hx).isPrintable
  have hany : s.any isBreak = false := by
    rw [List.any_eq_false]
    exact fun x hx => by rw [hbreaks x hx]; decide
  have hloose : hasLooseEnd s = false := by
    have hends : ∀ x ∈ s, (x == ' ' || isBreak x) = false := fun x hx => by
      rw [hblanks x hx, hbreaks x hx, Bool.or_self]
    -- Neither the first nor the last character is a blank or a break.
    have hoption (o : Option Char) (ho : ∀ x ∈ o, x ∈ s) :
        o.any (fun c => c == ' ' || isBreak c) = false := by
      cases o with
      | none => rfl
      | some x => exact hends x (ho x rfl)
    rw [hasLooseEnd, hoption _ fun x hx => List.mem_of_mem_head? hx,
      hoption _ fun x hx => List.mem_of_getLast? hx, Bool.or_self]
  unfold style
  dsimp only
  rw [hfeed, hcarried, hasPair_eq_false (.inl hbreaks), hloose, hany]
  cases isMistakable s <;> cases hasIndicator s <;> rfl

/-- Text on one line is not indented. -/
theorem indented_visible (indent : List Char) (h : ∀ x ∈ s, IsVisible x) :
    indented indent singleChar false s = s := by
  induction s with
  | nil => rfl
  | cons c s ih =>
    have hc := h c List.mem_cons_self
    rw [indented, hc.not_break, ih fun x hx => h x (.tail _ hx), singleChar, if_neg hc.2.2]
    rfl

/-- **A text of visible characters is written on one line**, plain or in single quotes. -/
theorem print_visible {text : String} (h : ∀ x ∈ text.toList, IsVisible x) (indent : Nat) :
    (print indent text).toList =
      (if style text.toList = .plain then text.toList else '\'' :: (text.toList ++ ['\''])) ++
        ['\n'] := by
  have hend : text.toList.getLast?.any isBreak = false := by
    cases hlast : text.toList.getLast? with
    | none => rfl
    | some x => exact (h x (List.mem_of_getLast? hlast)).not_break
  have hstyle := style_visible h
  rw [print, String.toList_ofList, hend]
  split at hstyle
  · rw [hstyle, indented_visible _ h]
    simp
  · rw [hstyle]
    simp

/-- A text of visible characters as it is written. -/
theorem written_visible {text : String} (h : ∀ x ∈ text.toList, IsVisible x) :
    written text = if style text.toList = .plain then ⟨text.toList, .plain, text.toList⟩
      else ⟨'\'' :: (text.toList ++ ['\'']), .singleQuoted, text.toList⟩ := by
  have hstyle := style_visible h
  unfold written
  rw [print_visible h, List.dropLast_concat]
  split at hstyle
  · rw [hstyle]
    rfl
  · rw [hstyle]
    rfl

/-! ## Reading -/

/-- A text without inner indicators does not end in a colon. -/
theorem getLast?_ne_colon {afterBlank : Bool} (h : hasInnerIndicator afterBlank s = false) :
    s.getLast? ≠ some ':' := by
  induction s generalizing afterBlank with
  | nil => exact fun hlast => (nomatch hlast)
  | cons c s ih =>
    rw [hasInnerIndicator, Bool.or_eq_false_iff, Bool.or_eq_false_iff] at h
    cases s with
    | nil =>
      rintro hlast
      obtain rfl := Option.some.inj hlast
      exact absurd h.1.1 (by decide)
    | cons d s =>
      rw [List.getLast?_cons_cons]
      exact ih h.2

/-- **A visible text without indicators can stand without quotes.** -/
theorem isWordScalar_visible (hne : s ≠ []) (h : ∀ x ∈ s, IsVisible x)
    (hindicator : hasIndicator s = false) : IsWordScalar s := by
  obtain ⟨c, r, rfl⟩ := List.exists_cons_of_ne_nil hne
  simp only [hasIndicator, Bool.or_eq_false_iff] at hindicator
  obtain ⟨-, ⟨hopening, hgap⟩, hinner⟩ := hindicator
  refine ⟨hne, fun x hx => (h x hx).not_spacing, ?_, ?_⟩
  · cases r with
    | nil =>
      rintro hlast
      obtain rfl := Option.some.inj hlast
      exact absurd hgap (by decide)
    | cons d r =>
      rw [List.getLast?_cons_cons]
      exact getLast?_ne_colon hinner
  · intro x r' heq
    obtain ⟨rfl, rfl⟩ := List.cons.inj heq
    -- An indicator may start a word only if a character of the word follows it.
    by_cases hmem : c ∈ indicators
    · have hcases : ∀ y ∈ indicators, isOpening y = false → y ∈ ['-', '?', ':'] := by decide
      have hin := hcases c hmem hopening
      refine .inr ⟨hin, ?_⟩
      rintro rfl
      have hlone : ∀ y ∈ ['-', '?', ':'], ((y == '?' || y == ':' || y == '-') && atGap []) = true := by
        decide
      rw [hlone c hin] at hgap
      cases hgap
    · exact .inl hmem

/-- **A text of visible characters reads back.** -/
theorem readsBack_visible {text : String} (hne : text.toList ≠ [])
    (h : ∀ x ∈ text.toList, IsVisible x) : ReadsBack text := by
  have hadmissible : text.toList.all Yaml.isAdmissible = true := by
    rw [List.all_eq_true]
    exact fun x hx => (h x hx).isAdmissible
  -- A visible text is written as it is, or between single quotes.
  by_cases hplain : style text.toList = .plain
  · have hwritten : written text = ⟨text.toList, .plain, text.toList⟩ := by
      rw [written_visible h, if_pos hplain]
    have hindicator : hasIndicator text.toList = false := by
      rw [style_visible h] at hplain
      by_cases hs : hasIndicator text.toList = true
      · rw [hs, Bool.or_true, if_pos rfl] at hplain
        cases hplain
      · simpa using hs
    have hmark : text.toList.head? ≠ some '\ufeff' := fun hhead =>
      (h _ (List.mem_of_mem_head? hhead)).ne (by decide) rfl
    refine ⟨?_, ?_, ?_⟩
    · rw [print_visible h, if_pos hplain, hwritten]
    · rw [hwritten]
      exact hadmissible
    · rw [hwritten]
      exact isValue_word (isWordScalar_visible hne h hindicator) hmark 2
  · have hwritten : written text =
        ⟨'\'' :: (text.toList ++ ['\'']), .singleQuoted, text.toList⟩ := by
      rw [written_visible h, if_neg hplain]
    have hquote : Yaml.isAdmissible '\'' = true := by decide
    have hspelled : ∀ x ∈ text.toList, x ≠ ' ' → IsSpelled false [x] x := fun x hx _ =>
      isSpelled_self (h x hx).not_spacing (h x hx).2.2 fun hfalse => (nomatch hfalse)
    have hquoted := isValue_quoted (show (fun c : Char => [c]) ' ' = [' '] from rfl) hspelled 2
    rw [List.flatMap_singleton'] at hquoted
    refine ⟨?_, ?_, ?_⟩
    · rw [print_visible h, if_neg hplain, hwritten]
    · rw [hwritten]
      simp only [List.all_cons, List.all_append, hadmissible, hquote, List.all_nil, Bool.and_self]
    · rw [hwritten]
      exact hquoted

end Scalar

/-- A text is plain only if no reader takes it for anything else. -/
theorem Scalar.not_isMistakable {s : List Char} (h : style s = .plain) : isMistakable s = false := by
  unfold style at h
  split at h
  · split at h <;> cases h
  · dsimp only at h
    split at h
    · next hplain =>
      simp only [Bool.and_eq_true, Bool.not_eq_true'] at hplain
      exact hplain.1.1.1.2
    · split at h <;> cases h

/-- **Every text is resolved as a text.** -/
theorem Document.value_written (d : Document) (mode : Unfolding) (outer : Nat) (text : String) :
    d.value mode outer (Scalar.written text).node = .ok (.text text.toList) := by
  rw [d.value_node]
  unfold Scalar.written
  cases hstyle : Scalar.style text.toList with
  | plain =>
    have hresolve : Plain.resolve text.toList = .text := by
      have hplain := Scalar.not_isMistakable hstyle
      rw [Scalar.isMistakable, Bool.or_eq_false_iff] at hplain
      cases hmeaning : Plain.resolve text.toList with
      | text => rfl
      | _ =>
        rw [hmeaning] at hplain
        exact (nomatch hplain.2)
    show Yaml.plainValue text.toList = _
    rw [plainValue, hresolve]
  | single => rfl
  | double => rfl
  | literal => rfl

end TemplateShare.Yaml
