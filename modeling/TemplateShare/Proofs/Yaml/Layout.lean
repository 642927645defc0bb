import TemplateShare.Proofs.Yaml.Entry

/-! # Laid out mappings

A document that consists of block mappings and scalars, as it stands in its text: every scalar is
given by how it is written and what it reads as. The scanner gives such a document's tokens, if its
keys are short enough and its characters may stand in a stream, and no result otherwise.

* **`Layout`**, **`Entries`** — a value and the entries of a mapping as they are laid out.
* **`Layout.Fits`** — each scalar reads as it is said to, at its place.
* **`Entries.Short`** — all keys are short enough to be simple ones.
* **`Entries.scan_document`** — the tokens of a document. -/

namespace TemplateShare.Yaml

/-! ## Layouts -/

/-- **A scalar as it is written**, its style and what it reads as. -/
structure Written where
  chars : List Char
  style : ScalarStyle
  text : List Char

mutual

/-- **A value as it is laid out**: a scalar, or a block mapping at a column. -/
inductive Layout where
  | scalar (w : Written)
  | block (column : Nat) (es : Entries)

/-- **The entries of a block mapping**, each with its key, its value and the number of empty lines
behind it. -/
inductive Entries where
  | nil
  | cons (key : Written) (value : Layout) (emptyLines : Nat) (more : Entries)

end

mutual

/-- The text of a value behind the colon of its key. -/
def Layout.chars : Layout → List Char
  | .scalar w => ' ' :: w.chars
  | .block column es => es.chars column

/-- The text of entries, each on a line of its own at a column. -/
def Entries.chars (column : Nat) : Entries → List Char
  | .nil => []
  | .cons key value n more =>
    '\n' :: (List.replicate column ' ' ++ (key.chars ++ ':' ::
      (value.chars ++ (List.replicate n '\n' ++ more.chars column))))

end

mutual

/-- **The tokens of a value.** -/
def Layout.tokens : Layout → List Token
  | .scalar w => [.scalar w.style w.text]
  | .block _ es => .blockMappingStart :: (es.tokens ++ [.blockEnd])

/-- The tokens of entries. -/
def Entries.tokens : Entries → List Token
  | .nil => []
  | .cons key value _ more =>
    .key :: .scalar key.style key.text :: .value :: (value.tokens ++ more.tokens)

end

mutual

/-- **A value that reads as it is said to**, under a parent at a column. -/
def Layout.Fits (parent : Nat) : Layout → Prop
  | .scalar w => Scanner.IsValue parent w.chars w.style w.text
  | .block column es => parent < column ∧ es ≠ .nil ∧ es.Fits column

/-- Entries that read as they are said to, at a column. -/
def Entries.Fits (column : Nat) : Entries → Prop
  | .nil => True
  | .cons key value _ more =>
    Scanner.IsKey column key.chars key.style key.text ∧ value.Fits column ∧ more.Fits column

end

mutual

/-- A value whose keys are all short enough to be simple ones. -/
def Layout.Short : Layout → Prop
  | .scalar _ => True
  | .block _ es => es.Short

/-- **Entries whose keys are all short enough** to be simple ones. -/
def Entries.Short : Entries → Prop
  | .nil => True
  | .cons key value _ more => key.chars.length ≤ 1024 ∧ value.Short ∧ more.Short

end

theorem Entries.short_cons (key : Written) (value : Layout) (n : Nat) (more : Entries) :
    (Entries.cons key value n more).Short ↔
      key.chars.length ≤ 1024 ∧ value.Short ∧ more.Short := by
  rw [Entries.Short]

namespace Scanner

variable {ts : List Token} {indent : Int} {outer : List Int}

/-! ## Gaps around entries -/

/-- Empty lines are part of a gap. -/
theorem IsGap.replicate {u rest : List Char} {column : Nat} (h : IsGap u column rest) (n : Nat) :
    IsGap (List.replicate n '\n' ++ u) column rest := by
  obtain ⟨hsolid, m, rfl⟩ := h
  refine ⟨hsolid, n + m, ?_⟩
  rw [← List.append_assoc, List.replicate_append_replicate]

/-- **Entries start with a gap** in front of the first key. -/
theorem isGap_entries {column : Nat} {key : Written} {value : Layout} {n : Nat} {more : Entries}
    (h : (Entries.cons key value n more).Fits column) (u : List Char) :
    IsGap ((Entries.cons key value n more).chars column ++ u) column
      (key.chars ++ ':' :: (value.chars ++ (List.replicate n '\n' ++ (more.chars column ++ u)))) := by
  rw [Entries.Fits] at h
  refine ⟨h.1.solid _, 0, ?_⟩
  rw [Entries.chars]
  simp

/-- The text behind a colon starts with white space. -/
theorem endsWord_value {parent : Nat} {v : Layout} (h : v.Fits parent) (r : List Char) :
    endsWord (v.chars ++ r) = true := by
  cases v with
  | scalar w => rfl
  | block column es =>
    rw [Layout.Fits] at h
    cases es with
    | nil => exact absurd rfl h.2.1
    | cons key value n more => rfl

/-- A scanner that is ready behind an inner block is ready behind its end. -/
theorem Ready.blockEnd {s : Scanner} {i : Int} {column : Nat} {rest : List Char}
    (h : Ready s ts indent (i :: outer) column rest) (hlt : (column : Int) < indent) :
    Ready s (.blockEnd :: ts) i outer column rest where
  skip := h.skip
  close := by rw [h.close, close_of_lt hlt]
  key := h.key
  outerKeys := h.outerKeys
  length := h.length

/-! ## Tokens of layouts -/

mutual

/-- **The tokens of a value** are read, up to a token that is not deeper than its parent. -/
theorem steps_value (v : Layout) {parent : Nat} (hfits : v.Fits parent) {c : Cursor}
    {u : List Char} (hrest : c.rest = v.chars ++ u) (hcolumn : parent < c.column) {column : Nat}
    {rest : List Char} (hgap : IsGap u column rest) (hle : column ≤ parent) (ts : List Token)
    (outer : List Int) :
    ∃ s', Steps v.Short (plainState c ts parent outer false) s' ∧
      Ready s' (v.tokens.reverse ++ ts) parent outer column rest := by
  cases v with
  | scalar w =>
    rw [Layout.Fits] at hfits
    obtain ⟨s', hreach, hready⟩ := hfits c ts outer u column rest hrest hcolumn hgap hle
    exact ⟨s', hreach.steps, hready⟩
  | block inner es =>
    rw [Layout.Fits] at hfits
    obtain ⟨hlt, hne, hes⟩ := hfits
    cases es with
    | nil => exact absurd rfl hne
    | cons key value n more =>
      rw [Layout.chars] at hrest
      -- A block starts behind the gap after its key, in a deeper column.
      have hready : Ready (plainState c ts parent outer false) ts parent outer inner _ :=
        ready_plainGap hrest (isGap_entries hes u) false
      obtain ⟨s', hsteps, hready'⟩ := steps_entries key value n more hes
        (.opens (by omega) outer) hgap (by omega) hready
      refine ⟨s', ?_, ?_⟩
      · rw [Layout.Short]
        exact hsteps
      · -- The block is closed by the token behind it, which is not as deep.
        have hclosed := hready'.blockEnd (by omega)
        rw [Layout.tokens]
        simpa using hclosed
termination_by sizeOf v

/-- **The tokens of entries** are read, up to a token that is not deeper. -/
theorem steps_entries (key : Written) (value : Layout) (n : Nat) (more : Entries) {column : Nat}
    (hfits : (Entries.cons key value n more).Fits column) {ts : List Token} {indent : Int}
    {outer outer' : List Int} {start : List Token}
    (henters : Enters column indent outer start outer') {u rest : List Char} {k : Nat}
    (hgap : IsGap u k rest) (hle : k ≤ column) {s : Scanner}
    (h : Ready s ts indent outer column
      (key.chars ++ ':' :: (value.chars ++ (List.replicate n '\n' ++ (more.chars column ++ u))))) :
    ∃ s', Steps (Entries.cons key value n more).Short s s' ∧
      Ready s' ((Entries.cons key value n more).tokens.reverse ++ (start ++ ts)) column outer' k
        rest := by
  have hfits' := hfits
  rw [Entries.Fits] at hfits
  obtain ⟨hkey, hvalue, hmore⟩ := hfits
  obtain ⟨c, hc, hcolumn, hfirst⟩ := steps_key hkey (endsWord_value hvalue _) henters h
  -- The gap behind the value is that behind the block if there is no other entry.
  cases more with
  | nil =>
    rw [Entries.chars, List.nil_append] at hc
    obtain ⟨s', hsteps, hready⟩ := steps_value value hvalue hc hcolumn (hgap.replicate n) hle
      (.value :: .scalar key.style key.text :: .key :: (start ++ ts)) outer'
    refine ⟨s', (hfirst.trans hsteps).congr ?_, ?_⟩
    · rw [Entries.short_cons, Entries.Short, and_true]
    · rw [Entries.tokens, Entries.tokens]
      simpa using hready
  | cons key' value' n' more' =>
    obtain ⟨s', hsteps, hready⟩ := steps_value value hvalue hc hcolumn
      ((isGap_entries hmore u).replicate n) (Nat.le_refl _)
      (.value :: .scalar key.style key.text :: .key :: (start ++ ts)) outer'
    obtain ⟨s'', hsteps', hready'⟩ := steps_entries key' value' n' more' hmore (.goOn outer') hgap hle
      hready
    refine ⟨s'', ((hfirst.trans hsteps).trans hsteps').congr ?_, ?_⟩
    · rw [Entries.short_cons key value, and_assoc]
    · rw [Entries.tokens]
      simpa using hready'
termination_by sizeOf (Entries.cons key value n more)

end

/-! ## Documents -/

/-- The line that starts a document. -/
def startLine : List Char := ['-', '-', '-']

/-- **The start of a document** is read wherever it is the first token, at the margin. -/
theorem next_start {c₀ c : Cursor} {r : List Char} (hr : endsWord r = true)
    (hskip : skipToToken false (c₀.rest.length + 1) true c₀ = (true, c))
    (hrest : c.rest = startLine ++ r) (hcolumn : c.column = 0) :
    next { cursor := c₀ } =
      .ok (false, plainState (c.advance 3) [.documentStart] (-1) [] false) := by
  have hindicator : c.atDocumentIndicator = true := by
    unfold Cursor.atDocumentIndicator
    rw [hcolumn, hrest]
    exact hr
  have hclose : closeBlocks.close (c.column : Int) [] (-1) [] = ([], -1, []) := rfl
  rw [next_of_key (s := { cursor := c₀ }) rfl hskip hrest hclose]
  show (readToken (plainState c [] (-1) [] true)).map (false, ·) = _
  unfold readToken
  rw [show (plainState c [] (-1) [] true).cursor = c from rfl, hrest]
  simp only [startLine, List.cons_append, hindicator, show ('-' == '%') = false from rfl,
    Bool.and_false, Bool.false_eq_true, if_false, if_true]
  rfl

/-- **What may stand in front of a document**: nothing, or a comment and an empty line. -/
def IsOpening (opening : List Char) : Prop :=
  opening = [] ∨ ∃ line, (∀ x ∈ line, isBreak x = false) ∧ opening = '#' :: (line ++ ['\n', '\n'])

/-- A comment is skipped with the break behind it. -/
theorem skipToToken_comment {c : Cursor} {line rest : List Char}
    (h : c.rest = '#' :: (line ++ '\n' :: rest)) (hline : ∀ x ∈ line, isBreak x = false)
    (fuel : Nat) (allowed : Bool) :
    ∃ c' : Cursor, skipToToken false (fuel + 1) allowed c = skipToToken false fuel true c' ∧
      c'.rest = rest ∧ c'.column = 0 := by
  have hmark : (c.column == 0 && c.at? '\ufeff') = false := by simp [Cursor.at?, h]
  have hskip : (c.skipWhile fun x => x == ' ' || (x == '\t' && (false || !allowed))) = c := by
    unfold Cursor.skipWhile
    simp [h]
    rw [← h]
  have hcomment : c.at? '#' = true := by simp [Cursor.at?, h]
  -- The comment is skipped up to its break.
  have hover : c.skipWhile (!isBreak ·) = c.advance ('#' :: line).length := by
    refine skipWhile_eq_advance (show c.rest = ('#' :: line) ++ '\n' :: rest from h)
      (fun x hx => ?_) ?_
    · rcases List.mem_cons.1 hx with rfl | hx
      · rfl
      · simp [hline x hx]
    · intro x hx
      obtain rfl : '\n' = x := Option.some.inj hx
      rfl
  have hbehind : (c.advance ('#' :: line).length).rest = '\n' :: rest :=
    rest_advance (by simpa using h)
  have hbreak : (c.advance ('#' :: line).length).atBreak = true := by
    simp only [Cursor.atBreak, hbehind]
    rfl
  refine ⟨(c.advance ('#' :: line).length).skipBreak, ?_, ?_, rfl⟩
  · rw [skipToToken]
    simp only [hmark, hskip, hcomment, hover, hbreak, Bool.false_eq_true, if_false, if_true,
      Bool.not_false, Bool.or_true]
  · show (c.advance ('#' :: line).length).rest.drop _ = rest
    rw [hbehind]
    rfl

/-- The start line is a token. -/
theorem isSolid_startLine (r : List Char) : IsSolid (startLine ++ r) := by
  intro x hx
  obtain rfl : '-' = x := Option.some.inj hx
  decide

/-- **What stands in front of a document is skipped.** -/
theorem skipToToken_opening {opening : List Char} (h : IsOpening opening) (r : List Char) :
    ∃ c : Cursor, skipToToken false ((opening ++ (startLine ++ r)).length + 1) true
        { rest := opening ++ (startLine ++ r) } = (true, c) ∧
      c.rest = startLine ++ r ∧ c.column = 0 := by
  obtain rfl | ⟨line, hline, rfl⟩ := h
  · exact ⟨_, skipToToken_blanks (n := 0) rfl (isSolid_startLine r) _ _, rfl, rfl⟩
  · have htext : '#' :: (line ++ ['\n', '\n']) ++ (startLine ++ r) =
        '#' :: (line ++ '\n' :: ('\n' :: (startLine ++ r))) := by simp
    obtain ⟨c, hskip, hrest, hcolumn⟩ := skipToToken_comment
      (c := { rest := '#' :: (line ++ ['\n', '\n']) ++ (startLine ++ r) }) htext hline
      ('#' :: (line ++ ['\n', '\n']) ++ (startLine ++ r)).length true
    obtain ⟨fuel, hfuel⟩ : ∃ fuel,
        ('#' :: (line ++ ['\n', '\n']) ++ (startLine ++ r)).length = fuel + 2 :=
      ⟨line.length + (startLine ++ r).length + 1, by simp; omega⟩
    have hempty : c.skipBreak.rest = List.replicate 0 ' ' ++ (startLine ++ r) := by
      show c.rest.drop (breakWidth c.rest) = _
      rw [hrest]
      rfl
    refine ⟨c.skipBreak.advance 0, ?_, hempty, rfl⟩
    rw [hskip, hfuel, skipToToken_break hrest,
      skipToToken_blanks hempty (isSolid_startLine r)]

end Scanner

/-- **The text of a document** with what stands in front of it. -/
def Entries.document (opening : List Char) (es : Entries) : List Char :=
  opening ++ (Scanner.startLine ++ (es.chars 0 ++ ['\n']))

open Scanner in
/-- **The scanner goes through a document**, if its keys are short, and is then at the end of the
text. -/
theorem Entries.steps_document {opening : List Char} (hopening : IsOpening opening) (key : Written)
    (value : Layout) (n : Nat) (more : Entries)
    (hfits : (Entries.cons key value n more).Fits 0) :
    ∃ s', Steps (Entries.cons key value n more).Short
        { cursor := { rest := (Entries.cons key value n more).document opening } } s' ∧
      Ready s' ((Entries.cons key value n more).tokens.reverse ++
        [.blockMappingStart, .documentStart]) 0 [-1] 0 [] := by
  generalize htext : (Entries.cons key value n more).document opening = text
  have hrest := htext
  unfold Entries.document at hrest
  have hend : endsWord ((Entries.cons key value n more).chars 0 ++ ['\n']) = true := rfl
  obtain ⟨c, hskip, hc, hcolumn⟩ := skipToToken_opening hopening
    ((Entries.cons key value n more).chars 0 ++ ['\n'])
  rw [hrest] at hskip
  have hstart : next { cursor := { rest := text } } = _ := next_start hend hskip hc hcolumn
  have hbehind : (c.advance 3).rest = (Entries.cons key value n more).chars 0 ++ ['\n'] := by
    rw [Cursor.advance_rest, hc]
    rfl
  have hreach : Reaches { cursor := { rest := text } } _ := reaches_of_next hstart (by
    show (c.advance 3).rest.length < text.length
    rw [hbehind, ← hrest]
    simp [startLine]
    omega)
  have hready : Ready (plainState (c.advance 3) [.documentStart] (-1) [] false) [.documentStart] (-1)
      [] 0 _ := ready_plainGap hbehind (isGap_entries hfits ['\n']) false
  have hopens : Enters 0 (-1) [] [.blockMappingStart] [-1] := .opens (by decide) []
  -- The last line feed is the gap at the end of the text.
  have hlast : IsGap ['\n'] 0 [] := ⟨by simp [IsSolid], 0, rfl⟩
  obtain ⟨s', hsteps, hready'⟩ :=
    steps_entries key value n more hfits hopens hlast (Nat.le_refl 0) hready
  exact ⟨s', (hreach.steps.trans hsteps).congr (iff_of_eq (true_and _)), hready'⟩

open Scanner in
/-- A scanner that gets to the end of its text gives its tokens. -/
theorem Scanner.Reaches.run_eq {s s' : Scanner} {ts : List Token} {indent : Int} {outer : List Int}
    {column : Nat} (h : Reaches s s') (h' : Ready s' ts indent outer column []) :
    run (s.cursor.rest.length + 1) s = .ok (closeBlocks.close (-1) ts indent outer).1.reverse := by
  obtain ⟨m, hrun, hlen⟩ := h
  have hdone := hrun (s.cursor.rest.length - m + 1)
  rw [show s.cursor.rest.length - m + 1 + m = s.cursor.rest.length + 1 by omega,
    run_of_ready h'] at hdone
  exact hdone

open Scanner in
/-- **The tokens of a document**, if its keys are short enough and its characters admissible. A
text for which one of this fails has no tokens. -/
theorem Entries.scan_document {opening : List Char} (hopening : IsOpening opening) {es : Entries}
    (hne : es ≠ .nil) (hfits : es.Fits 0) (ts : List Token) :
    Token.scan (es.document opening) = .ok ts ↔
      ((es.document opening).all isAdmissible = true ∧ es.Short) ∧
        ts = .documentStart :: (Layout.block 0 es).tokens := by
  cases es with
  | nil => exact absurd rfl hne
  | cons key value n more =>
    obtain ⟨s', hsteps, hready⟩ := steps_document hopening key value n more hfits
    generalize (Entries.cons key value n more).document opening = text at hsteps
    unfold Token.scan
    by_cases hall : text.all isAdmissible = true
    · rw [if_pos hall, hall]
      by_cases hshort : (Entries.cons key value n more).Short
      · have hrun := (hsteps.reaches hshort).run_eq hready
        -- At the end the one open block is closed.
        rw [close_of_lt (by decide), close_of_le (by decide)] at hrun
        rw [show run (text.length + 1) { cursor := { rest := text } } = _ from hrun]
        simp only [hshort, and_self, true_and, Except.ok.injEq]
        rw [Layout.tokens]
        simp only [List.reverse_cons, List.reverse_append, List.reverse_reverse]
        constructor <;> rintro rfl <;> simp
      · constructor
        · intro hok
          exact absurd hok (hsteps.stuck hshort _ _)
        · intro hok
          exact absurd hok.1.2 hshort
    · rw [if_neg hall]
      constructor
      · intro hok
        cases hok
      · intro hok
        exact absurd hok.1.1 hall

end TemplateShare.Yaml
