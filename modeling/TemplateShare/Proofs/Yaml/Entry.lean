import TemplateShare.Proofs.Yaml.Literal
import TemplateShare.Proofs.Yaml.Quoted
import TemplateShare.Text.Blank

/-! # Keys and their values

How one entry of a block mapping is scanned: the key with its colon, and a scalar behind it. What
may stand for a key or a value is said by what the scanner makes of it, so that the ways of writing
scalars can be told apart here and nowhere else.

* **`Scanner.IsKey`** — a text that is read as a key, at a column.
* **`Scanner.IsValue`** — a text that is read as a value, under a parent at a column.
* **`Scanner.steps_key`** — a key takes the scanner behind its colon, if it is short enough. -/

namespace TemplateShare.Yaml.Scanner

/-- **A scanner outside of flow collections** with no possible simple key. -/
def plainState (c : Cursor) (ts : List Token) (indent : Int) (outer : List Int) (allowed : Bool) :
    Scanner := ⟨c, ts, indent, outer, none, [], allowed⟩

variable {c : Cursor} {ts : List Token} {indent : Int} {outer : List Int}

/-! ## The tokens that are scalars -/

/-- Where no simple key may start, none is remembered. -/
theorem saveKey_plainState (c : Cursor) (ts : List Token) (indent : Int) (outer : List Int) :
    (plainState c ts indent outer false).saveKey = .ok (plainState c ts indent outer false) := rfl

/-- **Where a simple key may start**, it is remembered with its place. -/
theorem saveKey_allowed (c : Cursor) (ts : List Token) (indent : Int) (outer : List Int) :
    (plainState c ts indent outer true).saveKey =
      .ok ⟨c, ts, indent, outer,
        some ⟨indent == (c.column : Int), ts.length, c.index, c.line, c.column⟩, [], true⟩ := rfl

/-- A plain scalar where no simple key may start. -/
theorem plain_plainState {w : List Char} {d : Cursor} {broken : Bool}
    (h : plainScalar false (indent + 1).toNat c = .ok (w, d, broken)) :
    (plainState c ts indent outer false).plain =
      .ok (plainState d (.scalar .plain w :: ts) indent outer broken) := by
  rw [plain, saveKey_plainState]
  show (plainScalar false (indent + 1).toNat c).bind _ = _
  rw [h]
  rfl

/-- A quoted scalar where no simple key may start. -/
theorem quoted_plainState {double : Bool} {s : List Char} {d : Cursor}
    (h : quotedScalar double c = .ok (s, d)) :
    (plainState c ts indent outer false).quoted double =
      .ok (plainState d (.scalar (if double then .doubleQuoted else .singleQuoted) s :: ts) indent
        outer false) := by
  rw [quoted, saveKey_plainState]
  show (quotedScalar double c).bind _ = _
  rw [h]
  rfl

/-- A literal block. -/
theorem block_plainState {s : List Char} {d : Cursor} (allowed : Bool)
    (h : blockScalar false indent (c.advance 1) = .ok (s, d)) :
    (plainState c ts indent outer allowed).block false =
      .ok (plainState d (.scalar .literal s :: ts) indent outer true) := by
  rw [block]
  show (blockScalar false indent (c.advance 1)).bind _ = _
  rw [h]
  rfl

/-- A word is none of the tokens of one character. -/
theorem IsWordScalar.head_not_mark {x : Char} {w : List Char} (h : IsWordScalar (x :: w)) :
    x ∉ ['%', '[', '\x7b', ']', '\x7d', ',', '*', '&', '!', '|', '>', '\'', '"'] := by
  intro hmem
  obtain hnot | ⟨hin, -⟩ := h.start x w rfl
  · exact hnot (List.mem_of_elem_eq_true ((by decide :
      ∀ y ∈ ['%', '[', '\x7b', ']', '\x7d', ',', '*', '&', '!', '|', '>', '\'', '"'],
        indicators.elem y = true) x hmem))
  · exact absurd hin ((by decide :
      ∀ y ∈ ['%', '[', '\x7b', ']', '\x7d', ',', '*', '&', '!', '|', '>', '\'', '"'],
        y ∉ ['-', '?', ':']) x hmem)

/-- A word that starts with a dash, a question mark or a colon goes on. -/
theorem IsWordScalar.not_endsWord {x : Char} {w : List Char} (h : IsWordScalar (x :: w))
    (hx : x ∈ ['-', '?', ':']) (rest : List Char) : endsWord (w ++ rest) = false := by
  obtain hnot | ⟨-, hne⟩ := h.start x w rfl
  · exact absurd (List.mem_of_elem_eq_true ((by decide :
      ∀ y ∈ ['-', '?', ':'], indicators.elem y = true) x hx)) hnot
  · obtain ⟨y, w', rfl⟩ := List.exists_cons_of_ne_nil hne
    exact h.spacing y (by simp)

/-- A plain scalar may start with a word. -/
theorem IsWordScalar.startsPlain {x : Char} {w : List Char} (h : IsWordScalar (x :: w))
    (rest : List Char) : Scanner.startsPlain false (x :: (w ++ rest)) = true := by
  have hx : isSpacing x = false := h.spacing x List.mem_cons_self
  obtain hnot | ⟨hin, -⟩ := h.start x w rfl
  · have hcontains : indicators.contains x = false := by
      rw [List.contains_eq_mem, decide_eq_false hnot]
    show ((!isSpacing x && !indicators.contains x || _) || _) = true
    rw [hx, hcontains]
    rfl
  · have hends := h.not_endsWord hin rest
    generalize w ++ rest = r at hends
    have hblank : r.head?.any isBlank = false := by
      cases r with
      | nil => rfl
      | cons y r =>
        rw [endsWord_cons, isSpacing, Bool.or_eq_false_iff] at hends
        exact hends.1
    simp only [List.mem_cons, List.not_mem_nil, or_false] at hin
    rcases hin with rfl | rfl | rfl <;> simp [Scanner.startsPlain, hblank, hends]

/-- **A word is read as a plain scalar.** -/
theorem readToken_word {w rest : List Char} (hw : IsWordScalar w) (h : c.rest = w ++ rest)
    (hc : c.column ≠ 0 ∨ ∀ x ∈ w, x ≠ '-' ∧ x ≠ '.') (allowed : Bool) :
    readToken (plainState c ts indent outer allowed) =
      (plainState c ts indent outer allowed).plain := by
  obtain ⟨x, w, rfl⟩ := List.exists_cons_of_ne_nil hw.ne_nil
  have hrest : c.rest = x :: (w ++ rest) := h
  have hindicator : c.atDocumentIndicator = false :=
    atDocumentIndicator_eq_false hrest (hc.imp_right fun hx => hx x List.mem_cons_self)
  have hstart : startsPlain false (x :: (w ++ rest)) = true := hw.startsPlain rest
  have hmark := hw.head_not_mark
  simp only [List.mem_cons, List.not_mem_nil, or_false, not_or] at hmark
  obtain ⟨h₁, h₂, h₃, h₄, h₅, h₆, h₇, h₈, h₉, h₁₀, h₁₁, h₁₂, h₁₃⟩ := hmark
  -- These three open a block entry only where a word ends behind them.
  have hword : ∀ y ∈ ['-', '?', ':'], (x == y && endsWord (w ++ rest)) = false := by
    intro y hy
    by_cases hxy : x = y
    · subst hxy
      simp [hw.not_endsWord hy rest]
    · simp [hxy]
  have hdash := hword '-' (by simp)
  have hquestion := hword '?' (by simp)
  have hcolon := hword ':' (by simp)
  -- The first character is no indicator, so of all the branches the last one is left.
  unfold readToken
  rw [show (plainState c ts indent outer allowed).cursor.rest = x :: (w ++ rest) from hrest]
  simp only [show (plainState c ts indent outer allowed).cursor = c from rfl,
    show (plainState c ts indent outer allowed).inFlow = false from rfl, hindicator,
    beq_eq_false_iff_ne.2 h₁, beq_eq_false_iff_ne.2 h₂, beq_eq_false_iff_ne.2 h₃,
    beq_eq_false_iff_ne.2 h₄, beq_eq_false_iff_ne.2 h₅, beq_eq_false_iff_ne.2 h₆,
    beq_eq_false_iff_ne.2 h₇, beq_eq_false_iff_ne.2 h₈, beq_eq_false_iff_ne.2 h₉,
    beq_eq_false_iff_ne.2 h₁₀, beq_eq_false_iff_ne.2 h₁₁, beq_eq_false_iff_ne.2 h₁₂,
    beq_eq_false_iff_ne.2 h₁₃, hdash, hquestion, hcolon, hstart, Bool.and_false, Bool.false_or,
    Bool.false_and, Bool.false_eq_true, if_false, if_true]

/-- **A quote starts a quoted scalar.** -/
theorem readToken_quote {double : Bool} {r : List Char}
    (h : c.rest = (if double then '"' else '\'') :: r) (allowed : Bool) :
    readToken (plainState c ts indent outer allowed) =
      (plainState c ts indent outer allowed).quoted double := by
  unfold readToken
  rw [show (plainState c ts indent outer allowed).cursor.rest = _ from h]
  have hindicator : c.atDocumentIndicator = false :=
    atDocumentIndicator_eq_false h (.inr (by cases double <;> decide))
  simp only [show (plainState c ts indent outer allowed).cursor = c from rfl,
    show (plainState c ts indent outer allowed).inFlow = false from rfl, hindicator]
  cases double <;> simp

/-- **A bar starts a literal block.** -/
theorem readToken_bar {r : List Char} (h : c.rest = '|' :: r) (allowed : Bool) :
    readToken (plainState c ts indent outer allowed) =
      (plainState c ts indent outer allowed).block false := by
  unfold readToken
  rw [show (plainState c ts indent outer allowed).cursor.rest = _ from h]
  have hindicator : c.atDocumentIndicator = false :=
    atDocumentIndicator_eq_false h (.inr (by decide))
  simp only [show (plainState c ts indent outer allowed).cursor = c from rfl,
    show (plainState c ts indent outer allowed).inFlow = false from rfl, hindicator]
  simp

/-- A colon that ends a word is the colon of a mapping. -/
theorem readToken_colon {s : Scanner} {r : List Char} (h : s.cursor.rest = ':' :: r)
    (hr : endsWord r = true) : readToken s = s.mappingValue := by
  unfold readToken
  have hindicator : s.cursor.atDocumentIndicator = false :=
    atDocumentIndicator_eq_false h (.inr (by decide))
  rw [h, hindicator]
  simp [hr]

/-! ## Keys -/

/-- **A text that is read as a key.** Where a simple key may start, it is read as a scalar that is
remembered as one. -/
structure IsKey (column : Nat) (written : List Char) (style : ScalarStyle) (text : List Char) :
    Prop where
  solid : ∀ r, IsSolid (written ++ r)
  ne_nil : written ≠ []
  read : ∀ (c : Cursor) (ts : List Token) (indent : Int) (outer : List Int) (r : List Char),
    c.rest = written ++ ':' :: r → endsWord r = true → c.column = column →
    readToken (plainState c ts indent outer true) =
      .ok ⟨c.advance written.length, .scalar style text :: ts, indent, outer,
        some ⟨indent == (column : Int), ts.length, c.index, c.line, column⟩, [], false⟩

/-- The first character of a word is no white space. -/
theorem IsWordScalar.isSolid {w : List Char} (h : IsWordScalar w) (hmark : w.head? ≠ some '\ufeff')
    (rest : List Char) : IsSolid (w ++ rest) := by
  obtain ⟨x, w, rfl⟩ := List.exists_cons_of_ne_nil h.ne_nil
  intro y hy
  obtain rfl : x = y := Option.some.inj hy
  refine ⟨h.spacing x List.mem_cons_self, ?_, fun hx => hmark (by rw [hx]; rfl)⟩
  rintro rfl
  obtain hnot | ⟨hin, -⟩ := h.start '#' w rfl
  · exact hnot (by decide)
  · exact absurd hin (by decide)

/-- **A word is a key.** -/
theorem isKey_word {w : List Char} (h : IsWordScalar w) (hmark : w.head? ≠ some '\ufeff')
    {column : Nat} (hc : column ≠ 0 ∨ ∀ x ∈ w, x ≠ '-' ∧ x ≠ '.') :
    IsKey column w .plain w where
  solid := h.isSolid hmark
  ne_nil := h.ne_nil
  read c ts indent outer r hrest hr hcolumn := by
    subst hcolumn
    rw [readToken_word h hrest hc, plain, saveKey_allowed]
    simp only [bind, Except.bind]
    rw [show inFlow _ = false from rfl, plainScalar_key h hr hrest hc]
    rfl

/-- **A text in double quotes is a key.** -/
theorem isKey_quoted {enc : Char → List Char} {s : List Char} (hblank : enc ' ' = [' '])
    (hs : ∀ x ∈ s, x ≠ ' ' → IsSpelled true (enc x) x) (column : Nat) :
    IsKey column ('"' :: (s.flatMap enc ++ ['"'])) .doubleQuoted s where
  solid r x hx := by
    obtain rfl : '"' = x := Option.some.inj hx
    decide
  ne_nil := List.cons_ne_nil _ _
  read c ts indent outer r hrest hr hcolumn := by
    subst hcolumn
    have hquote : c.rest = '"' :: (s.flatMap enc ++ '"' :: (':' :: r)) := by
      rw [hrest]
      simp
    rw [readToken_quote (show c.rest = (if true then _ else _) :: _ from hquote), quoted,
      saveKey_allowed]
    simp only [bind, Except.bind]
    rw [quotedScalar_spelled (show true = false → _ by simp) hblank hs hquote]
    simp [emit]

/-- A colon is a token. -/
theorem isSolid_colon (r : List Char) : IsSolid (':' :: r) := by
  intro x hx
  obtain rfl : ':' = x := Option.some.inj hx
  decide

/-- **How a block is entered**: at its own column it goes on, and a deeper column opens it. -/
inductive Enters (column : Nat) : Int → List Int → List Token → List Int → Prop
  | goOn (outer : List Int) : Enters column column outer [] outer
  | opens {indent : Int} (h : indent < column) (outer : List Int) :
      Enters column indent outer [.blockMappingStart] (indent :: outer)

/-- The innermost block before is not deeper. -/
theorem Enters.le {column : Nat} {indent : Int} {outer outer' : List Int} {start : List Token}
    (h : Enters column indent outer start outer') : indent ≤ column := by
  cases h with
  | goOn => exact Int.le_refl _
  | opens h => exact Int.le_of_lt h

/-- What a scanner with a possible simple key does next. -/
theorem next_of_key {s : Scanner} {allowed : Bool} {x : Char} {r : List Char} {ts : List Token}
    (houter : s.outerKeys = [])
    (hskip : skipToToken false (s.cursor.rest.length + 1) s.keyAllowed s.cursor = (allowed, c))
    (hrest : c.rest = x :: r)
    (hclose : closeBlocks.close c.column s.tokens s.indent s.outerIndents = (ts, indent, outer)) :
    s.next = (dropStale c s.key).bind fun key =>
      (readToken ⟨c, ts, indent, outer, key, [], allowed⟩).map (false, ·) := by
  obtain ⟨c₀, ts₀, indent₀, outer₀, key, outerKeys, allowed₀⟩ := s
  obtain rfl : outerKeys = [] := houter
  unfold next
  rw [show inFlow _ = false from rfl, hskip]
  have hdrop : dropStaleKeys ⟨c, ts₀, indent₀, outer₀, key, [], allowed⟩ =
      (dropStale c key).map fun key => ⟨c, ts₀, indent₀, outer₀, key, [], allowed⟩ := by
    unfold dropStaleKeys
    cases dropStale c key <;> rfl
  simp only [bind, hdrop]
  cases dropStale c key with
  | error e => rfl
  | ok key =>
    have hstate : closeBlocks ⟨c, ts₀, indent₀, outer₀, key, [], allowed⟩ c.column =
        ⟨c, ts, indent, outer, key, [], allowed⟩ := by
      rw [closeBlocks_eq rfl, hclose]
    simp only [Except.map, Except.bind, hstate, hrest, List.isEmpty_cons, Bool.false_eq_true,
      if_false]

/-- **The colon behind a key** puts the key in front of its text, if the key is short enough. -/
theorem next_colon {r : List Char} (hc : c.rest = ':' :: r) (hr : endsWord r = true)
    {column n index : Nat} (hcolumn : c.column = column + n) (hindex : c.index = index + n)
    {outer' : List Int} {start : List Token} (henters : Enters column indent outer start outer')
    (required : Bool) (t : Token) (ts : List Token) :
    let s : Scanner := ⟨c, t :: ts, indent, outer,
      some ⟨required, ts.length, index, c.line, column⟩, [], false⟩
    (n ≤ 1024 → s.next = .ok (false, plainState (c.advance 1)
      (.value :: t :: .key :: (start ++ ts)) column outer' false)) ∧
    (¬n ≤ 1024 → ∃ e, s.next = .error e) := by
  intro s
  have hskip : skipToToken false (c.rest.length + 1) false c = (false, c) :=
    skipToToken_blanks (n := 0) hc (isSolid_colon r) _ _
  have hclose : closeBlocks.close (c.column : Int) (t :: ts) indent outer =
      (t :: ts, indent, outer) := by
    have hle := henters.le
    exact close_of_le (by omega) _ _
  have hnext : s.next = _ := next_of_key (s := s) rfl hskip hc hclose
  have hstale : isStale c ⟨required, ts.length, index, c.line, column⟩ = decide (1024 < n) := by
    simp [isStale, hindex]
  -- The key is stale if it is longer than 1024 characters.
  rw [hnext]
  unfold dropStale
  rw [show s.key = some ⟨required, ts.length, index, c.line, column⟩ from rfl]
  simp only [hstale, decide_eq_true_eq]
  constructor
  · intro hle
    rw [if_neg (by omega)]
    simp only [Except.bind]
    rw [readToken_colon hc hr]
    unfold mappingValue openBlock
    cases henters with
    | goOn =>
      simp [inFlow, insertTokens, emitMark, emit, plainState, Except.map]
    | opens h =>
      simp [inFlow, insertTokens, emitMark, emit, plainState, Except.map, h]
  · intro hgt
    rw [if_pos (by omega)]
    -- A stale key is an error where it is required; elsewhere there is no key left for the colon.
    cases required with
    | true => exact ⟨_, rfl⟩
    | false =>
      simp only [Bool.false_eq_true, if_false, Except.bind]
      rw [readToken_colon hc hr]
      exact ⟨_, rfl⟩

/-- **A key takes the scanner behind its colon**, if it is short enough. -/
theorem steps_key {s : Scanner} {column : Nat} {written r text : List Char} {style : ScalarStyle}
    (hkey : IsKey column written style text) (hr : endsWord r = true) {outer' : List Int}
    {start : List Token} (henters : Enters column indent outer start outer')
    (h : Ready s ts indent outer column (written ++ ':' :: r)) :
    ∃ c : Cursor, c.rest = r ∧ column < c.column ∧ Steps (written.length ≤ 1024) s
      (plainState c (.value :: .scalar style text :: .key :: (start ++ ts)) column outer' false) := by
  obtain ⟨x, w, rfl⟩ := List.exists_cons_of_ne_nil hkey.ne_nil
  obtain ⟨c, hrest, hcolumn, hnext⟩ := next_of_ready h henters.le
  have hread := hkey.read c ts indent outer r hrest hr hcolumn
  have hafter : (c.advance (x :: w).length).rest = ':' :: r := rest_advance hrest
  have hend : ((c.advance (x :: w).length).advance 1).rest = r := by
    rw [Cursor.advance_rest, hafter]
    rfl
  rw [show (⟨c, ts, indent, outer, none, [], true⟩ : Scanner) = plainState c ts indent outer true
    from rfl, hread] at hnext
  have hlen := h.length
  -- The key is read as a scalar first, and the colon behind it makes it a key.
  have hfirst : Reaches s _ := reaches_of_next hnext (by
    rw [hafter]
    simp at hlen ⊢
    omega)
  obtain ⟨hshort, hlong⟩ := next_colon hafter hr
    (show _ = column + (x :: w).length by rw [← hcolumn]; rfl)
    (show _ = c.index + (x :: w).length from rfl) henters (indent == (column : Int))
    (.scalar style text) ts
  refine ⟨(c.advance (x :: w).length).advance 1, hend, ?_, ⟨fun hle => ?_, fun hgt => ?_⟩⟩
  · show column < c.column + (x :: w).length + 1
    omega
  · refine hfirst.trans (reaches_of_next (hshort hle) ?_)
    show ((c.advance (x :: w).length).advance 1).rest.length < (c.advance (x :: w).length).rest.length
    rw [hend, hafter]
    exact Nat.lt_succ_self _
  · obtain ⟨e, he⟩ := hlong hgt
    exact hfirst.stuck (stuck_of_next he)

/-! ## Values -/

/-- **A text that is read as a value**: behind a colon and a blank, and up to a gap in front of a
token that is not deeper than the parent. -/
def IsValue (parent : Nat) (written : List Char) (style : ScalarStyle) (text : List Char) : Prop :=
  ∀ (c : Cursor) (ts : List Token) (outer : List Int) (u : List Char) (column : Nat)
    (rest : List Char), c.rest = ' ' :: (written ++ u) → parent < c.column → IsGap u column rest →
    column ≤ parent → ∃ s', Reaches (plainState c ts parent outer false) s' ∧
      Ready s' (.scalar style text :: ts) parent outer column rest

/-- A gap is longer than nothing. -/
theorem IsGap.length_lt {u rest : List Char} {column : Nat} (h : IsGap u column rest) :
    rest.length < u.length := by
  obtain ⟨-, n, rfl⟩ := h
  simp
  omega

/-- A gap starts with a line break. -/
theorem IsGap.head? {u rest : List Char} {column : Nat} (h : IsGap u column rest) :
    u.head? = some '\n' := by
  obtain ⟨-, n, rfl⟩ := h
  cases n <;> rfl

/-- What is read behind a colon and a blank. -/
theorem next_value {x : Char} {r : List Char} (h : c.rest = ' ' :: x :: r) (hx : IsSolid (x :: r))
    (hcolumn : indent < c.column) :
    (plainState c ts indent outer false).next =
      (readToken (plainState (c.advance 1) ts indent outer false)).map (false, ·) := by
  have hrest : (c.advance 1).rest = x :: r := by
    rw [Cursor.advance_rest, h]
    rfl
  have hskip : skipToToken false (c.rest.length + 1) false c = (false, c.advance 1) :=
    skipToToken_blanks (n := 1) h hx _ _
  have hclose : closeBlocks.close ((c.advance 1).column : Int) ts indent outer =
      (ts, indent, outer) := by
    refine close_of_le ?_ _ _
    show indent ≤ ((c.column + 1 : Nat) : Int)
    omega
  rw [next_of_key (s := plainState c ts indent outer false) rfl hskip hrest hclose]
  rfl

/-- Before a token, where a simple key may start, a scanner is ready. -/
theorem ready_plainState {d : Cursor} {column : Nat} {rest : List Char} (h : d.rest = rest)
    (hcolumn : d.column = column) (hsolid : IsSolid rest) :
    Ready (plainState d ts indent outer true) ts indent outer column rest := by
  subst h hcolumn
  exact ready_of_solid (s := plainState d ts indent outer true) hsolid rfl rfl rfl

/-- In front of a gap, a scanner is ready for the token behind it. -/
theorem ready_plainGap {d : Cursor} {u rest : List Char} {column : Nat} (h : d.rest = u)
    (hgap : IsGap u column rest) (allowed : Bool) :
    Ready (plainState d ts indent outer allowed) ts indent outer column rest := by
  subst h
  exact ready_of_gap (s := plainState d ts indent outer allowed) hgap rfl rfl

/-- **A word is a value.** -/
theorem isValue_word {w : List Char} (h : IsWordScalar w) (hmark : w.head? ≠ some '\ufeff')
    (parent : Nat) : IsValue parent w .plain w := by
  intro c ts outer u column rest hrest hcolumn hgap hle
  obtain ⟨x, w', rfl⟩ := List.exists_cons_of_ne_nil h.ne_nil
  have hsolid : IsSolid (x :: (w' ++ u)) := h.isSolid hmark u
  have hword : (c.advance 1).rest = (x :: w') ++ u := by
    rw [Cursor.advance_rest, hrest]
    rfl
  have hdeep : (c.advance 1).column ≠ 0 := Nat.succ_ne_zero _
  -- The word ends at the gap, since what follows is not as far to the right as it would have to be.
  obtain ⟨d, hread, hd, hdcolumn⟩ := plainScalar_value h hgap hword hdeep
    (show column < ((parent : Int) + 1).toNat by omega)
  refine ⟨plainState d (.scalar .plain (x :: w') :: ts) parent outer true, ?_,
    ready_plainState hd hdcolumn hgap.1⟩
  refine reaches_of_next ?_ ?_
  · rw [next_value hrest hsolid (by omega), readToken_word h hword (.inl hdeep),
      plain_plainState hread]
    rfl
  · show d.rest.length < c.rest.length
    have hlen := hgap.length_lt
    rw [hd, hrest]
    simp
    omega

/-- **A text in quotes is a value.** -/
theorem isValue_quoted {double : Bool} {enc : Char → List Char} {s : List Char}
    (hblank : enc ' ' = [' ']) (hs : ∀ x ∈ s, x ≠ ' ' → IsSpelled double (enc x) x) (parent : Nat) :
    IsValue parent ((if double then '"' else '\'') ::
      (s.flatMap enc ++ [if double then '"' else '\'']))
      (if double then .doubleQuoted else .singleQuoted) s := by
  intro c ts outer u column rest hrest hcolumn hgap hle
  have hsolid : ∀ r, IsSolid ((if double then '"' else '\'') :: r) := by
    intro r x hx
    obtain rfl : (if double then '"' else '\'') = x := Option.some.inj hx
    cases double <;> decide
  have hquote : (c.advance 1).rest = (if double then '"' else '\'') ::
      (s.flatMap enc ++ (if double then '"' else '\'') :: u) := by
    rw [Cursor.advance_rest, hrest]
    simp
  have hread := quotedScalar_spelled (show double = false → u.head? ≠ some '\'' by
    simp [hgap.head?]) hblank hs hquote
  -- Behind the closing quote the gap begins.
  have hend : ((c.advance 1).advance ((s.flatMap enc).length + 2)).rest = u := by
    rw [Cursor.advance_rest, hquote]
    have hlist : ∀ q : Char, q :: (s.flatMap enc ++ q :: u) = (q :: (s.flatMap enc ++ [q])) ++ u := by
      simp
    rw [hlist]
    exact List.drop_left' (by simp)
  refine ⟨plainState ((c.advance 1).advance ((s.flatMap enc).length + 2))
    (.scalar (if double then .doubleQuoted else .singleQuoted) s :: ts) parent outer false, ?_,
    ready_plainGap hend hgap false⟩
  refine reaches_of_next ?_ ?_
  · rw [next_value hrest (hsolid _) (by omega), readToken_quote hquote, quoted_plainState hread]
    rfl
  · show ((c.advance 1).advance ((s.flatMap enc).length + 2)).rest.length < c.rest.length
    rw [hend, hrest]
    simp
    omega

/-- A text in double quotes is a value. -/
theorem isValue_doubleQuoted {enc : Char → List Char} {s : List Char} (hblank : enc ' ' = [' '])
    (hs : ∀ x ∈ s, x ≠ ' ' → IsSpelled true (enc x) x) (parent : Nat) :
    IsValue parent ('"' :: (s.flatMap enc ++ ['"'])) .doubleQuoted s :=
  isValue_quoted hblank hs parent

/-- **A literal block is a value.** -/
theorem isValue_literal {l : List Char} {ls : List (List Char)} (h : AreLines (l :: ls))
    (parent : Nat) :
    IsValue parent ('|' :: '2' :: hanging (parent + 2) (l :: ls)) .literal
      (joined (l :: ls) ++ ['\n']) := by
  intro c ts outer u column rest hrest hcolumn hgap hle
  have hsolid : ∀ r, IsSolid ('|' :: r) := by
    intro r x hx
    obtain rfl : '|' = x := Option.some.inj hx
    decide
  have hbar : (c.advance 1).rest = '|' :: ('2' :: (hanging (parent + 2) (l :: ls) ++ u)) := by
    rw [Cursor.advance_rest, hrest]
    rfl
  have hheader : ((c.advance 1).advance 1).rest = '2' :: (hanging (parent + 2) (l :: ls) ++ u) := by
    rw [Cursor.advance_rest, hbar]
    rfl
  -- The block takes the gap with it, up to the first token behind it.
  obtain ⟨d, hread, hd, hdcolumn⟩ := blockScalar_literal h hgap hle hheader
  refine ⟨plainState d (.scalar .literal (joined (l :: ls) ++ ['\n']) :: ts) parent outer true, ?_,
    ready_plainState hd hdcolumn hgap.1⟩
  refine reaches_of_next ?_ ?_
  · rw [next_value hrest (hsolid _) (by omega), readToken_bar hbar, block_plainState false hread]
    rfl
  · show d.rest.length < c.rest.length
    have hlen := hgap.length_lt
    rw [hd, hrest]
    simp
    omega

end TemplateShare.Yaml.Scanner
