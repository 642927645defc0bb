import TemplateShare.Yaml.Node

/-! # Runs of the scanner

How one scanner goes on to another, so that the reading of a long text can be put together from
the readings of its parts. Every token takes at least one character, which is why the fuel of a
scan always lasts.

* **`Scanner.Reaches`** — after some tokens the scanner is as another one.
* **`Scanner.Stuck`** — no amount of fuel takes the scanner to the end of its text.
* **`Scanner.Steps`** — it reaches another one under a condition and is stuck without it.
* **`Scanner.Ready`** — only white space stands before the next token, whose column is known. -/

namespace TemplateShare.Yaml.Scanner

variable {s s' s'' : Scanner} {ts : List Token}

/-! ## Reaching another scanner -/

/-- A scan goes on with the next token or ends. -/
theorem run_succ (fuel : Nat) (s : Scanner) :
    run (fuel + 1) s =
      match s.next with
      | .error e => .error e
      | .ok (true, s') => .ok s'.tokens.reverse
      | .ok (false, s') => run fuel s' := by
  rw [run]
  cases h : s.next with
  | error e => rfl
  | ok x =>
    obtain ⟨ended, s'⟩ := x
    cases ended <;> rfl

/-- More fuel does no harm. -/
theorem run_mono {fuel : Nat} (h : run fuel s = .ok ts) (n : Nat) : run (fuel + n) s = .ok ts := by
  induction fuel generalizing s with
  | zero => cases h
  | succ fuel ih =>
    rw [run_succ] at h
    rw [Nat.add_right_comm, run_succ]
    cases hnext : s.next with
    | error e => rw [hnext] at h; cases h
    | ok x =>
      obtain ⟨ended, s'⟩ := x
      rw [hnext] at h
      cases ended with
      | true => exact h
      | false => exact ih h

/-- **A scanner goes on to another one** in some number of tokens, each of at least a character. -/
def Reaches (s s' : Scanner) : Prop :=
  ∃ n, (∀ fuel, run (fuel + n) s = run fuel s') ∧
    n + s'.cursor.rest.length ≤ s.cursor.rest.length

/-- **A scanner that never gets to the end** of its text. -/
def Stuck (s : Scanner) : Prop := ∀ fuel ts, run fuel s ≠ .ok ts

/-- **A scanner goes on to another one under a condition**, without which it is stuck. -/
structure Steps (p : Prop) (s s' : Scanner) : Prop where
  reaches : p → Reaches s s'
  stuck : ¬p → Stuck s

theorem Reaches.refl (s : Scanner) : Reaches s s := ⟨0, fun _ => rfl, by simp⟩

theorem Reaches.trans (h : Reaches s s') (h' : Reaches s' s'') : Reaches s s'' := by
  obtain ⟨n, hrun, hlen⟩ := h
  obtain ⟨m, hrun', hlen'⟩ := h'
  refine ⟨m + n, fun fuel => ?_, by omega⟩
  rw [← Nat.add_assoc, hrun, hrun']

/-- One token takes a scanner to the next one. -/
theorem reaches_of_next (h : s.next = .ok (false, s'))
    (hlen : s'.cursor.rest.length < s.cursor.rest.length) : Reaches s s' := by
  refine ⟨1, fun fuel => ?_, by omega⟩
  rw [run_succ, h]

/-- A scanner at a fault is stuck. -/
theorem stuck_of_next {e : Error} (h : s.next = .error e) : Stuck s := by
  intro fuel ts hrun
  cases fuel with
  | zero => cases hrun
  | succ fuel =>
    rw [run_succ, h] at hrun
    cases hrun

/-- A scanner that goes on to a stuck one is stuck. -/
theorem Reaches.stuck (h : Reaches s s') (h' : Stuck s') : Stuck s := by
  obtain ⟨n, hrun, -⟩ := h
  intro fuel ts hok
  have hmore := run_mono hok n
  rw [hrun] at hmore
  exact h' fuel ts hmore

/-- To go on without a condition. -/
theorem Reaches.steps (h : Reaches s s') : Steps True s s' := ⟨fun _ => h, fun hn => (hn trivial).elim⟩

theorem Steps.trans {p q : Prop} (h : Steps p s s') (h' : Steps q s' s'') : Steps (p ∧ q) s s'' where
  reaches hpq := (h.reaches hpq.1).trans (h'.reaches hpq.2)
  stuck hnot := by
    by_cases hp : p
    · exact (h.reaches hp).stuck (h'.stuck fun hq => hnot ⟨hp, hq⟩)
    · exact h.stuck hp

/-- The condition may be put in other words. -/
theorem Steps.congr {p q : Prop} (h : Steps p s s') (hpq : p ↔ q) : Steps q s s' := by
  rwa [← propext hpq]

/-! ## Closing blocks -/

/-- Nothing is closed where the innermost block is not deeper. -/
theorem close_of_le {column indent : Int} (h : indent ≤ column) (ts : List Token)
    (outer : List Int) : closeBlocks.close column ts indent outer = (ts, indent, outer) := by
  cases outer with
  | nil => rfl
  | cons i outer =>
    rw [closeBlocks.close, if_neg (by omega)]

/-- A deeper block is closed. -/
theorem close_of_lt {column indent : Int} (h : column < indent) (ts : List Token) (i : Int)
    (outer : List Int) :
    closeBlocks.close column ts indent (i :: outer) =
      closeBlocks.close column (.blockEnd :: ts) i outer := by
  rw [closeBlocks.close, if_pos h]

/-- **Blocks may be closed in two goes.** -/
theorem close_close {column column' : Int} (h : column' ≤ column) (ts : List Token) (indent : Int)
    (outer : List Int) :
    (fun x : List Token × Int × List Int => closeBlocks.close column' x.1 x.2.1 x.2.2)
        (closeBlocks.close column ts indent outer) =
      closeBlocks.close column' ts indent outer := by
  induction outer generalizing ts indent with
  | nil => rfl
  | cons i outer ih =>
    by_cases hlt : column < indent
    · rw [close_of_lt hlt, close_of_lt (by omega : column' < indent)]
      exact ih _ _
    · rw [close_of_le (by omega)]

/-! ## Gaps between tokens -/

/-- **The first character of a token**, or the end of the text: neither white space nor a comment
nor a byte order mark. -/
def IsSolid (rest : List Char) : Prop :=
  ∀ x ∈ rest.head?, isSpacing x = false ∧ x ≠ '#' ∧ x ≠ '\ufeff'

/-- **A line's end, empty lines, and the blanks before a token** at a column. -/
def IsGap (u : List Char) (column : Nat) (rest : List Char) : Prop :=
  IsSolid rest ∧ ∃ n, u = List.replicate n '\n' ++ '\n' :: (List.replicate column ' ' ++ rest)

/-- **A scanner before a token**: only white space stands between the cursor and the text `rest` at
a column, where a simple key may start. Up to blocks that end there, the tokens and the columns of
the open blocks are the given ones. -/
structure Ready (s : Scanner) (ts : List Token) (indent : Int) (outer : List Int) (column : Nat)
    (rest : List Char) : Prop where
  skip : ∃ c, skipToToken false (s.cursor.rest.length + 1) s.keyAllowed s.cursor = (true, c) ∧
    c.rest = rest ∧ c.column = column
  close : closeBlocks.close column s.tokens s.indent s.outerIndents =
    closeBlocks.close column ts indent outer
  key : s.key = none
  outerKeys : s.outerKeys = []
  length : rest.length ≤ s.cursor.rest.length

/-! ## Skipping gaps -/

/-- Skipping characters of a kind moves behind them, if no more of the kind follow. -/
theorem skipWhile_eq_advance {p : Char → Bool} {c : Cursor} {xs rest : List Char}
    (h : c.rest = xs ++ rest) (hxs : ∀ x ∈ xs, p x = true) (hrest : ∀ x ∈ rest.head?, p x = false) :
    c.skipWhile p = c.advance xs.length := by
  have htake : (xs ++ rest).takeWhile p = xs := by
    rw [List.takeWhile_append_of_pos hxs]
    cases rest with
    | nil => simp
    | cons x rest => simp [hrest x rfl]
  have hdrop : (xs ++ rest).dropWhile p = (xs ++ rest).drop xs.length := by
    rw [List.dropWhile_append_of_pos hxs, List.drop_left]
    cases rest with
    | nil => rfl
    | cons x rest => simp [hrest x rfl]
  unfold Cursor.skipWhile Cursor.advance
  rw [h, htake, hdrop]

/-- The text behind an advance. -/
theorem rest_advance {c : Cursor} {xs rest : List Char} (h : c.rest = xs ++ rest) :
    (c.advance xs.length).rest = rest := by
  rw [Cursor.advance_rest, h, List.drop_left]

/-- The text behind some blanks, or any character that is repeated. -/
theorem rest_advance_replicate {c : Cursor} {n : Nat} {x : Char} {rest : List Char}
    (h : c.rest = List.replicate n x ++ rest) : (c.advance n).rest = rest := by
  have hrest := rest_advance h
  rwa [List.length_replicate] at hrest

/-- Two moves in one line are one. -/
@[simp] theorem advance_advance (c : Cursor) (m n : Nat) :
    (c.advance m).advance n = c.advance (m + n) := by
  simp only [Cursor.advance, List.drop_drop, Nat.add_assoc]

/-- A token may not start with a blank. -/
theorem IsSolid.not_blank {rest : List Char} (h : IsSolid rest) :
    ∀ x ∈ rest.head?, isBlank x = false := by
  intro x hx
  have hspacing := (h x hx).1
  rw [isSpacing, Bool.or_eq_false_iff] at hspacing
  exact hspacing.1

/-- A token may not start with a line break. -/
theorem IsSolid.not_break {rest : List Char} (h : IsSolid rest) :
    ∀ x ∈ rest.head?, isBreak x = false := by
  intro x hx
  have hspacing := (h x hx).1
  rw [isSpacing, Bool.or_eq_false_iff] at hspacing
  exact hspacing.2

/-- **Blanks before a token are skipped.** -/
theorem skipToToken_blanks {c : Cursor} {n : Nat} {rest : List Char}
    (h : c.rest = List.replicate n ' ' ++ rest) (hsolid : IsSolid rest) (fuel : Nat)
    (allowed : Bool) : skipToToken false (fuel + 1) allowed c = (allowed, c.advance n) := by
  -- A token starts with no byte order mark, so none is skipped.
  have hmark : (c.column == 0 && c.at? '\ufeff') = false := by
    have hhead : c.rest.head? ≠ some '\ufeff' := by
      rw [h]
      cases n with
      | zero =>
        intro heq
        exact (hsolid _ heq).2.2 rfl
      | succ n => simp [List.replicate_succ]
    simp [Cursor.at?, hhead]
  have hskip : (c.skipWhile fun x => x == ' ' || (x == '\t' && (false || !allowed))) =
      c.advance n := by
    have := skipWhile_eq_advance (p := fun x => x == ' ' || (x == '\t' && (false || !allowed))) h
      (fun x hx => by simp [List.eq_of_mem_replicate hx]) (fun x hx => by
        have hblank := hsolid.not_blank x hx
        simp only [isBlank, Bool.or_eq_false_iff] at hblank
        simp [hblank.1, hblank.2])
    rwa [List.length_replicate] at this
  have hrest : (c.advance n).rest = rest := rest_advance_replicate h
  have hcomment : (c.advance n).at? '#' = false := by
    simp only [Cursor.at?, hrest, beq_eq_false_iff_ne]
    intro heq
    exact (hsolid _ heq).2.1 rfl
  have hbreak : (c.advance n).atBreak = false := by
    unfold Cursor.atBreak
    rw [hrest]
    cases rest with
    | nil => rfl
    | cons x rest => exact hsolid.not_break x rfl
  rw [skipToToken]
  simp only [hmark, hskip, hcomment, hbreak, Bool.false_eq_true, if_false]

/-- An empty line is skipped, and allows a simple key behind it. -/
theorem skipToToken_break {c : Cursor} {rest : List Char} (h : c.rest = '\n' :: rest) (fuel : Nat)
    (allowed : Bool) :
    skipToToken false (fuel + 1) allowed c = skipToToken false fuel true c.skipBreak := by
  have hmark : (c.column == 0 && c.at? '\ufeff') = false := by simp [Cursor.at?, h]
  have hskip : (c.skipWhile fun x => x == ' ' || (x == '\t' && (false || !allowed))) = c := by
    unfold Cursor.skipWhile
    simp [h]
    rw [← h]
  have hcomment : c.at? '#' = false := by simp [Cursor.at?, h]
  have hbreak : c.atBreak = true := by simp [Cursor.atBreak, h, isBreak]
  rw [skipToToken]
  simp only [hmark, hskip, hcomment, hbreak, Bool.false_eq_true, if_false, if_true, Bool.not_false,
    Bool.or_true]

/-- **A gap is skipped**, and a simple key may start behind it. -/
theorem skipToToken_gap {u rest : List Char} {column : Nat} (hgap : IsGap u column rest)
    {c : Cursor} (h : c.rest = u) {fuel : Nat} (hfuel : u.length < fuel) (allowed : Bool) :
    ∃ c', skipToToken false fuel allowed c = (true, c') ∧ c'.rest = rest ∧ c'.column = column := by
  obtain ⟨hsolid, n, rfl⟩ := hgap
  induction n generalizing c fuel allowed with
  | zero =>
    obtain ⟨fuel, rfl⟩ : ∃ k, fuel = k + 1 + 1 := by
      simp at hfuel
      exact ⟨fuel - 2, by omega⟩
    have hnext : c.skipBreak.rest = List.replicate column ' ' ++ rest := by
      simp [Cursor.skipBreak, h, breakWidth, isBreak]
    rw [skipToToken_break h, skipToToken_blanks hnext hsolid]
    have hlen := rest_advance_replicate hnext
    exact ⟨_, rfl, hlen, Nat.zero_add _⟩
  | succ n ih =>
    obtain ⟨fuel, rfl⟩ : ∃ k, fuel = k + 1 := ⟨fuel - 1, by omega⟩
    have hnext : c.skipBreak.rest =
        List.replicate n '\n' ++ '\n' :: (List.replicate column ' ' ++ rest) := by
      simp [Cursor.skipBreak, h, List.replicate_succ, breakWidth, isBreak]
    have hhead : c.rest = '\n' :: c.skipBreak.rest := by
      rw [hnext, h, List.replicate_succ, List.cons_append]
    rw [skipToToken_break hhead]
    exact ih true hnext (by simp [List.replicate_succ] at hfuel ⊢; omega)

/-- A scanner at a gap is ready for the token behind it. -/
theorem ready_of_gap {s : Scanner} {column : Nat} {rest : List Char}
    (hgap : IsGap s.cursor.rest column rest) (hkey : s.key = none) (houter : s.outerKeys = []) :
    Ready s s.tokens s.indent s.outerIndents column rest where
  skip := skipToToken_gap hgap rfl (Nat.lt_succ_self _) _
  close := rfl
  key := hkey
  outerKeys := houter
  length := by
    obtain ⟨-, n, h⟩ := hgap
    rw [h]
    simp
    omega

/-- A scanner at a token is ready for it. -/
theorem ready_of_solid {s : Scanner} (hsolid : IsSolid s.cursor.rest) (hallowed : s.keyAllowed = true)
    (hkey : s.key = none) (houter : s.outerKeys = []) :
    Ready s s.tokens s.indent s.outerIndents s.cursor.column s.cursor.rest where
  skip := by
    have hrest : s.cursor.rest = List.replicate 0 ' ' ++ s.cursor.rest := rfl
    rw [hallowed, skipToToken_blanks hrest hsolid]
    exact ⟨_, rfl, rfl, rfl⟩
  close := rfl
  key := hkey
  outerKeys := houter
  length := Nat.le_refl _

/-- Without possible simple keys none grows stale. -/
theorem dropStaleKeys_of_none {s : Scanner} (hkey : s.key = none) (houter : s.outerKeys = []) :
    s.dropStaleKeys = .ok s := by
  obtain ⟨c, ts, indent, outer, key, outerKeys, allowed⟩ := s
  obtain rfl : key = none := hkey
  obtain rfl : outerKeys = [] := houter
  rfl

/-- Closing blocks outside of flow collections. -/
theorem closeBlocks_eq {s : Scanner} (houter : s.outerKeys = []) (column : Int) :
    s.closeBlocks column =
      { s with
        tokens := (closeBlocks.close column s.tokens s.indent s.outerIndents).1
        indent := (closeBlocks.close column s.tokens s.indent s.outerIndents).2.1
        outerIndents := (closeBlocks.close column s.tokens s.indent s.outerIndents).2.2 } := by
  have hflow : s.inFlow = false := by simp [inFlow, houter]
  unfold closeBlocks
  rw [hflow]
  rfl

/-- **What a scanner without possible simple keys does next**: it skips the gap, closes blocks, and
reads a token or ends. -/
theorem next_eq {s : Scanner} {allowed : Bool} {c : Cursor} {ts : List Token} {indent : Int}
    {outer : List Int} (hkey : s.key = none) (houter : s.outerKeys = [])
    (hskip : skipToToken false (s.cursor.rest.length + 1) s.keyAllowed s.cursor = (allowed, c))
    (hclose : closeBlocks.close c.column s.tokens s.indent s.outerIndents = (ts, indent, outer)) :
    s.next =
      if c.rest.isEmpty then
        .ok (true, closeBlocks ⟨c, ts, indent, outer, none, [], allowed⟩ (-1))
      else (readToken ⟨c, ts, indent, outer, none, [], allowed⟩).map (false, ·) := by
  obtain ⟨c₀, ts₀, indent₀, outer₀, key, outerKeys, allowed₀⟩ := s
  obtain rfl : key = none := hkey
  obtain rfl : outerKeys = [] := houter
  have hstate : closeBlocks ⟨c, ts₀, indent₀, outer₀, none, [], allowed⟩ c.column =
      ⟨c, ts, indent, outer, none, [], allowed⟩ := by
    rw [closeBlocks_eq rfl, hclose]
  unfold next
  rw [show inFlow _ = false from rfl, hskip]
  simp only [dropStaleKeys_of_none, bind, Except.bind, hstate]
  split
  · rw [closeBlocks_eq rfl]
    rfl
  · cases readToken ⟨c, ts, indent, outer, none, [], allowed⟩ <;> rfl

/-- **The next token of a scanner that is ready** is read with the inner blocks closed. -/
theorem next_of_ready {s : Scanner} {ts : List Token} {indent : Int} {outer : List Int}
    {column : Nat} {x : Char} {rest : List Char}
    (h : Ready s ts indent outer column (x :: rest)) (hle : indent ≤ column) :
    ∃ c : Cursor, c.rest = x :: rest ∧ c.column = column ∧
      s.next = (readToken ⟨c, ts, indent, outer, none, [], true⟩).map (false, ·) := by
  obtain ⟨c, hskip, hrest, hcolumn⟩ := h.skip
  have hclose := h.close
  rw [close_of_le hle, ← hcolumn] at hclose
  refine ⟨c, hrest, hcolumn, ?_⟩
  rw [next_eq h.key h.outerKeys hskip hclose, hrest]
  rfl

/-- **The end of the text.** A scanner that is ready for it closes all blocks and ends. -/
theorem run_of_ready {s : Scanner} {ts : List Token} {indent : Int} {outer : List Int}
    {column : Nat} (h : Ready s ts indent outer column []) (fuel : Nat) :
    run (fuel + 1) s = .ok (closeBlocks.close (-1) ts indent outer).1.reverse := by
  obtain ⟨c, hskip, hrest, hcolumn⟩ := h.skip
  obtain ⟨⟨ts', indent', outer'⟩, hclosed⟩ :
    ∃ x, closeBlocks.close c.column s.tokens s.indent s.outerIndents = x := ⟨_, rfl⟩
  have hgoes := close_close (by omega : (-1 : Int) ≤ column) ts indent outer
  rw [← h.close, ← hcolumn, hclosed] at hgoes
  rw [run_succ, next_eq h.key h.outerKeys hskip hclosed, hrest, ← hgoes]
  simp only [List.isEmpty_nil, if_true]
  rw [closeBlocks_eq rfl]

end TemplateShare.Yaml.Scanner
