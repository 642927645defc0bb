import TemplateShare.Proofs.Yaml.Progress

/-! # Plain words

How the scanner reads a text that stands without quotes, as a key and as the value of a key. Nothing is
said here about plain texts with white space in them.

* **`Scanner.IsWordScalar`** — a text that can stand without quotes.
* **`Scanner.plainScalar_key`** — it is read up to the colon behind it.
* **`Scanner.plainScalar_value`** — it is read with the gap behind it. -/

namespace TemplateShare.Yaml.Scanner

/-! ## Plain words -/

/-- The characters that mean something at the start of a token. -/
def indicators : List Char := "-?:,[]\x7b\x7d#&*!|>'\"%@\x60".toList

/-- **A text that can stand without quotes**: no white space, nothing at its start that would mean
something else, and no colon at its end. -/
structure IsWordScalar (w : List Char) : Prop where
  ne_nil : w ≠ []
  spacing : ∀ x ∈ w, isSpacing x = false
  colon : w.getLast? ≠ some ':'
  start : ∀ x r, w = x :: r → x ∉ indicators ∨ (x ∈ ['-', '?', ':'] ∧ r ≠ [])

/-- **What may stand behind a word**: white space, the end of the text, or the colon of a key. -/
def IsWordEnd (rest : List Char) : Prop :=
  endsWord rest = true ∨ ∃ r, rest = ':' :: r ∧ endsWord r = true

/-- A word is read up to its end. -/
theorem plainWord_append {w rest : List Char} (hspacing : ∀ x ∈ w, isSpacing x = false)
    (hcolon : w.getLast? ≠ some ':') (hrest : IsWordEnd rest) :
    plainWord false (w ++ rest) = .ok w := by
  induction w with
  | nil =>
    rw [List.nil_append]
    obtain hends | ⟨r, rfl, hends⟩ := hrest
    · cases rest with
      | nil => rfl
      | cons x r =>
        rw [plainWord, if_pos (by exact hends)]
    · simp [plainWord, hends, isSpacing, isBlank, isBreak]
  | cons x w ih =>
    have hx : isSpacing x = false := hspacing x List.mem_cons_self
    -- A colon in the word is not at its end, so a character of the word follows it.
    have hkey : (x == ':' && endsWord (w ++ rest)) = false := by
      cases w with
      | nil =>
        have hne : x ≠ ':' := fun h => hcolon (by rw [h]; rfl)
        simp [hne]
      | cons y w =>
        have hy : isSpacing y = false := hspacing y (by simp)
        simp [endsWord, hy]
    have htail : w.getLast? ≠ some ':' := by
      cases w with
      | nil => simp
      | cons y w => rwa [List.getLast?_cons_cons] at hcolon
    have hrest' := ih (fun y hy => hspacing y (List.mem_cons_of_mem x hy)) htail
    rw [List.cons_append, plainWord, hx, hkey, hrest']
    rfl

/-- No document starts or ends where a word starts, off the margin or with a letter. -/
theorem atDocumentIndicator_eq_false {c : Cursor} {x : Char} {r : List Char} (h : c.rest = x :: r)
    (hx : c.column ≠ 0 ∨ (x ≠ '-' ∧ x ≠ '.')) : c.atDocumentIndicator = false := by
  unfold Cursor.atDocumentIndicator
  obtain hcolumn | ⟨hdash, hdot⟩ := hx
  · simp [hcolumn]
  · rw [h]
    split
    · next heq => exact absurd (List.cons.inj heq).1 hdash
    · next heq => exact absurd (List.cons.inj heq).1 hdot
    · simp

/-- Where no white space stands, none is read. -/
theorem readGap_of_not_spacing {c : Cursor} (h : ∀ x ∈ c.rest.head?, isSpacing x = false)
    (floor : Option Nat) (fuel : Nat) (g : Gap) : readGap floor fuel g c = .ok (g, c) := by
  cases fuel with
  | zero => rfl
  | succ fuel =>
    rw [readGap]
    cases hrest : c.rest with
    | nil => rfl
    | cons x r =>
      have hx := h x (by rw [hrest]; rfl)
      rw [isSpacing, Bool.or_eq_false_iff] at hx
      simp [hx.1, hx.2]

/-- A word is read with the white space behind it, and then whatever goes on in a deeper line. -/
theorem plainScalar_word {w rest : List Char} (hw : IsWordScalar w) (hend : IsWordEnd rest)
    {c : Cursor} (h : c.rest = w ++ rest) (hc : c.column ≠ 0 ∨ ∀ x ∈ w, x ≠ '-' ∧ x ≠ '.')
    {floor : Nat} {g : Gap} {d : Cursor}
    (hgap : readGap (some floor) rest.length {} (c.advance w.length) = .ok (g, d)) :
    plainScalar false floor c =
      if d.rest.isEmpty || (g.broken && d.column < floor) then .ok (w, d, g.broken)
      else (plainRest false floor c.rest.length g d).map fun x => (w ++ x.1, x.2) := by
  -- The first word is all that there is before the white space.
  have hword : plainWord false c.rest = .ok w := by
    rw [h]
    exact plainWord_append hw.spacing hw.colon hend
  have hrest : (c.advance w.length).rest = rest := rest_advance h
  obtain ⟨x, w', rfl⟩ := List.exists_cons_of_ne_nil hw.ne_nil
  have hindicator : c.atDocumentIndicator = false :=
    atDocumentIndicator_eq_false h (hc.imp_right fun hx => hx x List.mem_cons_self)
  have hcomment : c.at? '#' = false := by
    have hx : x ≠ '#' := by
      rintro rfl
      obtain hnot | ⟨hin, -⟩ := hw.start '#' w' rfl
      · exact hnot (by decide)
      · exact absurd hin (by decide)
    simp [Cursor.at?, h, hx]
  rw [plainScalar, plainRest, hindicator, hcomment, hword]
  simp only [bind, Except.bind, Bool.or_self, Bool.false_eq_true, if_false, List.isEmpty_cons,
    hrest, hgap]
  simp only [Bool.not_false, Bool.true_and]
  split
  · rfl
  · cases plainRest false floor c.rest.length g d <;> rfl

/-- **A word in front of a colon** is read as a plain scalar. -/
theorem plainScalar_key {w r : List Char} (hw : IsWordScalar w) (hr : endsWord r = true)
    {c : Cursor} (h : c.rest = w ++ ':' :: r) (hc : c.column ≠ 0 ∨ ∀ x ∈ w, x ≠ '-' ∧ x ≠ '.')
    (floor : Nat) : plainScalar false floor c = .ok (w, c.advance w.length, false) := by
  have hrest : (c.advance w.length).rest = ':' :: r := rest_advance h
  have hgap : readGap (some floor) (':' :: r).length {} (c.advance w.length) =
      .ok ({}, c.advance w.length) := by
    refine readGap_of_not_spacing (fun x hx => ?_) _ _ _
    rw [hrest] at hx
    obtain rfl : ':' = x := Option.some.inj hx
    decide
  -- The colon ends the word, and there is no white space before it.
  have hcolon : plainRest false floor c.rest.length {} (c.advance w.length) =
      .ok ([], c.advance w.length, false) := by
    have hword : plainWord false (':' :: r) = .ok [] := by
      simp [plainWord, hr, isSpacing, isBlank, isBreak]
    obtain ⟨fuel, hfuel⟩ : ∃ fuel, c.rest.length = fuel + 1 := by
      rw [h]
      exact ⟨w.length + r.length, by simp; omega⟩
    rw [hfuel, plainRest, atDocumentIndicator_eq_false hrest (.inr (by decide)), hrest, hword]
    have hcomment : (c.advance w.length).at? '#' = false := by
      rw [Cursor.at?, hrest]
      rfl
    rw [hcomment]
    rfl
  rw [plainScalar_word hw (.inr ⟨r, rfl, hr⟩) h hc hgap, hrest, hcolon]
  simp [Except.map]

/-- White space behind a line break is skipped up to the next token. -/
theorem readGap_blanks {c : Cursor} {n : Nat} {rest : List Char}
    (h : c.rest = List.replicate n ' ' ++ rest) (hsolid : IsSolid rest) {fuel : Nat}
    (hfuel : n ≤ fuel) (floor : Option Nat) {g : Gap} (hg : g.broken = true) :
    readGap floor fuel g c = .ok (g, c.advance n) := by
  induction n generalizing c fuel with
  | zero =>
    have hstop := readGap_of_not_spacing (c := c) (fun x hx => (hsolid x (by rwa [h] at hx)).1)
      floor fuel g
    rw [hstop]
    rfl
  | succ n ih =>
    obtain ⟨fuel, rfl⟩ : ∃ k, fuel = k + 1 := ⟨fuel - 1, by omega⟩
    have hhead : c.rest = ' ' :: (List.replicate n ' ' ++ rest) := by
      rw [h, List.replicate_succ, List.cons_append]
    have hnext : (c.advance 1).rest = List.replicate n ' ' ++ rest := by
      rw [Cursor.advance_rest, hhead]
      rfl
    have hmore := ih hnext (Nat.le_of_succ_le_succ hfuel)
    rw [readGap, hhead]
    simp only [hg, show isBlank ' ' = true from rfl, show ((' ' : Char) == '\t') = false from rfl,
      Bool.and_false, Bool.false_eq_true, if_false, if_true]
    rw [hmore]
    rw [advance_advance, Nat.add_comm]

/-- **A gap is read as white space** with a line break in it. -/
theorem readGap_gap {u rest : List Char} {column : Nat} (hgap : IsGap u column rest) {c : Cursor}
    (h : c.rest = u) (floor : Option Nat) (g : Gap) :
    ∃ g' d, readGap floor u.length g c = .ok (g', d) ∧ g'.broken = true ∧ d.rest = rest ∧
      d.column = column := by
  obtain ⟨hsolid, n, rfl⟩ := hgap
  -- Each break is taken by itself; the last one is followed by the blanks of the next line.
  induction n generalizing c g with
  | zero =>
    have hnext : c.skipBreak.rest = List.replicate column ' ' ++ rest := by
      simp [Cursor.skipBreak, h, breakWidth, isBreak]
    have hrest := rest_advance_replicate hnext
    have hblanks {g' : Gap} (hg : g'.broken = true) :
        readGap floor (List.replicate column ' ' ++ rest).length g' c.skipBreak =
          .ok (g', c.skipBreak.advance column) :=
      readGap_blanks hnext hsolid (by simp) floor hg
    have hlen : (List.replicate 0 '\n' ++ '\n' :: (List.replicate column ' ' ++ rest)).length =
        (List.replicate column ' ' ++ rest).length + 1 := by simp
    rw [hlen, readGap, h]
    simp only [List.replicate_zero, List.nil_append, show isBlank '\n' = false from rfl,
      show isBreak '\n' = true from rfl, Bool.false_eq_true, if_false, if_true]
    cases hb : g.broken with
    | true =>
      simp only [if_true]
      rw [hblanks rfl]
      exact ⟨_, _, rfl, rfl, hrest, Nat.zero_add _⟩
    | false =>
      simp only [Bool.false_eq_true, if_false]
      rw [hblanks rfl]
      exact ⟨_, _, rfl, rfl, hrest, Nat.zero_add _⟩
  | succ n ih =>
    have hhead : c.rest =
        '\n' :: (List.replicate n '\n' ++ '\n' :: (List.replicate column ' ' ++ rest)) := by
      rw [h, List.replicate_succ, List.cons_append]
    have hnext : c.skipBreak.rest =
        List.replicate n '\n' ++ '\n' :: (List.replicate column ' ' ++ rest) := by
      simp [Cursor.skipBreak, hhead, breakWidth, isBreak]
    have hlen : (List.replicate (n + 1) '\n' ++ '\n' :: (List.replicate column ' ' ++ rest)).length =
        (List.replicate n '\n' ++ '\n' :: (List.replicate column ' ' ++ rest)).length + 1 := by
      simp
      omega
    rw [hlen, readGap, hhead]
    simp only [show isBlank '\n' = false from rfl, show isBreak '\n' = true from rfl,
      Bool.false_eq_true, if_false, if_true]
    split
    · exact ih _ hnext
    · exact ih _ hnext

/-- **A word at the end of its line** is read as a plain scalar, together with the gap behind it,
if the next token is not in a deeper line. -/
theorem plainScalar_value {w u rest : List Char} {column : Nat} (hw : IsWordScalar w)
    (hgap : IsGap u column rest) {c : Cursor} (h : c.rest = w ++ u) (hc : c.column ≠ 0) {floor : Nat}
    (hfloor : column < floor) :
    ∃ d, plainScalar false floor c = .ok (w, d, true) ∧ d.rest = rest ∧ d.column = column := by
  obtain ⟨g, d, hread, hbroken, hrest, hcolumn⟩ :=
    readGap_gap hgap (rest_advance h) (some floor) {}
  have hend : IsWordEnd u := by
    obtain ⟨-, n, rfl⟩ := hgap
    refine .inl ?_
    cases n <;> rfl
  refine ⟨d, ?_, hrest, hcolumn⟩
  rw [plainScalar_word hw hend h (.inl hc) hread, hbroken, hcolumn]
  simp [hfloor]

end TemplateShare.Yaml.Scanner
