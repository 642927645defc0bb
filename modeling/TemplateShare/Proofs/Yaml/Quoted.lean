import TemplateShare.Proofs.Yaml.Word

/-! # Scalars in quotes

How a text in single or double quotes is read back, from how each of its characters is written.
Blanks stand as they are; everything else is spelled so that it is no white space.

* **`Scanner.IsSpelled`** — a way to write a character between quotes.
* **`Scanner.quotedScalar_spelled`** — a text whose characters are spelled is read back. -/

namespace TemplateShare

/-! ## Numbers in hexadecimal digits -/

namespace Hex

/-- A digit in upper case has its value. -/
theorem value?_upperDigit {n : Nat} (h : n < 16) : value? (upperDigit n) = some n := by
  have hall : ∀ n < 16, value? (upperDigit n) = some n := by decide
  exact hall n h

/-- A digit more is worth sixteen times as much. -/
theorem number?_append_singleton {s : List Char} {n d : Nat} {c : Char} (hs : number? s = some n)
    (hc : value? c = some d) : number? (s ++ [c]) = some (n * 16 + d) := by
  unfold number? at hs ⊢
  rw [List.foldl_append, hs]
  simp [hc]

/-- **The digits of a number spell it**, if there are enough of them. -/
theorem number?_upper {width n : Nat} (h : n < Nat.pow 16 width) :
    number? (upper width n) = some n := by
  induction width generalizing n with
  | zero =>
    have hzero : n = 0 := by simpa using h
    rw [hzero]
    rfl
  | succ width ih =>
    have hdiv : n / 16 < Nat.pow 16 width := by
      change n < Nat.pow 16 width * 16 at h
      omega
    rw [upper, number?_append_singleton (ih hdiv) (value?_upperDigit (Nat.mod_lt n (by decide)))]
    congr 1
    omega

end Hex

namespace Yaml.Scanner

/-! ## Characters between quotes -/

/-- **A way to write a character between quotes**, so that it is read back. -/
structure IsSpelled (double : Bool) (p : List Char) (x : Char) : Prop where
  head : ∃ y r, p = y :: r ∧ isSpacing y = false
  read : ∀ (fuel : Nat) (c : Cursor) (r : List Char), c.rest = p ++ r →
    quotedRun double (fuel + 1) c =
      (quotedRun double fuel (c.advance p.length)).map fun y => (x :: y.1, y.2)

/-- A character that means nothing between quotes stands for itself. -/
theorem isSpelled_self {double : Bool} {x : Char} (hspacing : isSpacing x = false)
    (hquote : x ≠ if double then '"' else '\'') (hescape : double = true → x ≠ '\\') :
    IsSpelled double [x] x where
  head := ⟨x, [], rfl, hspacing⟩
  read fuel c r h := by
    have hrest : c.rest = x :: r := h
    rw [quotedRun, hrest]
    cases double with
    | true =>
      have hx : x ≠ '"' := hquote
      have hx' : x ≠ '\\' := hescape rfl
      simp only [hspacing, hx, hx', beq_eq_false_iff_ne.2, ne_eq, not_false_eq_true, Bool.not_true,
        Bool.false_and, Bool.and_false, Bool.false_eq_true, if_false]
      cases quotedRun true fuel (c.advance 1) <;> rfl
    | false =>
      have hx : x ≠ '\'' := hquote
      simp only [hspacing, hx, beq_eq_false_iff_ne.2, ne_eq, not_false_eq_true, Bool.false_and,
        Bool.and_false, Bool.false_eq_true, if_false]
      cases quotedRun false fuel (c.advance 1) <;> rfl

/-- A letter behind a backslash stands for its character. -/
theorem isSpelled_letter {x y : Char} (h : escapeLetter? y = some x) (hbreak : isBreak y = false) :
    IsSpelled true ['\\', y] x where
  head := ⟨'\\', [y], rfl, by decide⟩
  read fuel c r hc := by
    have hrest : c.rest = '\\' :: y :: r := hc
    rw [quotedRun, hrest]
    simp only [show isSpacing '\\' = false by decide, show (('\\' : Char) == '"') = false by decide,
      show (('\\' : Char) == '\\') = true by decide, hbreak, h, Bool.not_true, Bool.false_and,
      Bool.true_and, Bool.and_false, Bool.false_eq_true, if_false, if_true]
    cases quotedRun true fuel (c.advance 2) <;> rfl

/-- A character may be written as four hexadecimal digits, if its code has no more. -/
theorem isSpelled_hex {x : Char} (h : x.toNat < 0x10000) :
    IsSpelled true ('\\' :: 'u' :: Hex.upper 4 x.toNat) x where
  head := ⟨'\\', 'u' :: Hex.upper 4 x.toNat, rfl, by decide⟩
  read fuel c r hc := by
    have hrest : c.rest = '\\' :: 'u' :: (Hex.upper 4 x.toNat ++ r) := hc
    have hdigits : (Hex.upper 4 x.toNat ++ r).take 4 = Hex.upper 4 x.toNat :=
      List.take_left' (Hex.length_upper 4 _)
    have hnumber : Hex.number? (Hex.upper 4 x.toNat) = some x.toNat := Hex.number?_upper h
    have hlength : ¬(Hex.upper 4 x.toNat ++ r).length < 4 := by
      rw [List.length_append, Hex.length_upper]
      omega
    have hcode : charOfCode? x.toNat = some x := by
      have hvalid : x.toNat.isValidChar := x.valid
      rw [charOfCode?, if_pos hvalid, Char.ofNat_toNat]
    rw [quotedRun, hrest]
    simp only [show isSpacing '\\' = false by decide, show (('\\' : Char) == '"') = false by decide,
      show (('\\' : Char) == '\\') = true by decide, show isBreak 'u' = false by decide,
      show escapeLetter? 'u' = none by rfl, show escapeWidth? 'u' = some 4 by rfl, hdigits, hlength,
      hnumber, Option.bind_some, hcode, Bool.not_true, Bool.false_and,
      Bool.true_and, Bool.and_false, Bool.false_eq_true, if_false, if_true]
    rw [show ('\\' :: 'u' :: Hex.upper 4 x.toNat).length = 2 + 4 by
      simp only [List.length_cons, Hex.length_upper]]
    cases quotedRun true fuel (c.advance (2 + 4)) <;> rfl

/-! ## Texts between quotes -/

/-- **What ends a run between quotes**: white space or the closing quote. -/
def EndsRun (double : Bool) (rest : List Char) : Prop :=
  ∃ x r, rest = x :: r ∧
    (isSpacing x = true ∨ (double = true ∧ x = '"') ∨
      (double = false ∧ x = '\'' ∧ r.head? ≠ some '\''))

/-- A run ends where it has to. -/
theorem quotedRun_end {double : Bool} {rest : List Char} (h : EndsRun double rest) {c : Cursor}
    (hc : c.rest = rest) (fuel : Nat) : quotedRun double fuel c = .ok ([], false, c) := by
  obtain ⟨x, r, rfl, hx⟩ := h
  cases fuel with
  | zero => rfl
  | succ fuel =>
    rw [quotedRun, hc]
    by_cases hspacing : isSpacing x = true
    · simp [hspacing]
    · obtain hs | ⟨rfl, rfl⟩ | ⟨rfl, rfl, hr⟩ := hx
      · exact absurd hs hspacing
      · simp [show isSpacing '"' = false by decide]
      · simp [show isSpacing '\'' = false by decide, hr]

/-- **A run of spelled characters is read back.** -/
theorem quotedRun_spelled {double : Bool} {enc : Char → List Char} {s rest : List Char}
    (hs : ∀ x ∈ s, IsSpelled double (enc x) x) (hrest : EndsRun double rest) {c : Cursor}
    (hc : c.rest = s.flatMap enc ++ rest) {fuel : Nat} (hfuel : s.length ≤ fuel) :
    quotedRun double fuel c = .ok (s, false, c.advance (s.flatMap enc).length) := by
  induction s generalizing c fuel with
  | nil => exact quotedRun_end hrest hc fuel
  | cons x s ih =>
    obtain ⟨fuel, rfl⟩ : ∃ k, fuel = k + 1 := ⟨fuel - 1, by simp at hfuel; omega⟩
    have hhead : c.rest = enc x ++ (s.flatMap enc ++ rest) := by
      rw [hc, List.flatMap_cons, List.append_assoc]
    have hmore := ih (fun y hy => hs y (List.mem_cons_of_mem x hy)) (rest_advance hhead)
      (Nat.le_of_succ_le_succ hfuel)
    rw [(hs x List.mem_cons_self).read fuel c _ hhead, hmore, List.flatMap_cons,
      List.length_append, advance_advance]
    rfl

/-- Blanks between words are read as they are. -/
theorem readGap_inner {n : Nat} {rest : List Char} (hrest : ∀ x ∈ rest.head?, isSpacing x = false)
    {c : Cursor} (hc : c.rest = List.replicate n ' ' ++ rest) {fuel : Nat} (hfuel : n ≤ fuel)
    (blanks : List Char) :
    readGap none fuel { blanks } c =
      .ok ({ blanks := blanks ++ List.replicate n ' ' }, c.advance n) := by
  induction n generalizing c fuel blanks with
  | zero =>
    have hstop := readGap_of_not_spacing (c := c) (fun x hx => hrest x (by rwa [hc] at hx))
      none fuel { blanks }
    rw [hstop, List.replicate_zero, List.append_nil]
    rfl
  | succ n ih =>
    obtain ⟨fuel, rfl⟩ : ∃ k, fuel = k + 1 := ⟨fuel - 1, by omega⟩
    have hhead : c.rest = ' ' :: (List.replicate n ' ' ++ rest) := by
      rw [hc, List.replicate_succ, List.cons_append]
    have hnext : (c.advance 1).rest = List.replicate n ' ' ++ rest := by
      rw [Cursor.advance_rest, hhead]
      rfl
    have hmore := ih hnext (Nat.le_of_succ_le_succ hfuel) (blanks ++ [' '])
    rw [readGap, hhead]
    simp only [show isBlank ' ' = true by decide, Bool.false_and, Bool.false_eq_true, if_false,
      if_true]
    rw [hmore, advance_advance, Nat.add_comm, List.replicate_succ, List.append_assoc]
    rfl

/-- A text is a part without blanks, some blanks, and a part that starts without one. -/
theorem exists_words (s : List Char) :
    ∃ a n b, s = a ++ (List.replicate n ' ' ++ b) ∧ (∀ x ∈ a, x ≠ ' ') ∧
      (∀ x ∈ b.head?, x ≠ ' ') ∧ (n = 0 → b = []) := by
  induction s with
  | nil => exact ⟨[], 0, [], rfl, by simp, by simp, fun _ => rfl⟩
  | cons x s ih =>
    obtain ⟨a, n, b, rfl, ha, hb, hn⟩ := ih
    by_cases hx : x = ' '
    · subst hx
      cases a with
      | nil =>
        refine ⟨[], n + 1, b, by simp [List.replicate_succ], by simp, hb, by simp⟩
      | cons y a =>
        refine ⟨[], 1, y :: a ++ (List.replicate n ' ' ++ b), rfl, by simp, ?_, by simp⟩
        intro z hz
        obtain rfl : y = z := Option.some.inj hz
        exact ha y List.mem_cons_self
    · refine ⟨x :: a, n, b, by simp, ?_, hb, hn⟩
      intro y hy
      obtain rfl | hy := List.mem_cons.1 hy
      · exact hx
      · exact ha y hy

/-- What a spelled character starts with. -/
theorem IsSpelled.not_spacing {double : Bool} {p : List Char} {x : Char}
    (h : IsSpelled double p x) (rest : List Char) :
    ∀ y ∈ (p ++ rest).head?, isSpacing y = false := by
  obtain ⟨y, r, rfl, hy⟩ := h.head
  intro z hz
  obtain rfl : y = z := Option.some.inj hz
  exact hy

/-- Spelled characters take at least as much room as they are. -/
theorem length_le_of_spelled {double : Bool} {enc : Char → List Char} {s : List Char}
    (hs : ∀ x ∈ s, IsSpelled double (enc x) x) : s.length ≤ (s.flatMap enc).length := by
  induction s with
  | nil => exact Nat.le_refl _
  | cons x s ih =>
    obtain ⟨y, r, hx, -⟩ := (hs x List.mem_cons_self).head
    have hrest := ih fun y hy => hs y (List.mem_cons_of_mem x hy)
    rw [List.flatMap_cons, hx]
    simp only [List.length_cons, List.length_append]
    omega

/-- A run ends at blanks, and at the closing quote if there are none. -/
theorem endsRun_blanks {double : Bool} {n : Nat} {t r : List Char} (ht : n = 0 → t = [])
    (hr : double = false → r.head? ≠ some '\'') :
    EndsRun double (List.replicate n ' ' ++ (t ++ (if double then '"' else '\'') :: r)) := by
  cases n with
  | zero =>
    rw [ht rfl]
    refine ⟨_, _, rfl, .inr ?_⟩
    cases double with
    | true => exact .inl ⟨rfl, rfl⟩
    | false => exact .inr ⟨rfl, rfl, hr rfl⟩
  | succ n => exact ⟨' ', _, rfl, .inl (by decide)⟩

/-- Neither the closing quote nor a spelled character before it is white space. -/
theorem head?_spelled {double : Bool} {enc : Char → List Char} {s : List Char} (r : List Char)
    (hs : ∀ x ∈ s, x ≠ ' ' → IsSpelled double (enc x) x) (hhead : ∀ x ∈ s.head?, x ≠ ' ') :
    ∀ x ∈ (s.flatMap enc ++ (if double then '"' else '\'') :: r).head?, isSpacing x = false := by
  cases s with
  | nil =>
    intro x hx
    obtain rfl : (if double then '"' else '\'') = x := Option.some.inj hx
    cases double <;> decide
  | cons y s =>
    rw [List.flatMap_cons, List.append_assoc]
    exact (hs y List.mem_cons_self (hhead y rfl)).not_spacing _

/-- Between quotes there is something to read. -/
theorem not_atEnd_quoted {c : Cursor} {t r : List Char} {q : Char} (hcolumn : c.column ≠ 0)
    (hc : c.rest = t ++ q :: r) : (c.atDocumentIndicator || c.rest.isEmpty) = false := by
  have hindicator : c.atDocumentIndicator = false := by
    unfold Cursor.atDocumentIndicator
    simp [hcolumn]
  rw [hindicator, Bool.false_or, List.isEmpty_eq_false_iff, hc]
  exact List.append_ne_nil_of_right_ne_nil t (List.cons_ne_nil q r)

variable {double : Bool} {c d : Cursor} {a : List Char} {r : List Char} {fuel : Nat}

/-- A run up to the closing quote is all that is left. -/
theorem quotedRest_closing (hstart : (c.atDocumentIndicator || c.rest.isEmpty) = false)
    (hrun : quotedRun double c.rest.length c = .ok (a, false, d))
    (hd : d.rest = (if double then '"' else '\'') :: r) :
    quotedRest double (fuel + 1) c = .ok (a, d.advance 1) := by
  have hquote : d.at? (if double then '"' else '\'') = true := by
    rw [Cursor.at?, hd]
    exact beq_self_eq_true _
  rw [quotedRest, hstart]
  simp only [Bool.false_eq_true, if_false, hrun, bind, Except.bind, hquote, if_true]

/-- Behind a run and blanks the rest follows. -/
theorem quotedRest_blanks (hstart : (c.atDocumentIndicator || c.rest.isEmpty) = false)
    (hrun : quotedRun double c.rest.length c = .ok (a, false, d)) {n : Nat}
    (hd : d.rest = List.replicate (n + 1) ' ' ++ r) (hr : ∀ x ∈ r.head?, isSpacing x = false) :
    quotedRest double (fuel + 1) c = (quotedRest double fuel (d.advance (n + 1))).map fun y =>
      (a ++ List.replicate (n + 1) ' ' ++ y.1, y.2) := by
  have hquote : d.at? (if double then '"' else '\'') = false := by
    rw [Cursor.at?, hd]
    cases double <;> simp [List.replicate_succ]
  have hroom : n + 1 ≤ d.rest.length := by
    rw [hd]
    simp
  have hgap := readGap_inner hr hd hroom []
  rw [quotedRest, hstart]
  simp only [Bool.false_eq_true, if_false, hrun, bind, Except.bind, hquote, hgap]
  cases quotedRest double fuel (d.advance (n + 1)) <;> simp [Except.map, Gap.text, foldGap]

/-- **A text between quotes is read back**, blanks and spelled characters alike. -/
theorem quotedRest_spelled {enc : Char → List Char} (hr : double = false → r.head? ≠ some '\'')
    {s : List Char} (hblank : enc ' ' = [' ']) (hs : ∀ x ∈ s, x ≠ ' ' → IsSpelled double (enc x) x)
    (hcolumn : c.column ≠ 0)
    (hc : c.rest = s.flatMap enc ++ (if double then '"' else '\'') :: r)
    (hfuel : c.rest.length ≤ fuel) :
    quotedRest double fuel c = .ok (s, c.advance ((s.flatMap enc).length + 1)) := by
  -- The text is cut at its first blanks; what is behind them is shorter.
  induction hlen : s.length using Nat.strongRecOn generalizing s c fuel with
  | _ len ih =>
  obtain ⟨a, n, b, rfl, ha, hb, hn⟩ := exists_words s
  obtain ⟨fuel, rfl⟩ : ∃ k, fuel = k + 1 := by
    rw [hc] at hfuel
    simp at hfuel
    exact ⟨fuel - 1, by omega⟩
  have hblanks : (List.replicate n ' ').flatMap enc = List.replicate n ' ' := by
    rw [List.flatMap_replicate, hblank]
    simp
  have hspelled : ∀ x ∈ a, IsSpelled double (enc x) x :=
    fun x hx => hs x (List.mem_append_left _ hx) (ha x hx)
  have hsplit : c.rest = a.flatMap enc ++
      (List.replicate n ' ' ++ (b.flatMap enc ++ (if double then '"' else '\'') :: r)) := by
    rw [hc, List.flatMap_append, List.flatMap_append, hblanks]
    simp only [List.append_assoc]
  have hnil : n = 0 → b.flatMap enc = [] := fun h => by rw [hn h, List.flatMap_nil]
  have hroom : a.length ≤ c.rest.length := by
    have hle := length_le_of_spelled hspelled
    rw [hsplit, List.length_append]
    omega
  have hstart := not_atEnd_quoted hcolumn hc
  have hrun := quotedRun_spelled hspelled (endsRun_blanks hnil hr) hsplit hroom
  have hrest := rest_advance hsplit
  -- Without blanks the closing quote follows the run.
  cases n with
  | zero =>
    obtain rfl : b = [] := hn rfl
    rw [quotedRest_closing hstart hrun hrest, advance_advance]
    simp
  | succ n =>
    have hbmem : ∀ x ∈ b, x ≠ ' ' → IsSpelled double (enc x) x := fun x hx =>
      hs x (List.mem_append_right _ (List.mem_append_right _ hx))
    have hmore := rest_advance hrest
    rw [List.length_replicate, advance_advance] at hmore
    have hshorter : b.length < len := by
      rw [← hlen]
      simp
      omega
    have hfuel' : (c.advance ((a.flatMap enc).length + (n + 1))).rest.length ≤ fuel := by
      rw [hmore]
      rw [hsplit] at hfuel
      simp at hfuel ⊢
      omega
    have hcolumn' : (c.advance ((a.flatMap enc).length + (n + 1))).column ≠ 0 := by
      simp [Cursor.advance]
    have hnext := ih b.length hshorter hbmem hcolumn' hmore hfuel' rfl
    rw [quotedRest_blanks hstart hrun hrest (head?_spelled r hbmem hb), advance_advance, hnext]
    rw [List.flatMap_append, List.flatMap_append, hblanks]
    simp [Except.map, advance_advance, Nat.add_assoc]

/-- **A scalar in quotes is read back**, up to behind its closing quote. -/
theorem quotedScalar_spelled {double : Bool} {enc : Char → List Char} {r : List Char}
    (hr : double = false → r.head? ≠ some '\'') {s : List Char}
    (hblank : enc ' ' = [' ']) (hs : ∀ x ∈ s, x ≠ ' ' → IsSpelled double (enc x) x) {c : Cursor}
    (hc : c.rest = (if double then '"' else '\'') ::
      (s.flatMap enc ++ (if double then '"' else '\'') :: r)) :
    quotedScalar double c = .ok (s, c.advance ((s.flatMap enc).length + 2)) := by
  have hrest : (c.advance 1).rest = s.flatMap enc ++ (if double then '"' else '\'') :: r := by
    rw [Cursor.advance_rest, hc]
    rfl
  have hcolumn : (c.advance 1).column ≠ 0 := Nat.succ_ne_zero _
  have hfuel : (c.advance 1).rest.length ≤ c.rest.length := by
    rw [Cursor.advance_rest, List.length_drop]
    omega
  rw [quotedScalar, quotedRest_spelled hr hblank hs hcolumn hrest hfuel, advance_advance]
  rw [show 1 + ((s.flatMap enc).length + 1) = (s.flatMap enc).length + 2 by omega]

end Yaml.Scanner

end TemplateShare
