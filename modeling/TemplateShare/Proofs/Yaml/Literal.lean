import TemplateShare.Proofs.Yaml.Progress

/-! # Literal blocks

How a block of lines is read back whose indentation is stated in its header. The lines are indented
by that much, empty lines among them too; empty lines behind the block do not belong to it.

* **`Scanner.hanging`**, **`Scanner.joined`** — the lines as they stand, and the text they make up.
* **`Scanner.blockScalar_literal`** — a literal block is read as its lines, with a line feed. -/

namespace TemplateShare.Yaml.Scanner

/-! ## Lines -/

/-- Lines as they stand in a block, each with the break in front of it. -/
def hanging (indent : Nat) (lines : List (List Char)) : List Char :=
  lines.flatMap fun l => '\n' :: (List.replicate indent ' ' ++ l)

/-- Lines with a line feed in front of each. -/
def broken (lines : List (List Char)) : List Char := lines.flatMap ('\n' :: ·)

/-- **The text of lines**, with line feeds between them. -/
def joined : List (List Char) → List Char
  | [] => []
  | l :: ls => l ++ broken ls

/-- **The lines of a block**: without breaks in them, and the last one is not empty. -/
structure AreLines (lines : List (List Char)) : Prop where
  line : ∀ l ∈ lines, ∀ x ∈ l, isBreak x = false
  last : ∃ l, lines.getLast? = some l ∧ l ≠ []

/-- The lines behind the first one. -/
theorem AreLines.tail {l l' : List Char} {ls : List (List Char)} (h : AreLines (l :: l' :: ls)) :
    AreLines (l' :: ls) where
  line x hx := h.line x (List.mem_cons_of_mem l hx)
  last := by
    obtain ⟨x, hx, hne⟩ := h.last
    exact ⟨x, by rwa [List.getLast?_cons_cons] at hx, hne⟩

/-- A character may change places with copies of itself. -/
theorem replicate_append_cons {α : Type} (n : Nat) (x : α) (s : List α) :
    List.replicate n x ++ x :: s = x :: (List.replicate n x ++ s) := by
  induction n with
  | zero => rfl
  | succ n ih => rw [List.replicate_succ, List.cons_append, ih, List.cons_append]

@[simp] theorem hanging_cons (indent : Nat) (l : List Char) (ls : List (List Char)) :
    hanging indent (l :: ls) = '\n' :: (List.replicate indent ' ' ++ l) ++ hanging indent ls := rfl

@[simp] theorem broken_cons (l : List Char) (ls : List (List Char)) :
    broken (l :: ls) = '\n' :: l ++ broken ls := rfl

/-- Empty lines are line feeds. -/
theorem broken_replicate (n : Nat) (ls : List (List Char)) :
    broken (List.replicate n [] ++ ls) = List.replicate n '\n' ++ broken ls := by
  induction n with
  | zero => rfl
  | succ n ih =>
    rw [List.replicate_succ, List.cons_append, broken_cons, ih, List.replicate_succ]
    rfl

/-- The text of lines that start with empty ones. -/
theorem joined_replicate (n : Nat) (l : List Char) (ls : List (List Char)) :
    joined (List.replicate n [] ++ l :: ls) = List.replicate n '\n' ++ joined (l :: ls) := by
  cases n with
  | zero => rfl
  | succ n =>
    rw [List.replicate_succ, List.cons_append]
    change broken (List.replicate n [] ++ l :: ls) = _
    rw [broken_replicate, broken_cons, List.replicate_succ', List.append_assoc]
    rfl

/-! ## Indentation -/

/-- The indentation of a line, looked for in `wanted` columns. -/
theorem takeWhile_indentation {wanted n : Nat} {rest : List Char} (hle : n ≤ wanted)
    (h : wanted = n ∨ ∀ x ∈ rest.head?, x ≠ ' ') :
    ((List.replicate n ' ' ++ rest).take wanted).takeWhile (· == ' ') = List.replicate n ' ' := by
  induction n generalizing wanted with
  | zero =>
    obtain rfl | hrest := h
    · rfl
    · cases wanted with
      | zero => rfl
      | succ wanted =>
        cases rest with
        | nil => rfl
        | cons x rest => simp [hrest x rfl]
  | succ n ih =>
    obtain ⟨wanted, rfl⟩ : ∃ k, wanted = k + 1 := ⟨wanted - 1, by omega⟩
    have hmore := ih (Nat.le_of_succ_le_succ hle) (h.imp_left fun heq => by omega)
    rw [List.replicate_succ, List.cons_append, List.take_succ_cons,
      List.takeWhile_cons_of_pos (by rfl), hmore]

variable (least : Nat) {n : Nat} {c : Cursor}

/-- What is read of a line's indentation. -/
theorem blockBlankLines_line {m : Nat} {rest : List Char} (hm : m ≤ n)
    (hrest : n = m ∨ ∀ x ∈ rest.head?, x ≠ ' ') (hcolumn : c.column = 0)
    (hc : c.rest = List.replicate m ' ' ++ rest) (htab : m < n → ∀ x ∈ rest.head?, x ≠ '\t')
    (fuel widest : Nat) :
    blockBlankLines least (some n) (fuel + 1) widest c =
      if (c.advance m).atBreak then
        (blockBlankLines least (some n) fuel (max widest m) (c.advance m).skipBreak).map
          fun x => (x.1, breakText rest ++ x.2.1, x.2.2)
      else .ok (n, [], c.advance m) := by
  have htake : ((c.rest.take (n - c.column)).takeWhile (· == ' ')).length = m := by
    rw [hcolumn, hc, Nat.sub_zero, takeWhile_indentation hm hrest, List.length_replicate]
  have hadvance : (c.advance m).rest = rest := rest_advance_replicate hc
  have hcolumn' : (c.advance m).column = m := by
    change c.column + m = m
    omega
  have hinside : (Option.all (fun x => decide ((c.advance m).column < x)) (some n) &&
      (c.advance m).at? '\t') = false := by
    rw [hcolumn', Cursor.at?, hadvance]
    by_cases hlt : m < n
    · have hne : rest.head? ≠ some '\t' := fun h => htab hlt '\t' h rfl
      simp [hne]
    · simp [hlt]
  rw [blockBlankLines]
  simp only [htake, hinside, Bool.false_eq_true, if_false]
  split
  · rw [hcolumn', hadvance]
    cases blockBlankLines least (some n) fuel (max widest m) (c.advance m).skipBreak <;> rfl
  · rfl

/-- An empty line, indented or not, is a line feed. -/
theorem blockBlankLines_empty {m : Nat} {rest : List Char} (hm : m ≤ n) (hcolumn : c.column = 0)
    (hc : c.rest = List.replicate m ' ' ++ '\n' :: rest) (fuel widest : Nat) :
    ∃ d : Cursor, d.rest = rest ∧ d.column = 0 ∧
      blockBlankLines least (some n) (fuel + 1) widest c =
        (blockBlankLines least (some n) fuel (max widest m) d).map
          fun x => (x.1, '\n' :: x.2.1, x.2.2) := by
  have hadvance : (c.advance m).rest = '\n' :: rest := rest_advance_replicate hc
  have hbreak : (c.advance m).atBreak = true := by
    unfold Cursor.atBreak
    rw [hadvance]
    rfl
  refine ⟨(c.advance m).skipBreak, ?_, rfl, ?_⟩
  · simp only [Cursor.skipBreak, hadvance]
    rfl
  · rw [blockBlankLines_line least hm (.inr (by simp)) hcolumn hc (by simp), hbreak, if_pos rfl]
    rfl

/-- A line with text ends the empty lines. -/
theorem blockBlankLines_text {x : Char} {rest : List Char} (hx : isBreak x = false)
    (hcolumn : c.column = 0) (hc : c.rest = List.replicate n ' ' ++ x :: rest)
    (fuel widest : Nat) :
    blockBlankLines least (some n) (fuel + 1) widest c = .ok (n, [], c.advance n) := by
  have hadvance : (c.advance n).rest = x :: rest := rest_advance_replicate hc
  have hbreak : (c.advance n).atBreak = false := by
    unfold Cursor.atBreak
    rw [hadvance]
    exact hx
  rw [blockBlankLines_line least (Nat.le_refl n) (.inl rfl) hcolumn hc
    (fun h => absurd h (Nat.lt_irrefl n)), hbreak]
  rfl

/-- **The empty lines behind a block** end at a token in a smaller column. -/
theorem blockBlankLines_gap {k j : Nat} {rest : List Char} (hk : k < n) (hsolid : IsSolid rest)
    (hcolumn : c.column = 0)
    (hc : c.rest = List.replicate j '\n' ++ (List.replicate k ' ' ++ rest)) {fuel : Nat}
    (hfuel : j < fuel) (widest : Nat) :
    ∃ breaks d, blockBlankLines least (some n) fuel widest c = .ok (n, breaks, d) ∧
      d.rest = rest ∧ d.column = k := by
  obtain ⟨fuel, rfl⟩ : ∃ k, fuel = k + 1 := ⟨fuel - 1, by omega⟩
  -- By induction on the breaks; then only the spaces in front of the token are left.
  induction j generalizing c fuel widest with
  | zero =>
    have hc : c.rest = List.replicate k ' ' ++ rest := hc
    have hadvance : (c.advance k).rest = rest := rest_advance_replicate hc
    have hbreak : (c.advance k).atBreak = false := by
      unfold Cursor.atBreak
      rw [hadvance]
      cases rest with
      | nil => rfl
      | cons x rest => exact hsolid.not_break x rfl
    have hnot (x : Char) (hx : x ∈ rest.head?) : x ≠ ' ' ∧ x ≠ '\t' := by
      have hblank := hsolid.not_blank x hx
      simp only [isBlank, Bool.or_eq_false_iff, beq_eq_false_iff_ne] at hblank
      exact hblank
    refine ⟨[], c.advance k, ?_, hadvance, ?_⟩
    · rw [blockBlankLines_line least (Nat.le_of_lt hk) (.inr fun x hx => (hnot x hx).1) hcolumn hc
        (fun _ x hx => (hnot x hx).2), hbreak]
      rfl
    · change c.column + k = k
      omega
  | succ j ih =>
    obtain ⟨fuel, rfl⟩ : ∃ k, fuel = k + 1 := ⟨fuel - 1, by omega⟩
    have hhead : c.rest = List.replicate 0 ' ' ++
        '\n' :: (List.replicate j '\n' ++ (List.replicate k ' ' ++ rest)) := by
      rw [hc, List.replicate_succ]
      rfl
    obtain ⟨d, hd, hdcolumn, heq⟩ :=
      blockBlankLines_empty least (Nat.zero_le n) hcolumn hhead (fuel + 1) widest
    obtain ⟨breaks, d', hread, hrest, hcolumn'⟩ := ih hdcolumn hd (max widest 0) fuel (by omega)
    exact ⟨'\n' :: breaks, d', by rw [heq, hread]; rfl, hrest, hcolumn'⟩

/-- **The next line with text** is found behind the empty lines. -/
theorem blockBlankLines_lines {l u : List Char} {ls : List (List Char)} (h : AreLines (l :: ls))
    (hcolumn : c.column = 0)
    (hc : c.rest = List.replicate n ' ' ++ (l ++ (hanging n ls ++ u))) {fuel : Nat}
    (hfuel : ls.length < fuel) (widest : Nat) :
    ∃ m l' ls' d, l :: ls = List.replicate m [] ++ l' :: ls' ∧ l' ≠ [] ∧ AreLines (l' :: ls') ∧
      blockBlankLines least (some n) fuel widest c = .ok (n, List.replicate m '\n', d) ∧
      d.rest = l' ++ (hanging n ls' ++ u) ∧ d.column = n := by
  obtain ⟨fuel, rfl⟩ : ∃ k, fuel = k + 1 := ⟨fuel - 1, by omega⟩
  -- By induction on the lines that follow; the last one has text, so the search ends there.
  induction ls generalizing l c fuel widest with
  | nil =>
    obtain ⟨l₀, hl₀, hne⟩ := h.last
    obtain rfl : l = l₀ := Option.some.inj hl₀
    obtain ⟨x, r, rfl⟩ := List.exists_cons_of_ne_nil hne
    have hx := h.line _ List.mem_cons_self x List.mem_cons_self
    have hadvance := rest_advance_replicate hc
    refine ⟨0, x :: r, [], c.advance n, rfl, hne, h,
      blockBlankLines_text least hx hcolumn hc _ _, hadvance, ?_⟩
    change c.column + n = n
    omega
  | cons l₂ ls ih =>
    cases l with
    | cons x r =>
      have hx := h.line _ List.mem_cons_self x List.mem_cons_self
      have hadvance := rest_advance_replicate hc
      refine ⟨0, x :: r, l₂ :: ls, c.advance n, rfl, List.cons_ne_nil _ _, h,
        blockBlankLines_text least hx hcolumn hc _ _, hadvance, ?_⟩
      change c.column + n = n
      omega
    | nil =>
      have hhead : c.rest = List.replicate n ' ' ++
          '\n' :: (List.replicate n ' ' ++ (l₂ ++ (hanging n ls ++ u))) := by
        rw [hc, hanging_cons]
        simp
      obtain ⟨fuel, rfl⟩ : ∃ k, fuel = k + 1 := ⟨fuel - 1, by simp at hfuel; omega⟩
      obtain ⟨d, hd, hdcolumn, heq⟩ :=
        blockBlankLines_empty least (Nat.le_refl n) hcolumn hhead (fuel + 1) widest
      obtain ⟨m, l', ls', d', hls, hne, hlines, hread, hrest, hcolumn'⟩ :=
        ih h.tail hdcolumn hd (max widest n) fuel (by simp at hfuel; omega)
      refine ⟨m + 1, l', ls', d', by rw [hls]; rfl, hne, hlines, ?_, hrest, hcolumn'⟩
      rw [heq, hread]
      rfl

/-! ## Blocks -/

/-- A line of a block ends at the break behind it. -/
theorem takeWhile_line {l rest : List Char} (hl : ∀ x ∈ l, isBreak x = false) {r : List Char}
    (hrest : rest = '\n' :: r) : (l ++ rest).takeWhile (!isBreak ·) = l := by
  rw [List.takeWhile_append_of_pos (fun x hx => by rw [hl x hx]; rfl), hrest]
  simp [show isBreak '\n' = true by rfl]

/-- One line of a block, and the empty lines behind it. -/
theorem blockLines_line {l r : List Char} (hl : l ≠ []) (hline : ∀ x ∈ l, isBreak x = false)
    (hcolumn : c.column = n) (hc : c.rest = l ++ '\n' :: r) :
    ∃ e : Cursor, e.rest = r ∧ e.column = 0 ∧ ∀ (indent : Nat) (blanks : List Char) (d : Cursor),
      blockBlankLines least (some n) (r.length + 1) 0 e = .ok (indent, blanks, d) →
      ∀ (fuel : Nat) (lead : Bool) (first more : List Char),
        blockLines false least n (fuel + 1) lead first more c =
          (blockLines false least n fuel c.atBlank ['\n'] blanks d).map
            fun x => (first ++ more ++ l ++ x.1, x.2) := by
  have htake : c.rest.takeWhile (!isBreak ·) = l := by rw [hc, takeWhile_line hline rfl]
  have hskip : c.skipWhile (!isBreak ·) = c.advance l.length := by
    refine skipWhile_eq_advance hc (fun x hx => by rw [hline x hx]; rfl) (fun x hx => ?_)
    obtain rfl : '\n' = x := Option.some.inj hx
    rfl
  have hrest : (c.advance l.length).rest = '\n' :: r := rest_advance hc
  have hbreak : (c.advance l.length).atBreak = true := by
    unfold Cursor.atBreak
    rw [hrest]
    rfl
  have hbehind : (c.advance l.length).skipBreak.rest = r := by
    simp only [Cursor.skipBreak, hrest]
    rfl
  -- The line belongs to the block: it stands in its column and is not empty.
  have hstart : (c.column == n && !c.rest.isEmpty) = true := by
    rw [hc, hcolumn]
    cases l with
    | nil => exact absurd rfl hl
    | cons x l => simp
  refine ⟨(c.advance l.length).skipBreak, hbehind, rfl, ?_⟩
  intro indent blanks d hread fuel lead first more
  rw [blockLines, hstart, if_pos rfl]
  simp only [htake, hskip, hbreak, if_true, hbehind, hread, bind, Except.bind]
  rw [hrest]
  simp only [show breakText ('\n' :: r) = ['\n'] from rfl]
  cases blockLines false least n fuel c.atBlank ['\n'] blanks d <;> rfl

/-- Lines take at least as much room as they are. -/
theorem length_le_hanging (indent : Nat) (ls : List (List Char)) :
    ls.length ≤ (hanging indent ls).length := by
  induction ls with
  | nil => exact Nat.le_refl _
  | cons l ls ih =>
    simp only [hanging_cons, List.length_append, List.length_cons]
    omega

/-- A block ends at a line that is not as far to the right. -/
theorem blockLines_outside {d : Cursor} (hd : d.column < n) (fuel : Nat) (lead : Bool)
    (first more : List Char) :
    blockLines false least n fuel lead first more d = .ok ([], first, more, d) := by
  have hout : (d.column == n && !d.rest.isEmpty) = false := by
    rw [Bool.and_eq_false_iff]
    exact .inl (beq_eq_false_iff_ne.2 (Nat.ne_of_lt hd))
  cases fuel with
  | zero => rfl
  | succ fuel => rw [blockLines, hout]; rfl

/-- **The lines of a block are read back**, from the first one with text. -/
theorem blockLines_literal {k : Nat} {l u rest : List Char} {ls : List (List Char)}
    (h : AreLines (l :: ls)) (hl : l ≠ []) (hgap : IsGap u k rest) (hk : k < n)
    (hcolumn : c.column = n) (hc : c.rest = l ++ (hanging n ls ++ u)) {fuel : Nat}
    (hfuel : ls.length < fuel) (lead : Bool) (first more : List Char) :
    ∃ tail d, blockLines false least n fuel lead first more c =
        .ok (first ++ more ++ joined (l :: ls), ['\n'], tail, d) ∧
      d.rest = rest ∧ d.column = k := by
  -- Empty lines are read with the line before them, so the next line with text is not the next line.
  induction hlen : ls.length using Nat.strongRecOn generalizing l ls c fuel lead first more with
  | _ len ih =>
  obtain ⟨fuel, rfl⟩ : ∃ k, fuel = k + 1 := ⟨fuel - 1, by omega⟩
  have hline := h.line l List.mem_cons_self
  cases ls with
  | nil =>
    obtain ⟨hsolid, j, rfl⟩ := hgap
    have hbreak :
        c.rest = l ++ '\n' :: (List.replicate j '\n' ++ (List.replicate k ' ' ++ rest)) := by
      rw [hc, ← replicate_append_cons]
      rfl
    -- The line is read with its break; what follows depends on the empty lines behind it.
    obtain ⟨e, he, hcolumn', hstep⟩ := blockLines_line least hl hline hcolumn hbreak
    have hlen : j < e.rest.length + 1 := by
      rw [he]
      simp only [List.length_append, List.length_replicate]
      omega
    obtain ⟨breaks, d, hread, hrest, hd⟩ := blockBlankLines_gap least hk hsolid hcolumn' he hlen 0
    rw [he] at hread
    refine ⟨breaks, d, ?_, hrest, hd⟩
    rw [hstep _ _ _ hread, blockLines_outside least (hd ▸ hk)]
    simp [joined, broken, Except.map]
  | cons l₂ ls =>
    have hbreak : c.rest = l ++ '\n' :: (List.replicate n ' ' ++ (l₂ ++ (hanging n ls ++ u))) := by
      rw [hc, hanging_cons]
      simp
    obtain ⟨e, he, hcolumn', hstep⟩ := blockLines_line least hl hline hcolumn hbreak
    have hroom := length_le_hanging n ls
    obtain ⟨m, l', ls', d, hls, hne, hlines, hread, hrest, hd⟩ :=
      blockBlankLines_lines least h.tail hcolumn' he
        (show ls.length < e.rest.length + 1 by rw [he]; simp; omega) 0
    rw [he] at hread
    have hshorter : ls'.length < len := by
      have hlength := congrArg List.length hls
      simp at hlength hlen
      omega
    have hfuel' : ls'.length < fuel := by
      simp at hfuel hlen
      omega
    obtain ⟨tail, d', htail, hrest', hd'⟩ := ih ls'.length hshorter hlines hne hd hrest hfuel'
      c.atBlank ['\n'] (List.replicate m '\n') rfl
    refine ⟨tail, d', ?_, hrest', hd'⟩
    rw [hstep _ _ _ hread, htail]
    have hjoined : joined (l :: l₂ :: ls) =
        l ++ (['\n'] ++ List.replicate m '\n' ++ joined (l' :: ls')) := by
      change l ++ broken (l₂ :: ls) = _
      rw [hls, broken_replicate, broken_cons, List.cons_append, replicate_append_cons]
      rfl
    rw [hjoined]
    simp [Except.map]

/-- A block whose header states two columns is read line by line from behind the header. -/
theorem blockScalar_stated (parent : Nat) {r : List Char} (hc : c.rest = '2' :: '\n' :: r) :
    ∃ e : Cursor, e.rest = r ∧ e.column = 0 ∧
      ∀ {indent : Nat} {blanks text last tail : List Char} {d d' : Cursor},
        blockBlankLines (max 1 ((parent : Int) + 1).toNat) (some (parent + 2)) (r.length + 1) 0 e =
          .ok (indent, blanks, d) →
        blockLines false (max 1 ((parent : Int) + 1).toNat) indent (d.rest.length + 1) false []
          blanks d = .ok (text, last, tail, d') →
        blockScalar false (parent : Int) c = .ok (text ++ last, d') := by
  have hdigit : (c.advance 1).rest = '\n' :: r := by
    rw [Cursor.advance_rest, hc]
    rfl
  -- Behind the digit the header has neither blanks nor a comment, only its break.
  have hheader : blockHeader c = .ok (.clip, some 2, c.advance 1) := by
    unfold blockHeader
    rw [hc]
    rfl
  have hblank : (c.advance 1).skipWhile isBlank = c.advance 1 := by
    have hnone : (c.advance 1).skipWhile isBlank = (c.advance 1).advance 0 :=
      skipWhile_eq_advance (show _ = [] ++ '\n' :: r from hdigit) (by simp) (fun x hx => by
        obtain rfl : '\n' = x := Option.some.inj hx
        rfl)
    rw [hnone]
    rfl
  have hcomment : (c.advance 1).at? '#' = false := by
    rw [Cursor.at?, hdigit]
    rfl
  have hbreak : (c.advance 1).atBreak = true := by
    unfold Cursor.atBreak
    rw [hdigit]
    rfl
  have hnext : (c.advance 1).skipBreak.rest = r := by
    simp only [Cursor.skipBreak, hdigit]
    rfl
  -- The columns stated in the header count from the parent.
  have hwanted : (if (0 : Int) ≤ (parent : Int) then (parent : Int).toNat + 2 else 2) =
      parent + 2 := by
    rw [if_pos (Int.natCast_nonneg parent), Int.toNat_natCast]
  refine ⟨(c.advance 1).skipBreak, hnext, rfl, ?_⟩
  intro indent blanks text last tail d d' hread hlines
  unfold blockScalar
  simp only [hheader, bind, Except.bind, hblank, hcomment, hbreak, hdigit, Bool.false_eq_true,
    if_false, if_true, hnext, Option.map_some, hwanted, hread, hlines, endsLine_cons,
    show isBreak '\n' = true from rfl, Bool.not_true]

/-- **A literal block is read as its lines**, with one line feed at the end. Its header states that
they are indented by two columns more than their parent. -/
theorem blockScalar_literal {parent k : Nat} {l u rest : List Char} {ls : List (List Char)}
    (h : AreLines (l :: ls)) (hgap : IsGap u k rest) (hk : k ≤ parent)
    (hc : c.rest = '2' :: (hanging (parent + 2) (l :: ls) ++ u)) :
    ∃ d, blockScalar false (parent : Int) c = .ok (joined (l :: ls) ++ ['\n'], d) ∧
      d.rest = rest ∧ d.column = k := by
  have hhead : c.rest = '2' :: '\n' ::
      (List.replicate (parent + 2) ' ' ++ (l ++ (hanging (parent + 2) ls ++ u))) := by
    rw [hc, hanging_cons]
    simp
  obtain ⟨e, he, hcolumn, hscalar⟩ := blockScalar_stated parent hhead
  have hroom : ls.length <
      (List.replicate (parent + 2) ' ' ++ (l ++ (hanging (parent + 2) ls ++ u))).length + 1 := by
    have hle := length_le_hanging (parent + 2) ls
    simp
    omega
  obtain ⟨m, l', ls', d, hls, hne, hlines, hread, hrest, hd⟩ :=
    blockBlankLines_lines (max 1 ((parent : Int) + 1).toNat) h hcolumn he hroom 0
  have hroom' : ls'.length < d.rest.length + 1 := by
    have hle := length_le_hanging (parent + 2) ls'
    rw [hrest]
    simp
    omega
  obtain ⟨tail, d', hblock, hrest', hd'⟩ :=
    blockLines_literal (max 1 ((parent : Int) + 1).toNat) hlines hne hgap (by omega) hd hrest
      hroom' false [] (List.replicate m '\n')
  refine ⟨d', ?_, hrest', hd'⟩
  rw [hscalar hread hblock, hls, joined_replicate]
  simp

end TemplateShare.Yaml.Scanner
