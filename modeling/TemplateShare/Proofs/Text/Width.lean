import Mathlib.Algebra.Ring.Nat
import TemplateShare.Text.Width

/-! # The width of a text and the widths of its characters

A text is measured from its end, because the width of a character can depend on what stands behind
it. A character may even take back a column of the one behind it, or give back what others have taken
before, so that columns are counted with a debt and a credit: what can still be taken back, and what
can still be given.

Nothing depends on what stands behind a blank, so that a blank parts a text into pieces that are
measured one by one. Between the pieces, characters come together to something narrower, but never
to something wider than they are alone, unless one of them is a control or asks for a wider form.

* **`Text.Measure.Lawful`** — what holds of a measure in which texts come together.
* **`Text.Width.Fits`**, **`Text.Width.fits_add`** — what a character adds, with debt and credit.
* **`Text.Width.debt_le_measure`**, **`Text.Width.measure_le_sum`** — what a text adds up to.
* **`Text.Measure.lawful_unicode`** — the measure of terminals is lawful. -/

namespace TemplateShare.Text

/-! ## Measures -/

/-- **A character that is at most as wide in a text as alone**, and that makes no character before
it wider: no control, and no selector of a wider form. -/
def isSteady (c : Char) : Bool := !Width.isControl c && c != '\ufe0f' && c != '\ufe01'

/-- **A measure in which texts come together**: no character changes what stands before a blank, a
bar or an ellipsis, which take one column; and steady characters are at most as wide in a text as
alone. -/
structure Measure.Lawful (m : Measure) : Prop where
  nil : m.width [] = 0
  parts : ∀ c ∈ [' ', '|', '…'], ∀ s t, m.width (s ++ c :: t) = m.width s + 1 + m.width t
  steady : ∀ s, (∀ c ∈ s, isSteady c = true) → m.width s ≤ (s.map m.charWidth).sum

namespace Width

/-! ## Ranges

The tables are long, so that they are compared by what the kernel computes at once. -/

/-- A range that lies in one of some ranges. -/
def isWithin (r : Nat × Nat) (ranges : List (Nat × Nat)) : Bool :=
  ranges.any fun w => w.1.ble r.1 && r.2.ble w.2

/-- A range that meets none of some ranges. -/
def isApart (r : Nat × Nat) (ranges : List (Nat × Nat)) : Bool :=
  ranges.all fun w => r.2.blt w.1 || w.2.blt r.1

variable {c : Char} {r : Nat × Nat} {ranges : List (Nat × Nat)}

/-- A character of a range is one of a range around it. -/
theorem isIn_of_isWithin (hr : isWithin r ranges = true) (h : isIn [r] c = true) :
    isIn ranges c = true := by
  obtain ⟨w, hw, hwide⟩ := List.any_eq_true.1 hr
  simp only [isIn, List.any_cons, List.any_nil, Bool.or_false, Bool.and_eq_true,
    decide_eq_true_eq, Nat.ble_eq] at h hwide
  refine List.any_eq_true.2 ⟨w, hw, ?_⟩
  simp only [Bool.and_eq_true, decide_eq_true_eq]
  omega

/-- A character of a range is none of the ranges that it is apart from. -/
theorem isIn_of_isApart (hr : isApart r ranges = true) (h : isIn [r] c = true) :
    isIn ranges c = false := by
  refine List.any_eq_false.2 fun w hw => ?_
  have hpart := List.all_eq_true.1 hr w hw
  simp only [isIn, List.any_cons, List.any_nil, Bool.or_false, Bool.and_eq_true,
    decide_eq_true_eq, Bool.or_eq_true, Nat.blt_eq] at h hpart
  simp only [Bool.and_eq_true, decide_eq_true_eq]
  omega

/-- A character of some ranges is one of a single range of them. -/
theorem exists_isIn (h : isIn ranges c = true) : ∃ r ∈ ranges, isIn [r] c = true := by
  obtain ⟨r, hr, hin⟩ := List.any_eq_true.1 h
  exact ⟨r, hr, List.any_eq_true.2 ⟨r, List.mem_singleton_self r, hin⟩⟩

/-! ## Columns -/

/-- A character outside of the marks takes a column. -/
theorem one_le_columns (hr : ∀ r ∈ ranges, isApart r zeroRanges = true) (h : isIn ranges c = true) :
    1 ≤ columns c := by
  obtain ⟨r, hmem, hin⟩ := exists_isIn h
  rw [columns, isIn_of_isApart (hr r hmem) hin]
  simp only [Bool.false_eq_true, if_false]
  split
  · decide
  · split <;> decide

/-- A wide character takes two columns. -/
theorem two_le_columns
    (hr : ∀ r ∈ ranges, isApart r zeroRanges = true ∧ isWithin r wideRanges = true)
    (h : isIn ranges c = true) : 2 ≤ columns c := by
  obtain ⟨r, hmem, hin⟩ := exists_isIn h
  rw [columns, isIn_of_isApart (hr r hmem).1 hin, isIn_of_isWithin (hr r hmem).2 hin]
  split <;> decide

/-- A character from the start of the table takes a column, unless it is a control. -/
theorem one_le_columns_of_le (h : c.toNat ≤ 0xA0) : 1 ≤ columns c := by
  have hlow : isIn [(0, 0xA0)] c = true := by simpa [isIn] using h
  exact one_le_columns (by decide +kernel) hlow

/-- A letter of a flag takes a column. -/
theorem one_le_columns_of_isFlag (h : isFlag c = true) : 1 ≤ columns c :=
  one_le_columns (by decide +kernel) h

/-- What is shown as an emoji takes two columns. -/
theorem two_le_columns_of_isIn (h : isIn emojiRanges c = true) : 2 ≤ columns c :=
  two_le_columns (by decide +kernel) h

/-- What can be shown as an emoji takes a column. -/
theorem one_le_columns_of_isEmoji (h : isEmoji c = true) : 1 ≤ columns c := by
  rw [isEmoji, Bool.or_eq_true] at h
  rcases h with h | h
  · exact Nat.le_of_succ_le (two_le_columns_of_isIn h)
  · exact one_le_columns (by decide +kernel) h

/-! ## Debt and credit -/

/-- **What may be taken back** of the columns that have been counted. -/
def Base.debt : Base → Nat
  | .joinedFlag | .oddFlags | .letter .khmer _ | .letter .tifinaghJoiner _ => 1
  | _ => 0

/-- **What may be given back** of the columns that have been taken. -/
def Base.credit : Base → Nat
  | .evenFlags => 2
  | _ => 0

@[simp] theorem Base.debt_plain : Base.plain.debt = 0 := rfl

@[simp] theorem Base.credit_plain : Base.plain.credit = 0 := rfl

/-- What may be taken back of a letter does not depend on a joiner. -/
theorem Base.debt_letter (l : Letter) (joined joined' : Bool) :
    (Base.letter l joined).debt = (Base.letter l joined').debt := by cases l <;> rfl

/-- What may be given, also to a character of which a wider form is asked for. -/
def Behind.credit (b : Behind) : Nat :=
  b.base.credit + if b.style = some .emoji ∨ b.style = some .wide then 1 else 0

/-- **What a character of some columns adds**: it leaves no more to be taken back than there is, and
no more to be given than it has not taken of its columns. -/
structure Fits (w : Nat) (b : Base) (x : Int × Base) : Prop where
  least : (x.2.debt : Int) ≤ x.1 + b.debt
  most : x.1 + x.2.credit ≤ (w : Int) + b.credit

/-- A choice between parts that fit. -/
theorem Fits.ite {w : Nat} {b : Base} {x y : Int × Base} {p : Prop} [Decidable p]
    (hx : p → Fits w b x) (hy : Fits w b y) : Fits w b (if p then x else y) := by
  split
  · next h => exact hx h
  · exact hy

/-- What fits in front of anything. -/
theorem Fits.of_plain {w : Nat} {x : Int × Base} (h : Fits w .plain x) (b : Base) : Fits w b x := by
  obtain ⟨hleast, hmost⟩ := h
  rw [Base.debt_plain] at hleast
  rw [Base.credit_plain] at hmost
  exact ⟨by omega, by omega⟩

/-- A character that adds nothing and leaves nothing to be taken back or given. -/
theorem fits_zero (w : Nat) (b : Base) {b' : Base} (hdebt : b'.debt = 0) (hcredit : b'.credit = 0) :
    Fits w b (0, b') :=
  ⟨by simp only [hdebt]; omega, by simp only [hcredit]; omega⟩

/-- A character that takes one of its columns. -/
theorem fits_one {w : Nat} (hw : 1 ≤ w) (b : Base) {b' : Base} (hdebt : b'.debt ≤ 1)
    (hcredit : b'.credit = 0) : Fits w b (1, b') :=
  ⟨by dsimp only; omega, by simp only [hcredit]; omega⟩

/-! ## What a character adds -/

/-- What may be taken back of a letter, it has taken. -/
theorem debt_le_columns {l : Letter} (h : letter? c = some l) :
    (Base.letter l false).debt ≤ columns c := by
  unfold letter? at h
  split at h
  · cases h; exact Nat.zero_le _
  split at h
  · cases h; exact Nat.zero_le _
  split at h
  · next hsubscript =>
    cases h
    exact one_le_columns (by decide +kernel) hsubscript
  -- Nothing is taken back of the other letters.
  all_goals
    repeat' split at h
    all_goals cases h
    all_goals exact Nat.zero_le _

/-- **A character that nothing changes** takes the columns that it takes alone. -/
theorem fits_alone (c : Char) (b : Base) : Fits (columns c) b (alone c) := by
  refine Fits.of_plain ?_ b
  have htwo {b' : Base} (h : 2 ≤ columns c) (hdebt : b'.debt = 0) (hcredit : b'.credit = 0) :
      Fits (columns c) .plain (2, b') :=
    ⟨by simp [hdebt], by simp only [hcredit, Base.credit_plain]; omega⟩
  unfold alone
  refine Fits.ite (fun h => htwo (two_le_columns (by decide +kernel) h) rfl rfl) ?_
  refine Fits.ite (fun h => htwo (two_le_columns_of_isIn h) rfl rfl) ?_
  refine Fits.ite (fun h => fits_one (one_le_columns_of_isFlag h) .plain (Nat.zero_le 1) rfl) ?_
  split
  · next l hl =>
    have hdebt := debt_le_columns hl
    exact ⟨by dsimp only; omega, Int.le_refl _⟩
  · exact ⟨by simp, Int.le_refl _⟩

/-- **A character that is written as one** with the letter behind it takes back no more than a column
of that letter. -/
theorem fits_ligature {joined : Bool} {l : Letter} {x : Int × Base}
    (h : ligature? c joined l = some x) : Fits (columns c) (.letter l joined) x := by
  have htaken {l : Letter} (hdebt : (Base.letter l joined).debt = 1) :
      Fits (columns c) (.letter l joined) (-1, .plain) :=
    ⟨by simp [hdebt], by simp only [Base.credit_plain]; omega⟩
  cases l with
  | khmer =>
    obtain ⟨-, hx⟩ := Option.ite_none_right_eq_some.1 h
    exact Option.some.inj hx ▸ htaken rfl
  | tifinaghJoiner =>
    obtain ⟨-, hx⟩ := Option.ite_none_right_eq_some.1 h
    exact Option.some.inj hx ▸ htaken rfl
  | tifinagh =>
    rw [ligature?] at h
    split at h
    · next hjoiner =>
      cases h
      subst hjoiner
      exact fits_one (by decide +kernel) _ (Nat.le_refl 1) rfl
    · obtain ⟨-, hx⟩ := Option.ite_none_right_eq_some.1 h
      exact Option.some.inj hx ▸ fits_zero _ _ rfl rfl
  | kiratE =>
    rw [ligature?] at h
    split at h
    · cases h
      exact fits_zero _ _ rfl rfl
    · obtain ⟨-, hx⟩ := Option.ite_none_right_eq_some.1 h
      exact Option.some.inj hx ▸ fits_zero _ _ rfl rfl
  | _ =>
    obtain ⟨-, hx⟩ := Option.ite_none_right_eq_some.1 h
    exact Option.some.inj hx ▸ fits_zero _ _ rfl rfl

/-- The same for a character in front of a letter, whether or not they are written as one. -/
theorem fits_beforeLetter (c : Char) (l : Letter) (joined : Bool) :
    Fits (columns c) (.letter l joined) (beforeLetter c l joined) := by
  have hpassed (joined' : Bool) : Fits (columns c) (.letter l joined) (0, .letter l joined') :=
    ⟨by simp [Base.debt_letter l joined' joined], by simp [Base.credit]⟩
  unfold beforeLetter
  split
  · next x hx => exact fits_ligature hx
  · refine Fits.ite (fun _ => hpassed joined) (Fits.ite (fun _ => hpassed joined) ?_)
    exact Fits.ite (fun _ => hpassed true) (fits_alone c _)

/-- The same in front of an emoji. -/
theorem fits_beforeEmoji (c : Char) (b : Base) : Fits (columns c) b (beforeEmoji c) :=
  Fits.ite (fun _ => fits_zero _ b rfl rfl) (fits_alone c b)

/-- The same in front of a joiner. -/
theorem fits_beforeJoined (c : Char) (b : Base) : Fits (columns c) b (beforeJoined c) := by
  refine Fits.ite (fun _ => fits_zero _ b rfl rfl) (Fits.ite (fun _ => fits_zero _ b rfl rfl) ?_)
  refine Fits.ite (fun h => fits_one (one_le_columns_of_isFlag h) b (Nat.le_refl 1) rfl) ?_
  refine Fits.ite (fun _ => fits_zero _ b rfl rfl) (Fits.ite (fun _ => fits_zero _ b rfl rfl) ?_)
  exact fits_alone c b

/-- **A character behind which no selector stands.** The letters of flags that are joined to an emoji
take columns back and give them back by turns. -/
theorem fits_settled (c : Char) (b : Base) : Fits (columns c) b (settled c b) := by
  have hflag (n : Int) {b b' : Base} (hflag : isFlag c = true) (hleast : (b'.debt : Int) ≤ n + b.debt)
      (hmost : n + b'.credit ≤ 1 + b.credit) : Fits (columns c) b (n, b') := by
    have hone := one_le_columns_of_isFlag hflag
    exact ⟨hleast, by dsimp only; omega⟩
  unfold settled
  refine Fits.ite (fun hlow => ?_) ?_
  · have hone {b' : Base} (hdebt : b'.debt ≤ 1) (hcredit : b'.credit = 0) :
        Fits (columns c) b (1, b') := fits_one (one_le_columns_of_le hlow) b hdebt hcredit
    refine Fits.ite (fun _ => hone (Nat.zero_le 1) rfl) ?_
    exact Fits.ite (fun _ => fits_zero _ b rfl rfl) (hone (Nat.zero_le 1) rfl)
  · cases b with
    | plain => exact fits_alone c _
    | lineFeed => exact fits_alone c _
    | keycap => exact fits_alone c _
    | emoji => exact fits_beforeEmoji c _
    | tone => exact Fits.ite (fun _ => fits_zero _ _ rfl rfl) (fits_beforeEmoji c _)
    | flag => exact Fits.ite (fun h => hflag 1 h (by decide) (by decide)) (fits_alone c _)
    | flags => exact Fits.ite (fun h => hflag 1 h (by decide) (by decide)) (fits_beforeEmoji c _)
    | joined => exact fits_beforeJoined c _
    | tagged =>
      refine Fits.ite (fun _ => fits_zero _ _ rfl rfl) ?_
      exact Fits.ite (fun _ => fits_zero _ _ rfl rfl) (fits_alone c _)
    | joinedFlag => exact Fits.ite (fun h => hflag (-1) h (by decide) (by decide)) (fits_alone c _)
    | evenFlags => exact Fits.ite (fun h => hflag 3 h (by decide) (by decide)) (fits_beforeEmoji c _)
    | oddFlags => exact Fits.ite (fun h => hflag (-1) h (by decide) (by decide)) (fits_beforeEmoji c _)
    | letter l joined => exact fits_beforeLetter c l joined

/-- Nothing is taken back from behind a selector. -/
theorem debt_past_le (style : Style) (b : Base) : (b.past style).debt ≤ b.debt := by
  cases b with
  | letter l joined => exact Nat.le_refl _
  | joined => cases style <;> decide
  | keycap => cases style <;> decide
  | _ => exact Nat.zero_le _

/-- **What a character adds**: it is a selector, or another form of it is asked for, or what it adds
is settled. -/
theorem add_cases (c : Char) (b : Behind) :
    (∃ style, style? c = some style ∧ add c b = (0, ⟨some style, b.base.past style⟩)) ∨
    (b.style = some .emoji ∧ isEmoji c = true ∧ ∃ n, 0 ≤ n ∧ n ≤ 2 ∧ add c b = (n, ⟨none, .emoji⟩)) ∨
    (isIn textStyleRanges c = true ∧ add c b = (1, ⟨none, .plain⟩)) ∨
    (b.style = some .wide ∧ isQuote c = true ∧ add c b = (2, ⟨none, .plain⟩)) ∨
    add c b = ((settled c b.base).1, ⟨none, (settled c b.base).2⟩) := by
  unfold add
  split
  · next style hstyle => exact .inl ⟨style, hstyle, rfl⟩
  · refine .inr ?_
    split
    · next h =>
      refine .inl ⟨h.1, h.2, _, ?_, ?_, rfl⟩
      · split <;> decide
      · split <;> decide
    · split
      · next h => exact .inr (.inl ⟨h.2, rfl⟩)
      · split
        · next h => exact .inr (.inr (.inl ⟨h.1, h.2, rfl⟩))
        · exact .inr (.inr (.inr rfl))

/-- **No character takes back more than there is.** -/
theorem debt_add_le (c : Char) (b : Behind) :
    ((add c b).2.base.debt : Int) ≤ (add c b).1 + b.base.debt := by
  obtain ⟨style, -, h⟩ | ⟨-, -, n, hn, -, h⟩ | ⟨-, h⟩ | ⟨-, -, h⟩ | h := add_cases c b
  · have hpast := debt_past_le style b.base
    rw [h]
    dsimp only
    omega
  · have hdebt : Base.emoji.debt = 0 := rfl
    rw [h]
    dsimp only
    omega
  · simp only [h, Base.debt_plain]
    omega
  · simp only [h, Base.debt_plain]
    omega
  · rw [h]
    exact (fits_settled c b.base).least

/-- **A character that is no selector of a wider form** adds no more than its columns, and one more
where a wider form of it is asked for. -/
theorem add_le_columns (hemoji : c ≠ '\ufe0f') (hwide : c ≠ '\ufe01') (b : Behind) :
    (add c b).1 + (add c b).2.credit ≤ (columns c : Int) + b.credit := by
  have hplain {base : Base} (hbase : base.credit = 0) : (⟨none, base⟩ : Behind).credit = 0 := by
    simp [Behind.credit, hbase]
  have hasked (hstyle : b.style = some .emoji ∨ b.style = some .wide) : 1 ≤ b.credit := by
    rw [Behind.credit, if_pos hstyle]
    omega
  obtain ⟨style, hc, h⟩ | ⟨hstyle, hc, n, -, hn, h⟩ | ⟨hc, h⟩ | ⟨hstyle, hc, h⟩ | h := add_cases c b
  · obtain rfl : style = .text := by
      rw [style?, if_neg hemoji] at hc
      split at hc
      · exact (Option.some.inj hc).symm
      · cases hc
    have hpast : (⟨some .text, b.base.past .text⟩ : Behind).credit = 0 := by
      cases b.base <;> rfl
    rw [h, hpast]
    omega
  · have hone := one_le_columns_of_isEmoji hc
    have hcredit := hasked (.inl hstyle)
    rw [h, hplain rfl]
    omega
  · have hone : 1 ≤ columns c := one_le_columns (by decide +kernel) hc
    rw [h, hplain rfl]
    omega
  · have hone : 1 ≤ columns c := one_le_columns (by decide +kernel) hc
    have hcredit := hasked (.inr hstyle)
    rw [h, hplain rfl]
    omega
  · have hmost := (fits_settled c b.base).most
    have hsettled : (⟨none, (settled c b.base).2⟩ : Behind).credit = (settled c b.base).2.credit := by
      simp [Behind.credit]
    have hbase : b.base.credit ≤ b.credit := Nat.le_add_right _ _
    rw [h, hsettled]
    dsimp only
    omega

/-! ## Texts -/

/-- **No text takes less than may be taken back of it**, so that there are columns for all that is
taken back. -/
theorem debt_le_measure (s : List Char) : ((measure s).2.base.debt : Int) ≤ (measure s).1 := by
  induction s with
  | nil => exact Int.le_refl 0
  | cons c s ih =>
    have hadd := debt_add_le c (measure s).2
    rw [measure_cons]
    dsimp only
    omega

/-- The columns of a text are counted in full. -/
theorem width_eq (s : List Char) : (width s : Int) = (measure s).1 := by
  have hdebt := debt_le_measure s
  rw [width, Int.toNat_of_nonneg (by omega)]

/-- **A text of steady characters adds up to no more than they do together.** -/
theorem measure_le_sum {s : List Char} (hs : ∀ c ∈ s, isSteady c = true) :
    (measure s).1 + (measure s).2.credit ≤ ((s.map charWidth).sum : Int) := by
  induction s with
  | nil => exact Int.le_refl 0
  | cons c s ih =>
    have ih := ih fun x hx => hs x (List.mem_cons_of_mem c hx)
    have hc := hs c List.mem_cons_self
    simp only [isSteady, Bool.and_eq_true, Bool.not_eq_true', bne_iff_ne] at hc
    obtain ⟨⟨hcontrol, hemoji⟩, hwide⟩ := hc
    have hadd := add_le_columns hemoji hwide (measure s).2
    have hwidth : charWidth c = columns c := by rw [charWidth, hcontrol]; rfl
    rw [measure_cons, List.map_cons, List.sum_cons, hwidth]
    dsimp only
    omega

/-- **A text in front of one whose start matters to no character** is measured alone. -/
theorem measure_append {t : List Char} (ht : (measure t).2 = ⟨none, .plain⟩) (s : List Char) :
    measure (s ++ t) = ((measure s).1 + (measure t).1, (measure s).2) := by
  induction s with
  | nil => rw [List.nil_append, measure_nil, Int.zero_add, ← ht]
  | cons c s ih => rw [List.cons_append, measure_cons, ih, measure_cons, Int.add_assoc]

/-- Nothing behind an ellipsis matters to it. -/
theorem settled_ellipsis (b : Base) : settled '…' b = (1, .plain) := by
  have halone : alone '…' = (1, .plain) := by decide +kernel
  have hemoji : beforeEmoji '…' = (1, .plain) := halone
  have hflag : isFlag '…' = false := rfl
  unfold settled
  rw [if_neg (by decide)]
  cases b with
  | joined =>
    have hplain : isIn emojiRanges '…' = false := by decide +kernel
    simp [beforeJoined, halone, hflag, hplain, show isTone '…' = false from rfl,
      show isIn [(0xE007F, 0xE007F)] '…' = false from rfl]
  | tone =>
    have hperson : isIn personRanges '…' = false := by decide +kernel
    simp [hperson, hemoji]
  | letter l joined =>
    have hmark : isMark '…' = false := by decide +kernel
    have hletter : ligature? '…' joined l = none := by cases l <;> cases joined <;> rfl
    simp [beforeLetter, hletter, hmark, halone]
  | tagged => simp [halone, show isTag '…' = false from rfl]
  | _ => simp [halone, hemoji, hflag]

/-- **Nothing behind a blank, a bar or an ellipsis** matters to it or to what stands before it. -/
theorem add_parting (hc : c ∈ [' ', '|', '…']) (b : Behind) : add c b = (1, ⟨none, .plain⟩) := by
  have hforms : ∀ x ∈ [' ', '|', '…'], style? x = none ∧ isEmoji x = false ∧
      isIn textStyleRanges x = false ∧ isQuote x = false := by decide +kernel
  obtain ⟨hstyle, hemoji, htext, hquote⟩ := hforms c hc
  have hsettled : settled c b.base = (1, .plain) := by
    simp only [List.mem_cons, List.not_mem_nil, or_false] at hc
    rcases hc with rfl | rfl | rfl
    · rfl
    · rfl
    · exact settled_ellipsis b.base
  simp [add, hstyle, hemoji, htext, hquote, hsettled]

end Width

/-! ## Widths -/

open Width

/-- **A text parts** in front of a blank, a bar or an ellipsis. -/
theorem width_append_parting {c : Char} (hc : c ∈ [' ', '|', '…']) (s t : List Char) :
    width (s ++ c :: t) = width s + 1 + width t := by
  have htail : measure (c :: t) = (1 + (measure t).1, ⟨none, .plain⟩) := by
    rw [measure_cons, add_parting hc]
  have hwhole := width_eq (s ++ c :: t)
  rw [measure_append (by rw [htail]), htail, ← width_eq, ← width_eq] at hwhole
  omega

/-- **The measure of terminals is lawful.** -/
theorem Measure.lawful_unicode : unicode.Lawful where
  nil := rfl
  parts _ hc := width_append_parting hc
  steady s hs := by
    have hsum := measure_le_sum hs
    rw [← width_eq] at hsum
    show Text.width s ≤ (s.map Text.charWidth).sum
    omega

/-! ## Blanks behind a text -/

/-- Blanks behind a text take one column each. -/
theorem Measure.Lawful.width_append_blanks {m : Measure} (hm : m.Lawful) (s : List Char) (n : Nat) :
    m.width (s ++ List.replicate n ' ') = m.width s + n := by
  induction n with
  | zero => rw [List.replicate_zero, List.append_nil, Nat.add_zero]
  | succ n ih =>
    have hblank := hm.parts ' ' (by decide) (s ++ List.replicate n ' ') []
    rw [hm.nil, ih] at hblank
    rw [List.replicate_succ', ← List.append_assoc, hblank]
    rfl

end TemplateShare.Text
