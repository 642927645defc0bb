import TemplateShare.Text.Blank
import TemplateShare.Yaml.Plain

/-! # Numbers in decimal

A number is read back from its decimal digits, wherever numbers are read.

* **`Decimal.natural?_digits`**, **`Decimal.below?_digits`** — the digits of a number.
* **`Yaml.Plain.unsigned?_digits`** — the same as a plain scalar. -/

namespace TemplateShare

namespace Decimal

/-- Digits are decimal ones. -/
theorem isDigit_of_mem_digits {n : Nat} {c : Char} (h : c ∈ Nat.toDigits 10 n) : c.isDigit = true :=
  Nat.isDigit_of_mem_toDigits (by decide) (by decide) h

/-- The value of a decimal digit. -/
theorem digit?_of_isDigit {c : Char} (h : c.isDigit = true) :
    digit? 10 c = some (c.toNat - '0'.toNat) := by
  simp only [Char.isDigit, Bool.and_eq_true, decide_eq_true_eq] at h
  have hlow : '0' ≤ c := h.1
  have hhigh : c ≤ '9' := h.2
  have hbound : c.toNat - 48 < 10 := by
    have : c.toNat ≤ 57 := hhigh
    omega
  simp [digit?, Hex.value?, hlow, hhigh, hbound]

/-- Digits are taken up one by one. -/
theorem foldl_digits {s : List Char} (h : ∀ c ∈ s, c.isDigit = true) (n : Nat) :
    s.foldl (fun acc c => do return (← acc) * 10 + (← digit? 10 c)) (some n) =
      some (Nat.ofDigitChars 10 s n) := by
  induction s generalizing n with
  | nil => rfl
  | cons c s ih =>
    rw [List.foldl_cons, Nat.ofDigitChars_cons]
    have hc := digit?_of_isDigit (h c List.mem_cons_self)
    rw [hc, Nat.mul_comm 10 n]
    exact ih (fun x hx => h x (List.mem_cons_of_mem c hx)) _

/-- **A number is read back from its digits.** -/
theorem natural?_digits (n : Nat) : natural? 10 (Nat.toDigits 10 n) = some n := by
  have hne : (Nat.toDigits 10 n).isEmpty = false := by
    rw [List.isEmpty_eq_false_iff]
    exact Nat.toDigits_ne_nil
  rw [natural?, hne, if_neg Bool.false_ne_true, foldl_digits fun c => isDigit_of_mem_digits,
    Nat.ofDigitChars_ten_toDigits]

/-- A digit is no sign. -/
theorem ne_of_isDigit {c x : Char} (h : c.isDigit = true) (hx : x.isDigit = false) : c ≠ x := by
  rintro rfl
  rw [h] at hx
  cases hx

/-- A digit is no white space. -/
theorem isSpace_of_isDigit {c : Char} (h : c.isDigit = true) : Text.isSpace c = false := by
  simp only [Char.isDigit, Bool.and_eq_true, decide_eq_true_eq] at h
  have hlow : 48 ≤ c.toNat := h.1
  have hhigh : c.toNat ≤ 57 := h.2
  simp [Text.isSpace]
  omega

/-- **A number is read back from its digits**, if it is below the limit. -/
theorem below?_digits (limit n : Nat) :
    below? limit (Nat.toDigits 10 n) = if n < limit then some n else none := by
  have hnumber := natural?_digits n
  obtain ⟨c, r, hs⟩ := List.exists_cons_of_ne_nil (Nat.toDigits_ne_nil (n := n) (b := 10))
  have hplus : c ≠ '+' := ne_of_isDigit (isDigit_of_mem_digits (by rw [hs]; simp)) rfl
  rw [hs] at hnumber ⊢
  unfold below?
  split
  · next heq => exact absurd (List.cons.inj heq).1 hplus
  · simp [hnumber, Option.filter]

end Decimal

namespace Yaml.Plain

/-- The digits of a positive number do not start with a zero. -/
theorem head?_digits {n : Nat} (h : 0 < n) : (Nat.toDigits 10 n).head? ≠ some '0' := by
  induction n using Nat.base_induction 10 (by decide) with
  | single m hm =>
    rw [Nat.toDigits_of_lt_base hm]
    intro heq
    have hzero := (by decide : ∀ m < 10, 0 < m → Nat.digitChar m ≠ '0') m hm h
    exact hzero (Option.some.inj heq)
  | digit m k hk hm ih =>
    obtain ⟨c, r, hcr⟩ := List.exists_cons_of_ne_nil (Nat.toDigits_ne_nil (n := m) (b := 10))
    have hhead := ih hm
    rw [← Nat.toDigits_append_toDigits (by decide) hm hk, hcr] at *
    exact hhead

/-- The digits of a number have no zero before others. -/
theorem digits_ne_zero_cons (n : Nat) (c : Char) (r : List Char) :
    Nat.toDigits 10 n ≠ '0' :: c :: r := by
  intro h
  cases n with
  | zero =>
    rw [Nat.toDigits_zero] at h
    cases h
  | succ n => exact head?_digits (Nat.succ_pos n) (by rw [h]; rfl)

/-- Digits start with a digit. -/
theorem exists_digits (n : Nat) : ∃ c r, Nat.toDigits 10 n = c :: r ∧ c.isDigit = true := by
  obtain ⟨c, r, h⟩ := List.exists_cons_of_ne_nil (Nat.toDigits_ne_nil (n := n) (b := 10))
  exact ⟨c, r, h, Decimal.isDigit_of_mem_digits (by rw [h]; exact List.mem_cons_self)⟩

/-- The digits of a number are no padded ones. -/
theorem isPaddedDigits_digits (n : Nat) : isPaddedDigits (Nat.toDigits 10 n) = false := by
  obtain ⟨c, r, h, hc⟩ := exists_digits n
  have hne := digits_ne_zero_cons n
  rw [h] at hne ⊢
  have hminus : c ≠ '-' := Decimal.ne_of_isDigit hc rfl
  have hplus : c ≠ '+' := Decimal.ne_of_isDigit hc rfl
  unfold isPaddedDigits
  split
  · next heq => exact absurd (List.cons.inj heq).1 hminus
  · next heq => exact absurd (List.cons.inj heq).1 hplus
  · dsimp only
    split
    · next heq => exact absurd heq (hne _ _)
    · rfl

/-- **A number is read back from its digits** as a plain scalar, if it is below the limit. -/
theorem unsigned?_digits (limit n : Nat) :
    unsigned? limit (Nat.toDigits 10 n) = if n < limit then some n else none := by
  have hpadded := isPaddedDigits_digits n
  have hnumber := Decimal.natural?_digits n
  have hne := digits_ne_zero_cons n
  obtain ⟨c, r, hs, hc⟩ := exists_digits n
  rw [hs] at hpadded hnumber hne ⊢
  have hplus : c ≠ '+' := Decimal.ne_of_isDigit hc rfl
  unfold unsigned?
  rw [hpadded]
  split
  · next heq => exact absurd (List.cons.inj heq).1 hplus
  · dsimp only
    split
    · next heq => exact absurd heq (hne _ _)
    · simp [hnumber, Option.filter]

/-- **A number resolves to itself**, if it has 64 bits. -/
theorem resolve_digits {n : Nat} (h : n < Nat.pow 2 64) :
    resolve (Nat.toDigits 10 n) = .integer n := by
  have hnumber := unsigned?_digits (Nat.pow 2 64) n
  rw [if_pos h] at hnumber
  obtain ⟨c, r, hs, hc⟩ := exists_digits n
  rw [hs] at hnumber ⊢
  have hne : ∀ x ∈ ['n', 'N', '~', 't', 'T', 'f', 'F'], c ≠ x := by
    intro x hx
    exact Decimal.ne_of_isDigit hc ((by decide :
      ∀ y ∈ ['n', 'N', '~', 't', 'T', 'f', 'F'], y.isDigit = false) x hx)
  simp only [List.forall_mem_cons] at hne
  obtain ⟨h₁, h₂, h₃, h₄, h₅, h₆, h₇, -⟩ := hne
  have hnull : isNull (c :: r) = false := by
    simp [isNull, h₁, h₂, h₃]
  have hflag : flag? (c :: r) = none := by
    simp [flag?, h₄, h₅, h₆, h₇]
  unfold resolve
  rw [hnull, hflag, hnumber]
  rfl

end Yaml.Plain

end TemplateShare
