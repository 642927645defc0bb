/-! # Punycode

Labels of domain names in ASCII: the ASCII characters of a label, and behind the last hyphen the
other ones as differences of their code points and places, in digits of base 36 whose weights adapt.

* **`Punycode.encode`**, **`Punycode.decode`**. -/

namespace TemplateShare.Punycode

/-! ## Digits -/

/-- The digit of a number below 36. -/
def digit (n : Nat) : Char :=
  if n < 26 then Char.ofNat ('a'.toNat + n) else Char.ofNat ('0'.toNat + (n - 26))

/-- The number of a digit. -/
def value? (c : Char) : Option Nat :=
  if 'a' ≤ c ∧ c ≤ 'z' then some (c.toNat - 'a'.toNat)
  else if 'A' ≤ c ∧ c ≤ 'Z' then some (c.toNat - 'A'.toNat)
  else if '0' ≤ c ∧ c ≤ '9' then some (c.toNat - '0'.toNat + 26)
  else none

/-- Each number below 36 is the value of its digit. -/
theorem value?_digit {n : Nat} (h : n < 36) : value? (digit n) = some n := by
  have : ∀ k : Fin 36, value? (digit k) = some k.val := by decide
  exact this ⟨n, h⟩

/-- The threshold of the digit at a position. -/
def threshold (bias position : Nat) : Nat :=
  if position ≤ bias then 1 else if bias + 26 ≤ position then 26 else position - bias

theorem threshold_le (bias position : Nat) : threshold bias position ≤ 26 := by
  unfold threshold; split <;> (try split) <;> omega

theorem threshold_pos (bias position : Nat) : 0 < threshold bias position := by
  unfold threshold; split <;> (try split) <;> omega

/-- Scale a difference down, counting the steps. -/
def scale (delta k : Nat) : Nat :=
  if 455 < delta then scale (delta / 35) (k + 36) else k + 36 * delta / (delta + 38)
termination_by delta
decreasing_by omega

/-- **The bias** after a difference, with which `count` characters are written. -/
def adapt (delta count : Nat) (isFirst : Bool) : Nat :=
  let delta := if isFirst then delta / 700 else delta / 2
  scale (delta + delta / count) 0

/-! ## Writing -/

/-- A number in digits with adapting weights. -/
def digits (bias position n : Nat) : List Char :=
  let t := threshold bias position
  if n < t then [digit n]
  else digit (t + (n - t) % (36 - t)) :: digits bias (position + 36) ((n - t) / (36 - t))
termination_by n
decreasing_by
  have h := threshold_pos bias position
  exact Nat.lt_of_le_of_lt (Nat.div_le_self _ _) (by omega)

/-- What has been written: digits, the difference so far, the bias, and how many characters. -/
structure Writing where
  out : List Char
  delta : Nat
  bias : Nat
  count : Nat

/-- Take up a character of the label while the code point `n` is written. -/
def Writing.step (basic n : Nat) (w : Writing) (c : Char) : Writing :=
  if c.toNat < n then { w with delta := w.delta + 1 }
  else if c.toNat = n then
    { out := w.out ++ digits w.bias 36 w.delta
      delta := 0
      bias := adapt w.delta (w.count + 1) (w.count == basic)
      count := w.count + 1 }
  else w

/-- Write the code points of a list in order; `n` is the least one that is still to come. -/
def Writing.all (s : List Char) (basic : Nat) : Nat → List Nat → Writing → Writing
  | _, [], w => w
  | n, m :: ms, w =>
    let w := { w with delta := w.delta + (m - n) * (w.count + 1) }
    let w := s.foldl (Writing.step basic m) w
    Writing.all s basic (m + 1) ms { w with delta := w.delta + 1 }

/-- **Encode a label.** -/
def encode (s : List Char) : List Char :=
  let basic := s.filter (·.toNat < 0x80)
  let others := ((s.map Char.toNat).filter (0x80 ≤ ·)).mergeSort.eraseDups
  let w := Writing.all s basic.length 0x80 others ⟨[], 0, 72, basic.length⟩
  basic ++ (if basic.isEmpty then [] else ['-']) ++ w.out

/-! ## Reading -/

/-- A number in digits with adapting weights, and what follows it. -/
def number? (bias position weight n : Nat) : List Char → Option (Nat × List Char)
  | [] => none
  | c :: s => do
    let d ← value? c
    let n := n + d * weight
    let t := threshold bias position
    if d < t then some (n, s) else number? bias (position + 36) (weight * (36 - t)) n s

/-- **Put characters in place.** Each difference leads from the code point `n` and the place `i` to
the next ones; `fuel` bounds the number of characters. -/
def insertAll : Nat → List Char → Nat → Nat → Nat → List Char → Option (List Char)
  | 0, _, _, _, _, _ => none
  | fuel + 1, out, n, i, bias, s =>
    if s.isEmpty then some out
    else do
      let (delta, s) ← number? bias 36 1 0 s
      let count := out.length + 1
      let n := n + (i + delta) / count
      let place := (i + delta) % count
      if n.isValidChar then
        let bias := adapt delta count (i == 0)
        insertAll fuel (out.take place ++ Char.ofNat n :: out.drop place) n (place + 1) bias s
      else none

/-- **Decode a label.** -/
def decode (s : List Char) : Option (List Char) :=
  let tail := (s.reverse.takeWhile (· != '-')).reverse
  let basic := s.take (s.length - tail.length - 1)
  if basic.all (·.toNat < 0x80) then insertAll (s.length + 1) basic 0x80 0 72 tail else none

end TemplateShare.Punycode
