/-! # Hexadecimal digits

Reading digits in either case (`Hex.value?`, `Hex.number?`) and writing numbers of a fixed width
in lower or upper case (`Hex.lower`, `Hex.upper`). -/

namespace TemplateShare.Hex

/-- The value of a hexadecimal digit of either case. -/
def value? (c : Char) : Option Nat :=
  if '0' ≤ c ∧ c ≤ '9' then some (c.toNat - '0'.toNat)
  else if 'a' ≤ c ∧ c ≤ 'f' then some (c.toNat - 'a'.toNat + 10)
  else if 'A' ≤ c ∧ c ≤ 'F' then some (c.toNat - 'A'.toNat + 10)
  else none

/-- The number that hexadecimal digits spell; zero for no digits. -/
def number? (s : List Char) : Option Nat :=
  s.foldl (fun acc c => do return (← acc) * 16 + (← value? c)) (some 0)

/-- The digit of a number below sixteen, in lower case. -/
def lowerDigit (n : Nat) : Char :=
  if n < 10 then Char.ofNat ('0'.toNat + n) else Char.ofNat ('a'.toNat + (n - 10))

/-- The digit of a number below sixteen, in upper case. -/
def upperDigit (n : Nat) : Char :=
  if n < 10 then Char.ofNat ('0'.toNat + n) else Char.ofNat ('A'.toNat + (n - 10))

/-- The last `width` hexadecimal digits of a number, in lower case. -/
def lower : Nat → Nat → List Char
  | 0, _ => []
  | width + 1, n => lower width (n / 16) ++ [lowerDigit (n % 16)]

/-- The last `width` hexadecimal digits of a number, in upper case. -/
def upper : Nat → Nat → List Char
  | 0, _ => []
  | width + 1, n => upper width (n / 16) ++ [upperDigit (n % 16)]

@[simp] theorem length_lower (width n : Nat) : (lower width n).length = width := by
  induction width generalizing n with
  | zero => rfl
  | succ w ih => simp [lower, ih]

@[simp] theorem length_upper (width n : Nat) : (upper width n).length = width := by
  induction width generalizing n with
  | zero => rfl
  | succ w ih => simp [upper, ih]

end TemplateShare.Hex
