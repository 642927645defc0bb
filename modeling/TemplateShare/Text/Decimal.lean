import TemplateShare.Text.Hex

/-! # Decimal numbers in text

Reading unsigned numbers in a radix (`Decimal.natural?`), signed numbers (`Decimal.integer?`) and
floating-point literals (`Decimal.float?`), and writing numbers with leading zeros
(`Decimal.padded`). -/

namespace TemplateShare.Decimal

/-- The value of a digit in bases up to sixteen. -/
def digit? (radix : Nat) (c : Char) : Option Nat := (Hex.value? c).filter (· < radix)

/-- **An unsigned number**: one or more digits of a radix and nothing else. -/
def natural? (radix : Nat) (s : List Char) : Option Nat :=
  if s.isEmpty then none
  else s.foldl (fun acc c => do return (← acc) * radix + (← digit? radix c)) (some 0)

/-- A number with an optional sign. -/
def integer? (radix : Nat) : List Char → Option Int
  | '-' :: s => (natural? radix s).map fun n => -(n : Int)
  | '+' :: s => (natural? radix s).map Int.ofNat
  | s => (natural? radix s).map Int.ofNat

/-- An unsigned number below a limit, written in decimal with an optional plus sign. -/
def below? (limit : Nat) (s : List Char) : Option Nat :=
  let digits := match s with
    | '+' :: r => r
    | _ => s
  (natural? 10 digits).filter (· < limit)

/-- A signed number of 64 bits, written in decimal with an optional sign. -/
def int64? (s : List Char) : Option Int :=
  (integer? 10 s).filter fun i => -(Nat.pow 2 63 : Int) ≤ i ∧ i < Nat.pow 2 63

/-- Digits, where there are any. -/
def spanDigits (s : List Char) : List Char × List Char :=
  (s.takeWhile Char.isDigit, s.dropWhile Char.isDigit)

/-- **A floating-point literal** in decimal: its sign, its digits as one number, and the power of
ten they are scaled by. At least one digit stands before the exponent and one in it. -/
def literal? (s : List Char) : Option (Bool × Nat × Int) := do
  let (negative, s) := match s with
    | '-' :: r => (true, r)
    | '+' :: r => (false, r)
    | _ => (false, s)
  let (whole, s) := spanDigits s
  let (fraction, s) := match s with
    | '.' :: r => spanDigits r
    | _ => ([], s)
  let digits ← natural? 10 (whole ++ fraction)
  let exponent ← match s with
    | [] => some 0
    | c :: r => if c = 'e' ∨ c = 'E' then integer? 10 r else none
  return (negative, digits, exponent - fraction.length)

/-- The number of decimal digits of a number, zero for zero. -/
def digitCount (n : Nat) : Nat := if n = 0 then 0 else n.log2 * 30103 / 100000 + 1

/-- **Whether `digits · 10 ^ exponent` is finite** as a double: below the midpoint between the
largest double and the next power of two. -/
def isFinite (digits : Nat) (exponent : Int) : Bool :=
  let bound : Nat := Nat.pow 2 1024 - Nat.pow 2 970
  if digits = 0 then true
  else if exponent + digitCount digits < 300 then true
  else if 320 < exponent + digitCount digits then false
  else if exponent < 0 then digits < bound * Nat.pow 10 exponent.natAbs
  else digits * Nat.pow 10 exponent.natAbs < bound

/-- **A finite floating-point number**, read with correct rounding. -/
def float? (s : List Char) : Option Float := do
  let (negative, digits, exponent) ← literal? s
  if isFinite digits exponent then
    let size :=
      if digits = 0 ∨ exponent + digitCount digits < -400 then 0
      else Float.ofScientific digits (exponent < 0) exponent.natAbs
    return if negative then -size else size
  else none

/-- A number in decimal, filled up with zeros to a width. -/
def padded (width n : Nat) : List Char :=
  let digits := Nat.toDigits 10 n
  List.replicate (width - digits.length) '0' ++ digits

end TemplateShare.Decimal
