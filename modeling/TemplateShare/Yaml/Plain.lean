import TemplateShare.Text.Decimal

/-! # The meaning of plain scalars

A scalar written without quotes may stand for more than its text: null, a flag, an integer in one
of four radices, a floating-point number. `Plain.resolve` decides, and `Plain.isNull` and
`Plain.unsigned?` answer the questions that a reader with a fixed type asks. -/

namespace TemplateShare.Yaml.Plain

/-- The spellings of null. -/
def isNull (s : List Char) : Bool :=
  s == "null".toList || s == "Null".toList || s == "NULL".toList || s == ['~']

/-- The spellings of the two flags. -/
def flag? (s : List Char) : Option Bool :=
  if s == "true".toList || s == "True".toList || s == "TRUE".toList then some true
  else if s == "false".toList || s == "False".toList || s == "FALSE".toList then some false
  else none

/-- **Digits that are no number**: a leading zero before further digits, after any sign. -/
def isPaddedDigits (s : List Char) : Bool :=
  let s := match s with
    | '-' :: r | '+' :: r => r
    | _ => s
  match s with
  | '0' :: c :: r => (c :: r).all Char.isDigit
  | _ => false

/-- The radix that the letter behind a leading zero announces. -/
def radix? : Char → Option Nat
  | 'x' => some 16
  | 'o' => some 8
  | 'b' => some 2
  | _ => none

/-- **An unsigned integer** below a limit: an optional plus sign, then `0x`, `0o` or `0b` and
digits of that radix, or decimal digits without padding. -/
def unsigned? (limit : Nat) (s : List Char) : Option Nat :=
  let body := match s with
    | '+' :: r => r
    | _ => s
  let inRadix : Option Nat :=
    match body with
    | '0' :: c :: r => do (Decimal.natural? (← radix? c) r).filter (· < limit)
    | _ => none
  inRadix <|>
    (if isPaddedDigits s then none else (Decimal.natural? 10 body).filter (· < limit))

/-- **A signed integer** from `-bound` to below `bound`: like an unsigned one, after a minus sign. -/
def signed? (bound : Nat) (s : List Char) : Option Int :=
  let inRange (n : Int) : Bool := -(bound : Int) ≤ n ∧ n < bound
  let inRadix : Option Int :=
    match s with
    | '-' :: '0' :: c :: r => do
      ((Decimal.natural? (← radix? c) r).map fun n => -(n : Int)).filter inRange
    | _ => none
  inRadix <|> (if isPaddedDigits s then none else (Decimal.integer? 10 s).filter inRange)

/-- A finite floating-point number, or one of the spellings of the infinities and of no number. -/
def float? (s : List Char) : Option Float :=
  let body := match s with
    | '+' :: r => r
    | _ => s
  if s.head? == some '+' && (body.head? == some '+' || body.head? == some '-') then none
  else if body == ".inf".toList || body == ".Inf".toList || body == ".INF".toList then
    some (1.0 / 0.0)
  else if s == "-.inf".toList || s == "-.Inf".toList || s == "-.INF".toList then
    some (-1.0 / 0.0)
  else if s == ".nan".toList || s == ".NaN".toList || s == ".NAN".toList then some (0.0 / 0.0)
  else Decimal.float? body

/-- **What a plain scalar stands for.** -/
inductive Meaning where
  | null
  | flag (b : Bool)
  /-- An integer of 64 bits, unsigned or signed. -/
  | integer (i : Int)
  /-- An integer that needs more than 64 bits, up to 128. -/
  | wide
  | float (x : Float)
  | text

/-- **Resolve a plain scalar**: null, then a flag, then an integer, then a float, else text. -/
def resolve (s : List Char) : Meaning :=
  if s.isEmpty || isNull s then .null
  else if let some b := flag? s then .flag b
  else if let some n := unsigned? (Nat.pow 2 64) s then .integer n
  else if let some i := signed? (Nat.pow 2 63) s then .integer i
  -- Wide integers come before padded digits and floats, which they would be otherwise.
  else if (unsigned? (Nat.pow 2 128) s).isSome || (signed? (Nat.pow 2 127) s).isSome then .wide
  else if isPaddedDigits s then .text
  else if let some x := float? s then .float x
  else .text

end TemplateShare.Yaml.Plain
