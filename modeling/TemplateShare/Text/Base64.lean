import TemplateShare.Text.Utf8

/-! # Base64

The standard alphabet with padding. Decoding accepts exactly the canonical form and says of any
other text which octet is at fault. -/

namespace TemplateShare.Base64

/-! ## Alphabet -/

/-- The symbol of a number below 64. -/
def symbol (n : Nat) : UInt8 :=
  if n < 26 then UInt8.ofNat (65 + n)
  else if n < 52 then UInt8.ofNat (97 + (n - 26))
  else if n < 62 then UInt8.ofNat (48 + (n - 52))
  else if n = 62 then 43
  else 47

/-- The number that a symbol stands for. -/
def value? (b : UInt8) : Option Nat :=
  let n := b.toNat
  if 65 ≤ n ∧ n ≤ 90 then some (n - 65)
  else if 97 ≤ n ∧ n ≤ 122 then some (n - 97 + 26)
  else if 48 ≤ n ∧ n ≤ 57 then some (n - 48 + 52)
  else if n = 43 then some 62
  else if n = 47 then some 63
  else none

/-- The padding symbol `=`. -/
def pad : UInt8 := 61

/-- Each number below 64 is the value of its symbol. -/
theorem value?_symbol {n : Nat} (h : n < 64) : value? (symbol n) = some n := by
  have : ∀ k : Fin 64, value? (symbol k) = some k.val := by decide
  exact this ⟨n, h⟩

/-! ## Encoding -/

/-- **Encode octets**: each three as four symbols of six bits, the last one or two padded. -/
def encodeBytes : Bytes → Bytes
  | [] => []
  | [a] => [symbol (a.toNat / 4), symbol (a.toNat % 4 * 16), pad, pad]
  | [a, b] =>
    [symbol (a.toNat / 4), symbol (a.toNat % 4 * 16 + b.toNat / 16), symbol (b.toNat % 16 * 4), pad]
  | a :: b :: c :: rest =>
    symbol (a.toNat / 4) :: symbol (a.toNat % 4 * 16 + b.toNat / 16) ::
      symbol (b.toNat % 16 * 4 + c.toNat / 64) :: symbol (c.toNat % 64) :: encodeBytes rest

/-- The symbols as text. -/
def encode (b : Bytes) : String :=
  String.ofList ((encodeBytes b).map fun x => Char.ofNat x.toNat)

/-! ## Decoding -/

/-- **Why a text is not canonical Base64.** Offsets count octets of the text. -/
inductive Fault where
  | symbol (byte : UInt8) (offset : Nat)
  | length (n : Nat)
  | lastSymbol (byte : UInt8) (offset : Nat)
  | padding
deriving DecidableEq, Repr

/-- The wording of a fault. -/
def Fault.message : Fault → String
  | .symbol b i => "Invalid symbol " ++ toString b.toNat ++ ", offset " ++ toString i ++ "."
  | .length n => "Invalid input length: " ++ toString n
  | .lastSymbol b i =>
    "Invalid last symbol " ++ toString b.toNat ++ ", offset " ++ toString i ++ "."
  | .padding => "Invalid padding"

/-- The value of the symbol at an offset. -/
def valueAt (b : UInt8) (offset : Nat) : Except Fault Nat :=
  match value? b with
  | some n => .ok n
  | none => .error (.symbol b offset)

/-- The three octets of four values. -/
def octets (w x y z : Nat) : Bytes :=
  [UInt8.ofNat (w * 4 + x / 16), UInt8.ofNat (x % 16 * 16 + y / 4), UInt8.ofNat (y % 4 * 64 + z)]

/-- The values of the last group up to its padding, and how many padding symbols follow. Padding
may not come before the third place, and nothing but padding may follow it. -/
def lastValues (offset : Nat) : Nat → Bytes → Except Fault (List Nat × Nat)
  | _, [] => .ok ([], 0)
  | i, b :: bs =>
    if b = pad then
      if i < 2 then .error (.symbol pad (offset + i))
      else if bs.all (· = pad) then .ok ([], bs.length + 1)
      else .error (.symbol pad (offset + i))
    else do
      let v ← valueAt b (offset + i)
      let (vs, padding) ← lastValues offset (i + 1) bs
      .ok (v :: vs, padding)

/-- **Decode the last group** of at most four symbols. Symbols and padding have to be four
together, and the bits that no octet takes up have to be zero. -/
def decodeLast (offset : Nat) (bs : Bytes) : Except Fault Bytes :=
  if bs.isEmpty then .ok []
  else do
    let (vs, padding) ← lastValues offset 0 bs
    -- One symbol has six bits, which are not enough for an octet.
    if vs.length < 2 then .error (.length (offset + vs.length))
    else if vs.length + padding ≠ 4 then .error .padding
    else
      let lastSymbol : Fault :=
        .lastSymbol ((bs[vs.length - 1]?).getD 0) (offset + (vs.length - 1))
      match vs with
      | [w, x] => if x % 16 = 0 then .ok ((octets w x 0 0).take 1) else .error lastSymbol
      | [w, x, y] => if y % 4 = 0 then .ok ((octets w x y 0).take 2) else .error lastSymbol
      | [w, x, y, z] => .ok (octets w x y z)
      | _ => .error .padding

/-- Decode groups of four symbols, the last of which may be padded. -/
def decodeFrom (offset : Nat) : Bytes → Except Fault Bytes
  | a :: b :: c :: d :: e :: rest => do
    let w ← valueAt a offset
    let x ← valueAt b (offset + 1)
    let y ← valueAt c (offset + 2)
    let z ← valueAt d (offset + 3)
    let tail ← decodeFrom (offset + 4) (e :: rest)
    .ok (octets w x y z ++ tail)
  | last => decodeLast offset last

/-- **Decode octets.** Where one symbol is left over after groups of four, that symbol is looked
at first. -/
def decode (bs : Bytes) : Except Fault Bytes :=
  match bs.getLast? with
  | some b =>
    if bs.length % 4 = 1 ∧ b ≠ pad ∧ value? b = none then .error (.symbol b (bs.length - 1))
    else decodeFrom 0 bs
  | none => .ok []

end TemplateShare.Base64
