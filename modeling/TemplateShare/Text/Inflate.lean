import TemplateShare.Text.Utf8

/-! # Deflated data

Reading the blocks of deflated data: stored octets, and symbols under a fixed or a transmitted
prefix code that stand for octets or for copies of what has been read before.

* **`Bits`**: octets as a stream of bits, the least significant bit of each octet first.
* **`PrefixCode`**: a canonical prefix code, given by the lengths of its code words.
* **`inflate`**: the data of a stream and the octets behind it. -/

namespace TemplateShare.Deflate

/-! ## Bits -/

/-- **A stream of bits**: those left of an octet that has been begun, and further octets. -/
structure Bits where
  pending : List Bool := []
  rest : Bytes
deriving DecidableEq, Repr

/-- A reader of bits. -/
abbrev Reader := StateT Bits Option

namespace Bits

/-- The bits of an octet, the least significant one first. -/
def ofOctet (b : UInt8) : List Bool := (List.range 8).map b.toNat.testBit

/-- The next bit. -/
def next? (s : Bits) : Option (Bool × Bits) :=
  match s.pending, s.rest with
  | b :: bs, _ => some (b, { s with pending := bs })
  | [], x :: xs => some (x.toNat.testBit 0, ⟨(ofOctet x).tail, xs⟩)
  | [], [] => none

/-- The number of bits that are left. -/
def size (s : Bits) : Nat := s.pending.length + 8 * s.rest.length

/-- A number of some bits, the least significant one first. -/
def number : Nat → Reader Nat
  | 0 => return 0
  | n + 1 => do
    let b ← next?
    let high ← number n
    return b.toNat + 2 * high

/-- An octet at the next octet boundary. -/
def octet? (s : Bits) : Option (UInt8 × Bits) :=
  match s.rest with
  | [] => none
  | x :: xs => some (x, ⟨[], xs⟩)

/-- Drop what is left of an octet that has been begun. -/
def align (s : Bits) : Bits := { s with pending := [] }

@[simp] theorem length_ofOctet (b : UInt8) : (ofOctet b).length = 8 := by simp [ofOctet]

end Bits

/-! ## Prefix codes -/

/-- **A canonical prefix code**: how many code words there are of each length from one on, and the
symbols in the order of their code words. -/
structure PrefixCode where
  counts : List Nat
  symbols : List Nat
deriving DecidableEq, Repr

namespace PrefixCode

/-- The longest code word. -/
def maxLength : Nat := 15

/-- The symbols whose code words have a length. -/
def symbolsOf (lengths : List Nat) (n : Nat) : List Nat :=
  (lengths.zipIdx.filter (·.1 == n)).map (·.2)

/-- How much of the space of all code words is used, in units of the longest one. -/
def usage (counts : List Nat) : Nat :=
  counts.zipIdx.foldl (fun used (c, i) => used + c * Nat.pow 2 (maxLength - 1 - i)) 0

/-- **The code of given lengths**, where zero stands for no code word. It has to fill the space of
all code words unless it has at most one. -/
def ofLengths? (lengths : List Nat) : Option PrefixCode :=
  let sizes := (List.range maxLength).map (· + 1)
  let groups := sizes.map (symbolsOf lengths)
  let counts := groups.map List.length
  if usage counts = Nat.pow 2 maxLength ∨ groups.flatten.length ≤ 1 then
    some ⟨counts, groups.flatten⟩
  else none

/-- Follow bits to a symbol. `code` is the code word so far, `first` the first code word of this
length, and `index` the number of shorter ones. -/
def walk (symbols : List Nat) : List Nat → Nat → Nat → Nat → Reader Nat
  | [], _, _, _ => failure
  | count :: counts, code, first, index => do
    let code := code + (← Bits.next?).toNat
    if code < first + count then symbols[index + (code - first)]?
    else walk symbols counts (2 * code) (2 * (first + count)) (index + count)

/-- **Read a symbol.** -/
def read (c : PrefixCode) : Reader Nat := walk c.symbols c.counts 0 0 0

end PrefixCode

/-! ## Blocks -/

/-- The lengths that the symbols from 257 on stand for: a base and a number of further bits. -/
def lengthCodes : List (Nat × Nat) :=
  [(3, 0), (4, 0), (5, 0), (6, 0), (7, 0), (8, 0), (9, 0), (10, 0), (11, 1), (13, 1), (15, 1),
    (17, 1), (19, 2), (23, 2), (27, 2), (31, 2), (35, 3), (43, 3), (51, 3), (59, 3), (67, 4),
    (83, 4), (99, 4), (115, 4), (131, 5), (163, 5), (195, 5), (227, 5), (258, 0)]

/-- The distances of copies: a base and a number of further bits. -/
def distanceCodes : List (Nat × Nat) :=
  [(1, 0), (2, 0), (3, 0), (4, 0), (5, 1), (7, 1), (9, 2), (13, 2), (17, 3), (25, 3), (33, 4),
    (49, 4), (65, 5), (97, 5), (129, 6), (193, 6), (257, 7), (385, 7), (513, 8), (769, 8),
    (1025, 9), (1537, 9), (2049, 10), (3073, 10), (4097, 11), (6145, 11), (8193, 12), (12289, 12),
    (16385, 13), (24577, 13)]

/-- A number given by a symbol and further bits. -/
def extended (codes : List (Nat × Nat)) (symbol : Nat) : Reader Nat := do
  let (base, bits) ← codes[symbol]?
  return base + (← Bits.number bits)

/-- Repeat what was read `distance` octets ago. -/
def copy (distance : Nat) : Nat → Array UInt8 → Option (Array UInt8)
  | 0, out => some out
  | n + 1, out => do
    if distance = 0 ∨ out.size < distance then none
    else copy distance n (out.push (← out[out.size - distance]?))

/-- Read symbols up to the end of their block; `fuel` bounds their number. -/
def symbols (literals distances : PrefixCode) : Nat → Array UInt8 → Reader (Array UInt8)
  | 0, _ => failure
  | fuel + 1, out => do
    let s ← literals.read
    if s < 256 then symbols literals distances fuel (out.push (UInt8.ofNat s))
    else if s = 256 then return out
    else
      let length ← extended lengthCodes (s - 257)
      let distance ← extended distanceCodes (← distances.read)
      symbols literals distances fuel (← copy distance length out)

/-- Read a number of octets. -/
def octets : Nat → Array UInt8 → Reader (Array UInt8)
  | 0, out => return out
  | n + 1, out => do octets n (out.push (← Bits.octet?))

/-- A number of two octets. -/
def word : Reader Nat := do
  let low ← Bits.octet?
  let high ← Bits.octet?
  return low.toNat + 256 * high.toNat

/-- **A stored block**: its length, the complement of its length, and its octets. -/
def stored (out : Array UInt8) : Reader (Array UInt8) := do
  modify Bits.align
  let n ← word
  let complement ← word
  if n + complement = 0xFFFF then octets n out else failure

/-- The lengths of the fixed code for octets and copies. -/
def fixedLiterals : List Nat :=
  List.replicate 144 8 ++ List.replicate 112 9 ++ List.replicate 24 7 ++ List.replicate 8 8

/-- The order in which the lengths of the code for lengths are sent. -/
def lengthOrder : List Nat := [16, 17, 18, 0, 8, 7, 9, 6, 10, 5, 11, 4, 12, 3, 13, 2, 14, 1, 15]

/-- Read code word lengths up to a number of them; three symbols stand for repetitions. -/
def codeLengths (code : PrefixCode) (total : Nat) : Nat → List Nat → Reader (List Nat)
  | 0, _ => failure
  | fuel + 1, lengths => do
    if lengths.length = total then return lengths
    else if total < lengths.length then failure
    else
      let s ← code.read
      if s < 16 then codeLengths code total fuel (lengths ++ [s])
      else if s = 16 then
        let last ← lengths.getLast?
        codeLengths code total fuel (lengths ++ List.replicate (3 + (← Bits.number 2)) last)
      else if s = 17 then
        codeLengths code total fuel (lengths ++ List.replicate (3 + (← Bits.number 3)) 0)
      else codeLengths code total fuel (lengths ++ List.replicate (11 + (← Bits.number 7)) 0)

/-- Read the two codes that a block brings with it. -/
def transmittedCodes : Reader (PrefixCode × PrefixCode) := do
  let literals := 257 + (← Bits.number 5)
  let distances := 1 + (← Bits.number 5)
  let n := 4 + (← Bits.number 4)
  let sent ← (List.range n).mapM fun _ => Bits.number 3
  let lengths := (List.range 19).map fun i => ((lengthOrder.zip sent).lookup i).getD 0
  let code ← PrefixCode.ofLengths? lengths
  let total := literals + distances
  let all ← codeLengths code total (total + 1) []
  return (← PrefixCode.ofLengths? (all.take literals),
    ← PrefixCode.ofLengths? (all.drop literals))

/-- **Read blocks** up to the last one; `fuel` bounds the number of blocks and of their symbols. -/
def blocks : Nat → Array UInt8 → Reader (Array UInt8)
  | 0, _ => failure
  | fuel + 1, out => do
    let isLast ← Bits.next?
    let kind ← Bits.number 2
    let out ←
      if kind = 0 then stored out
      else if kind = 1 then
        symbols (← PrefixCode.ofLengths? fixedLiterals)
          (← PrefixCode.ofLengths? (List.replicate 32 5)) (fuel + 1) out
      else if kind = 2 then
        let (literals, distances) ← transmittedCodes
        symbols literals distances (fuel + 1) out
      else failure
    if isLast then return out else blocks fuel out

/-- **The data of a deflated stream**, and the octets behind it. Every step takes at least one bit,
so the number of bits bounds the steps. -/
def inflate (b : Bytes) : Option (Bytes × Bytes) := do
  let (out, s) ← (blocks (8 * b.length + 1) #[]).run { rest := b }
  return (out.toList, s.rest)

end TemplateShare.Deflate
