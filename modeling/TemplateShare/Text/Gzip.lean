import TemplateShare.Text.Inflate

/-! # Gzip containers

A gzip container holds deflated data with a checksum and the size of the data.

* **`Gzip.crc32`**: the checksum.
* **`Gzip.compress`**: a container, whose data are stored as they are.
* **`Gzip.decompress`**: the data of a container, if they are intact. What follows the container
  does not count. -/

namespace TemplateShare.Gzip

/-! ## Checksum -/

/-- One step of the division by the generator polynomial, least significant bit first. -/
def crcStep (r : UInt32) : UInt32 :=
  if r &&& 1 = 1 then (r >>> 1) ^^^ 0xEDB88320 else r >>> 1

/-- Take up an octet. -/
def crcOctet (r : UInt32) (b : UInt8) : UInt32 := Nat.repeat crcStep 8 (r ^^^ b.toUInt32)

/-- **The checksum** of octets. -/
def crc32 (b : Bytes) : UInt32 := b.foldl crcOctet 0xFFFFFFFF ^^^ 0xFFFFFFFF

/-! ## Writing -/

/-- A number as octets, the least significant one first. -/
def littleEndian : Nat → Nat → Bytes
  | 0, _ => []
  | width + 1, n => UInt8.ofNat n :: littleEndian width (n / 256)

@[simp] theorem length_littleEndian (width n : Nat) : (littleEndian width n).length = width := by
  induction width generalizing n with
  | zero => rfl
  | succ w ih => simp [littleEndian, ih]

/-- The most octets that one stored block holds. -/
def blockSize : Nat := 0xFFFF

/-- A block of octets as they are. -/
def storedBlock (isLast : Bool) (b : Bytes) : Bytes :=
  (if isLast then 1 else 0) :: littleEndian 2 b.length ++ littleEndian 2 (0xFFFF - b.length) ++ b

/-- **Octets in stored blocks.** -/
def storedBlocks (b : Bytes) : Bytes :=
  if b.length ≤ blockSize then storedBlock true b
  else storedBlock false (b.take blockSize) ++ storedBlocks (b.drop blockSize)
termination_by b.length
decreasing_by simp only [List.length_drop, blockSize] at *; omega

/-- The ten octets at the start of a container without a name. -/
def header : Bytes := [0x1F, 0x8B, 8, 0, 0, 0, 0, 0, 0, 0xFF]

/-- **A container** with the given data. -/
def compress (b : Bytes) : Bytes :=
  header ++ storedBlocks b ++ littleEndian 4 (crc32 b).toNat ++ littleEndian 4 b.length

/-! ## Reading -/

/-- The octets behind the next zero. -/
def skipText? : Bytes → Option Bytes
  | [] => none
  | 0 :: bs => some bs
  | _ :: bs => skipText? bs

/-- The octets behind a field that starts with its length. -/
def skipField? : Bytes → Option Bytes
  | low :: high :: bs =>
    let n := low.toNat + 256 * high.toNat
    if n ≤ bs.length then some (bs.drop n) else none
  | _ => none

/-- The octets behind a checksum of the header before it. -/
def skipChecksum? (whole : Bytes) : Bytes → Option Bytes
  | low :: high :: bs =>
    let read := whole.take (whole.length - (bs.length + 2))
    if (crc32 read).toNat % 0x10000 = low.toNat + 256 * high.toNat then some bs else none
  | _ => none

/-- **The octets behind the header.** Flags say which optional parts it has. -/
def skipHeader? (b : Bytes) : Option Bytes :=
  match b with
  | 0x1F :: 0x8B :: 8 :: flags :: _ :: _ :: _ :: _ :: _ :: _ :: rest => do
    let has (bit : Nat) : Bool := flags.toNat.testBit bit
    if flags.toNat ≥ 32 then failure
    let rest ← if has 2 then skipField? rest else some rest
    let rest ← if has 3 then skipText? rest else some rest
    let rest ← if has 4 then skipText? rest else some rest
    if has 1 then skipChecksum? b rest else some rest
  | _ => none

/-- **The data of a container.** Checksum and size have to be those of the data. -/
def decompress (b : Bytes) : Option Bytes := do
  let (data, rest) ← Deflate.inflate (← skipHeader? b)
  let check := littleEndian 4 (crc32 data).toNat ++ littleEndian 4 data.length
  if rest.take 8 = check then some data else none

end TemplateShare.Gzip
