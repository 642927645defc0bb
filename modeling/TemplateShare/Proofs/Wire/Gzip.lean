import TemplateShare.Text.Gzip

/-! # Packed bodies

What has been packed is unpacked again. The packer only stores octets in blocks, so of the reader of
deflated data only the stored blocks matter here.

* **`Deflate.blocks_storedBlocks`** — stored blocks are read as their octets.
* **`Gzip.decompress_compress`** — the data of a container. -/

namespace TemplateShare

/-! ## Stored blocks -/

namespace Deflate

/-- **Octets are read one by one.** -/
theorem octets_append (b rest : Bytes) (out : Array UInt8) :
    (octets b.length out).run ⟨[], b ++ rest⟩ = some (out ++ b.toArray, ⟨[], rest⟩) := by
  induction b generalizing out with
  | nil => simp [octets]
  | cons x b ih =>
    have hnext : (octets (b.length + 1) out).run ⟨[], x :: (b ++ rest)⟩ =
        (octets b.length (out.push x)).run ⟨[], b ++ rest⟩ := rfl
    rw [List.length_cons, List.cons_append, hnext, ih]
    simp

/-- A number below the limit is read from its two octets. -/
theorem word_littleEndian {n : Nat} (h : n ≤ 0xFFFF) (rest : Bytes) :
    word.run ⟨[], Gzip.littleEndian 2 n ++ rest⟩ = some (n, ⟨[], rest⟩) := by
  have hread : word.run ⟨[], Gzip.littleEndian 2 n ++ rest⟩ =
      some ((UInt8.ofNat n).toNat + 256 * (UInt8.ofNat (n / 256)).toNat, ⟨[], rest⟩) := rfl
  have hvalue : (UInt8.ofNat n).toNat + 256 * (UInt8.ofNat (n / 256)).toNat = n := by
    rw [UInt8.toNat_ofNat', UInt8.toNat_ofNat']
    omega
  rw [hread, hvalue]

/-- The octets of a stored block are read behind its first octet. -/
theorem stored_run {b : Bytes} (h : b.length ≤ 0xFFFF) (pending : List Bool) (rest : Bytes)
    (out : Array UInt8) :
    (stored out).run ⟨pending, Gzip.littleEndian 2 b.length ++
        (Gzip.littleEndian 2 (0xFFFF - b.length) ++ (b ++ rest))⟩ =
      some (out ++ b.toArray, ⟨[], rest⟩) := by
  unfold stored
  rw [StateT.run_bind, StateT.run_modify]
  show (do
    let (n, s) ← word.run ⟨[], Gzip.littleEndian 2 b.length ++
      (Gzip.littleEndian 2 (0xFFFF - b.length) ++ (b ++ rest))⟩
    let (k, s) ← word.run s
    (if n + k = 0xFFFF then octets n out else failure : Reader (Array UInt8)).run s) = _
  rw [word_littleEndian h]
  show (do
    let (k, s) ← word.run ⟨[], Gzip.littleEndian 2 (0xFFFF - b.length) ++ (b ++ rest)⟩
    (if b.length + k = 0xFFFF then octets b.length out else failure : Reader (Array UInt8)).run s) = _
  rw [word_littleEndian (Nat.sub_le _ _)]
  show (if b.length + (0xFFFF - b.length) = 0xFFFF then octets b.length out
    else failure : Reader (Array UInt8)).run _ = _
  rw [if_pos (by omega), octets_append]

/-- **A stored block is read** as its octets, and the reading ends with the last block. -/
theorem blocks_storedBlock {b : Bytes} (h : b.length ≤ 0xFFFF) (isLast : Bool) (fuel : Nat)
    (rest : Bytes) (out : Array UInt8) :
    (blocks (fuel + 1) out).run ⟨[], Gzip.storedBlock isLast b ++ rest⟩ =
      if isLast then some (out ++ b.toArray, ⟨[], rest⟩)
      else (blocks fuel (out ++ b.toArray)).run ⟨[], rest⟩ := by
  have hblock : Gzip.storedBlock isLast b ++ rest = (if isLast then 1 else 0) ::
      (Gzip.littleEndian 2 b.length ++ (Gzip.littleEndian 2 (0xFFFF - b.length) ++ (b ++ rest))) := by
    simp [Gzip.storedBlock]
  have hstored := stored_run h (List.replicate 5 false) rest out
  rw [hblock]
  cases isLast with
  | true =>
    show ((stored out).run ⟨List.replicate 5 false, _⟩).bind _ = _
    rw [hstored]
    rfl
  | false =>
    show ((stored out).run ⟨List.replicate 5 false, _⟩).bind _ = _
    rw [hstored]
    rfl

/-- **Stored blocks are read as their octets.** -/
theorem blocks_storedBlocks (b : Bytes) {fuel : Nat} (hfuel : b.length < fuel) (rest : Bytes)
    (out : Array UInt8) :
    (blocks fuel out).run ⟨[], Gzip.storedBlocks b ++ rest⟩ =
      some (out ++ b.toArray, ⟨[], rest⟩) := by
  obtain ⟨fuel, rfl⟩ : ∃ k, fuel = k + 1 := ⟨fuel - 1, by omega⟩
  rw [Gzip.storedBlocks]
  by_cases h : b.length ≤ Gzip.blockSize
  · rw [if_pos h, blocks_storedBlock h]
    rfl
  · have hsize : Gzip.blockSize = 0xFFFF := rfl
    -- The first block is full, and what is left is shorter.
    have hshort : (b.drop Gzip.blockSize).length < fuel := by
      rw [List.length_drop]
      omega
    have htake : (b.take Gzip.blockSize).length ≤ 0xFFFF := List.length_take_le _ _
    rw [if_neg h, List.append_assoc, blocks_storedBlock htake, if_neg Bool.false_ne_true,
      blocks_storedBlocks _ hshort]
    have hparts : (b.take Gzip.blockSize).toArray ++ (b.drop Gzip.blockSize).toArray = b.toArray := by
      simp
    rw [Array.append_assoc, hparts]
termination_by b.length
decreasing_by
  rw [List.length_drop]
  have : Gzip.blockSize = 0xFFFF := rfl
  omega

end Deflate

/-! ## Containers -/

namespace Gzip

/-- Stored blocks are no shorter than their octets. -/
theorem length_le_storedBlocks (b : Bytes) : b.length ≤ (storedBlocks b).length := by
  rw [storedBlocks]
  by_cases h : b.length ≤ blockSize
  · rw [if_pos h]
    simp only [storedBlock, List.length_append, List.length_cons, length_littleEndian]
    omega
  · have hsize : blockSize = 0xFFFF := rfl
    have hrest := length_le_storedBlocks (b.drop blockSize)
    rw [if_neg h]
    simp only [storedBlock, List.length_append, List.length_cons, length_littleEndian,
      List.length_take, List.length_drop] at hrest ⊢
    omega
termination_by b.length
decreasing_by
  rw [List.length_drop]
  have : blockSize = 0xFFFF := rfl
  omega

/-- **What has been packed is unpacked again.** -/
theorem decompress_compress (b : Bytes) : decompress (compress b) = some b := by
  have hheader (rest : Bytes) : skipHeader? (header ++ rest) = some rest := by
    simp [header, skipHeader?]
  have hlen := length_le_storedBlocks b
  have hinflate (rest : Bytes) : Deflate.inflate (storedBlocks b ++ rest) = some (b, rest) := by
    have hfuel : b.length < 8 * (storedBlocks b ++ rest).length + 1 := by
      rw [List.length_append]
      omega
    unfold Deflate.inflate
    rw [Deflate.blocks_storedBlocks b hfuel rest #[]]
    simp
  unfold decompress compress
  rw [List.append_assoc, List.append_assoc, hheader]
  show (Deflate.inflate _).bind _ = _
  rw [hinflate, Option.bind_some]
  show (if _ then some b else none) = some b
  rw [if_pos]
  exact List.take_of_length_le (by simp)

end Gzip

end TemplateShare
