import Mathlib.Data.List.Induction
import Mathlib.Data.List.TakeWhile
import TemplateShare.Proofs.Decimal
import TemplateShare.Proofs.Url.DomainName
import TemplateShare.Url.Host

/-! # Addresses are read back

An address of version 4 is written as four numbers and one of version 6 as pieces with a gap for its
longest run of zeros. Both are read back, and what is read has the size of an address.

* **`Host.ipv4?_ipv4Text`**, **`Host.lt_of_ipv4?`** — addresses of version 4.
* **`Host.pieces?_joinPieces`**, **`Host.pieces?_gap`** — pieces are read back, without and with a
  gap.
* **`Host.ipv6?_ipv6Text`**, **`Host.of_ipv6?`** — addresses of version 6. -/

namespace TemplateShare

namespace Hex

/-- A digit is below sixteen. -/
theorem value?_lt {c : Char} {d : Nat} (h : value? c = some d) : d < 16 := by
  unfold value? at h
  simp only [Char.le_def, UInt32.le_iff_toNat_le] at h
  have hnat : c.toNat = c.val.toNat := rfl
  split at h
  · next hc =>
    cases h
    have : c.val.toNat ≤ 57 := hc.2
    have h0 : '0'.toNat = 48 := rfl
    omega
  · split at h
    · next hc =>
      cases h
      have : c.val.toNat ≤ 102 := hc.2
      have h0 : 'a'.toNat = 97 := rfl
      omega
    · split at h
      · next hc =>
        cases h
        have : c.val.toNat ≤ 70 := hc.2
        have h0 : 'A'.toNat = 65 := rfl
        omega
      · cases h

/-- Digits have the value that their number allows. -/
theorem number?_lt {s : List Char} {n : Nat} (h : number? s = some n) :
    n < Nat.pow 16 s.length := by
  induction s using List.reverseRecOn generalizing n with
  | nil =>
    cases h
    exact Nat.one_pos
  | append_singleton s c ih =>
    simp only [number?, List.foldl_append, List.foldl_cons, List.foldl_nil] at h
    cases hs : number? s with
    | none => simp_all [number?]
    | some m =>
      cases hc : value? c with
      | none => simp_all [number?]
      | some d =>
        have hm := ih hs
        have hd := value?_lt hc
        have hn : n = m * 16 + d := by
          simp_all [number?]
        rw [hn, List.length_append, List.length_singleton]
        show m * 16 + d < Nat.pow 16 s.length * 16
        omega

end Hex

namespace Url.Host

/-! ## Addresses of version 4 -/

/-- A number in decimal is read back. -/
theorem number?_digits (n : Nat) : number? (Nat.toDigits 10 n) = some n := by
  have hnumber := Decimal.natural?_digits n
  obtain ⟨c, r, hcr, -⟩ := Yaml.Plain.exists_digits n
  have hzero : ∀ x t, c :: r ≠ '0' :: x :: t := fun x t h =>
    Yaml.Plain.digits_ne_zero_cons n x t (hcr.trans h)
  rw [hcr] at hnumber ⊢
  unfold number?
  split
  · next h => cases h
  · next h => exact absurd h (hzero _ _)
  · next h => exact absurd h (hzero _ _)
  · next h => exact absurd h (hzero _ _)
  · exact hnumber

/-- **The four numbers of an address.** -/
def octets (n : Nat) : List Nat := [n / 0x1000000, n / 0x10000 % 256, n / 0x100 % 256, n % 256]

/-- The labels of an address. -/
def octetLabels (n : Nat) : List (List Char) := (octets n).map (Nat.toDigits 10)

/-- The text of an address is made of them. -/
theorem ipv4Text_eq (n : Nat) : ipv4Text n = List.intercalate ['.'] (octetLabels n) := rfl

/-- They have no full stop. -/
theorem dot_notMem_octetLabels {n : Nat} {l : List Char} (h : l ∈ octetLabels n) : '.' ∉ l := by
  obtain ⟨m, -, rfl⟩ := List.mem_map.1 h
  exact fun hdot => absurd (Decimal.isDigit_of_mem_digits hdot) (by decide)

/-- They are the parts of the text. -/
theorem parts_ipv4Text (n : Nat) : parts (ipv4Text n) = octetLabels n := by
  have hlabels : DomainName.labels (ipv4Text n) = octetLabels n := by
    rw [DomainName.labels_eq, ipv4Text_eq, piecesAt_intercalate (by simp [octetLabels, octets])
      fun l => dot_notMem_octetLabels]
  have hlast : (octetLabels n).getLast? ≠ some [] := by
    intro h
    obtain ⟨m, -, hm⟩ := List.mem_map.1 (List.mem_of_getLast? h)
    exact Nat.toDigits_ne_nil hm
  unfold parts
  dsimp only
  rw [hlabels, if_neg fun h => hlast h.2]

/-- The address that octets and a last number make up. -/
def assemble (ns : List Nat) (last : Nat) : Nat :=
  ns.zipIdx.foldl (fun address (n, i) => address + n * Nat.pow 256 (3 - i)) last

/-- **What an address of version 4 is**: up to four numbers, of which the last stands for all octets
that are left. -/
theorem ipv4?_eq_some_iff {s : List Char} {n : Nat} : ipv4? s = some n ↔
    ∃ ns last, (parts s).mapM number? = some (ns ++ [last]) ∧ ns.length ≤ 3 ∧
      (∀ m ∈ ns, m ≤ 255) ∧ last < Nat.pow 256 (4 - ns.length) ∧ assemble ns last = n := by
  have hlength {ms : List Nat} (h : (parts s).mapM number? = some ms) :
      ms.length = (parts s).length := by
    have hmap := congrArg List.length (mapM_eq_some_iff.1 h)
    rwa [List.length_map, List.length_map, eq_comm] at hmap
  unfold ipv4?
  dsimp only
  -- More than four parts are rejected before they are read.
  by_cases hmany : 4 < (parts s).length
  · rw [if_pos hmany]
    refine iff_of_false (fun h => nomatch h) ?_
    rintro ⟨ns, last, hns, hfew, -⟩
    have := hlength hns
    rw [List.length_append, List.length_singleton] at this
    omega
  rw [if_neg hmany]
  cases hns : (parts s).mapM number? with
  | none => simp
  | some ms =>
    rcases List.eq_nil_or_concat ms with rfl | ⟨ns, last, rfl⟩
    · simp
    · have hfew := hlength hns
      have hfirst : ns.length ≤ 3 := by
        rw [List.length_concat] at hfew
        omega
      simp only [Option.bind_eq_bind, Option.bind_some, List.concat_eq_append, List.dropLast_concat,
        List.getLast?_concat, Option.some.injEq, List.append_singleton_inj]
      constructor
      · intro h
        split at h
        · cases h
        · next hbounds =>
          simp only [List.any_eq_true, decide_eq_true_eq, not_or, not_exists, not_and,
            Nat.not_lt, Nat.not_le] at hbounds
          exact ⟨ns, last, ⟨rfl, rfl⟩, hfirst, hbounds.1, hbounds.2, Option.some.inj h⟩
      · rintro ⟨ns, last, ⟨rfl, rfl⟩, -, hoctets, hlast, rfl⟩
        rw [if_neg]
        · rfl
        · simp only [List.any_eq_true, decide_eq_true_eq, not_or, not_exists, not_and,
            Nat.not_lt, Nat.not_le]
          exact ⟨hoctets, hlast⟩

/-- **An address of version 4 is read back.** -/
theorem ipv4?_ipv4Text {n : Nat} (h : n < 0x100000000) : ipv4? (ipv4Text n) = some n := by
  have hnumbers : (octetLabels n).mapM number? = some (octets n) := by
    rw [mapM_eq_some_iff, octetLabels, List.map_map]
    exact List.map_congr_left fun m _ => number?_digits m
  rw [ipv4?_eq_some_iff, parts_ipv4Text]
  refine ⟨[n / 0x1000000, n / 0x10000 % 256, n / 0x100 % 256], n % 256, hnumbers, Nat.le_refl 3,
    ?_, Nat.mod_lt _ (by decide), ?_⟩
  · simp only [List.mem_cons, List.not_mem_nil, or_false]
    rintro m (rfl | rfl | rfl) <;> omega
  · show n % 256 + n / 0x1000000 * 0x1000000 + n / 0x10000 % 256 * 0x10000 +
      n / 0x100 % 256 * 0x100 = n
    omega

/-- Octets leave the room that is below them to the last number. -/
theorem foldl_octets_le {ns : List Nat} {k : Nat} (last : Nat) (hns : ∀ m ∈ ns, m ≤ 255)
    (hk : k + ns.length ≤ 3) :
    (ns.zipIdx k).foldl (fun address (n, i) => address + n * Nat.pow 256 (3 - i)) last +
      Nat.pow 256 (4 - (k + ns.length)) ≤ last + Nat.pow 256 (4 - k) := by
  induction ns generalizing k last with
  | nil => exact Nat.le_refl _
  | cons m ns ih =>
    rw [List.length_cons] at hk ⊢
    have hm := hns m List.mem_cons_self
    have hrest := ih (last + m * Nat.pow 256 (3 - k))
      (fun x hx => hns x (List.mem_cons_of_mem m hx))
      (show k + 1 + ns.length ≤ 3 by omega)
    have hpow : Nat.pow 256 (4 - k) = 256 * Nat.pow 256 (3 - k) := by
      rw [show 4 - k = 3 - k + 1 by omega, Nat.pow_eq, Nat.pow_succ, Nat.mul_comm]
      rfl
    -- One octet takes up to 255 of 256 parts, and the octets behind it stay within one part.
    have hroom : (m + 1) * Nat.pow 256 (3 - k) ≤ 256 * Nat.pow 256 (3 - k) :=
      Nat.mul_le_mul_right _ (by omega)
    rw [Nat.add_mul, Nat.one_mul] at hroom
    rw [show 4 - (k + 1) = 3 - k by omega, show k + 1 + ns.length = k + (ns.length + 1) by omega]
      at hrest
    rw [List.zipIdx_cons, List.foldl_cons]
    refine Nat.le_trans hrest ?_
    rw [hpow]
    omega

/-- An address of version 4 has 32 bits. -/
theorem lt_of_ipv4? {s : List Char} {n : Nat} (h : ipv4? s = some n) : n < 0x100000000 := by
  obtain ⟨ns, last, -, hlength, hns, hlast, rfl⟩ := ipv4?_eq_some_iff.1 h
  have hle := foldl_octets_le (k := 0) last hns (by omega)
  rw [Nat.zero_add] at hle
  have hall : Nat.pow 256 (4 - 0) = 0x100000000 := rfl
  unfold assemble
  omega

/-! ## Pieces of addresses of version 6 -/

/-- A piece is written in hexadecimal digits. -/
theorem mem_pieceText {n : Nat} {c : Char} (h : c ∈ pieceText n) :
    ∃ d < 16, c = Nat.digitChar d := by
  unfold pieceText at h
  induction n using Nat.base_induction 16 (by decide) with
  | single m hm =>
    rw [Nat.toDigits_of_lt_base hm, List.mem_singleton] at h
    exact ⟨m, hm, h⟩
  | digit m k hk hm ih =>
    rw [← Nat.toDigits_append_toDigits (by decide) hm hk, List.mem_append,
      Nat.toDigits_of_lt_base hk, List.mem_singleton] at h
    rcases h with h | h
    · exact ih h
    · exact ⟨k, hk, h⟩

/-- The value of a digit. -/
theorem value?_digitChar {n : Nat} (h : n < 16) : Hex.value? (Nat.digitChar n) = some n :=
  (by decide : ∀ n < 16, Hex.value? (Nat.digitChar n) = some n) n h

/-- **A piece is read back.** -/
theorem number?_pieceText (n : Nat) : Hex.number? (pieceText n) = some n := by
  unfold pieceText
  induction n using Nat.base_induction 16 (by decide) with
  | single m hm =>
    rw [Nat.toDigits_of_lt_base hm]
    exact (by decide : ∀ n < 16, Hex.number? [Nat.digitChar n] = some n) m hm
  | digit m k hk hm ih =>
    rw [← Nat.toDigits_append_toDigits (by decide) hm hk, Nat.toDigits_of_lt_base hk,
      Hex.number?_append_singleton ih (value?_digitChar hk), Nat.mul_comm]

/-- A piece has a digit. -/
theorem exists_pieceText (n : Nat) :
    ∃ c t, pieceText n = c :: t ∧ (Hex.value? c).isSome = true ∧ c ≠ ':' := by
  obtain ⟨c, t, h⟩ := List.exists_cons_of_ne_nil (Nat.toDigits_ne_nil (n := n) (b := 16))
  obtain ⟨d, hd, rfl⟩ := mem_pieceText (n := n) (c := c) (by
    rw [pieceText, h]
    exact List.mem_cons_self)
  exact ⟨_, t, h, by rw [value?_digitChar hd]; rfl,
    (by decide : ∀ d < 16, Nat.digitChar d ≠ ':') d hd⟩

/-- A piece has up to four digits. -/
theorem length_pieceText {n : Nat} (h : n < 0x10000) : (pieceText n).length ≤ 4 :=
  (Nat.length_toDigits_le_iff (by decide) (by decide)).2 h

/-- The digits in front of what does not start with one. -/
theorem takeWhile_pieceText {n : Nat} (h : n < 0x10000) {r : List Char}
    (hr : ∀ c ∈ r.head?, (Hex.value? c).isSome = false) :
    ((pieceText n ++ r).take 4).takeWhile (fun c => (Hex.value? c).isSome) = pieceText n := by
  have hdigits : ∀ c ∈ pieceText n, (Hex.value? c).isSome = true := by
    intro c hc
    obtain ⟨d, hd, rfl⟩ := mem_pieceText hc
    rw [value?_digitChar hd]
    rfl
  have hrest : ∀ k, (r.take k).takeWhile (fun c => (Hex.value? c).isSome) = [] := by
    intro k
    cases r with
    | nil => rw [List.take_nil, List.takeWhile_nil]
    | cons c r =>
      cases k with
      | zero => rfl
      | succ k =>
        rw [List.take_succ_cons, List.takeWhile_cons_of_neg]
        simpa using hr c rfl
  rw [List.take_append, List.take_of_length_le (length_pieceText h),
    List.takeWhile_append_of_pos hdigits, hrest, List.append_nil]

variable {fuel count n : Nat} {hasGap : Bool}

/-- **The last piece** is read. -/
theorem pieces?_last (hcount : count < 8) (hn : n < 0x10000) :
    pieces? (fuel + 1) count hasGap (pieceText n) = some ([n], none) := by
  obtain ⟨c, t, hcons, -, hcolon⟩ := exists_pieceText n
  have hdigits := takeWhile_pieceText hn (r := []) (fun _ hc => nomatch hc)
  have hnumber := number?_pieceText n
  rw [List.append_nil] at hdigits
  rw [hcons] at hdigits hnumber ⊢
  rw [pieces?]
  · simp only [hdigits, List.isEmpty_cons, Bool.false_eq_true, if_false, Nat.not_le.2 hcount,
      List.drop_length, hnumber]
    rfl
  · exact fun r h => hcolon (List.cons.inj h).1

/-- **A piece in front of a colon** is read. -/
theorem pieces?_cons (hcount : count < 8) (hn : n < 0x10000) {r : List Char} (hr : r ≠ []) :
    pieces? (fuel + 1) count hasGap (pieceText n ++ ':' :: r) =
      (pieces? fuel (count + 1) hasGap r).map fun x => (n :: x.1, x.2.map (· + 1)) := by
  obtain ⟨c, t, hcons, -, hcolon⟩ := exists_pieceText n
  have hdigits := takeWhile_pieceText hn (r := ':' :: r) (fun x hx => by
    obtain rfl := Option.some.inj hx
    rfl)
  have hnumber := number?_pieceText n
  have hempty : r.isEmpty = false := List.isEmpty_eq_false_iff.2 hr
  rw [hcons] at hdigits hnumber ⊢
  have hdrop : ((c :: t) ++ ':' :: r).drop (c :: t).length = ':' :: r := List.drop_left
  rw [List.cons_append] at hdigits hdrop ⊢
  rw [pieces?]
  · simp only [hdigits, hdrop, List.isEmpty_cons, Bool.false_eq_true, if_false,
      Nat.not_le.2 hcount, hempty, hnumber]
    cases pieces? fuel (count + 1) hasGap r <;> rfl
  · exact fun r h => hcolon (List.cons.inj h).1

/-- Pieces with colons between them. -/
def joinPieces (ps : List Nat) : List Char := List.intercalate [':'] (ps.map pieceText)

/-- A piece in front of others. -/
theorem joinPieces_cons_cons (p q : Nat) (ps : List Nat) :
    joinPieces (p :: q :: ps) = pieceText p ++ ':' :: joinPieces (q :: ps) := by
  simp [joinPieces, List.intercalate_cons_cons]

/-- Pieces are written. -/
theorem joinPieces_ne_nil {ps : List Nat} (h : ps ≠ []) : joinPieces ps ≠ [] := by
  obtain ⟨p, ps, rfl⟩ := List.exists_cons_of_ne_nil h
  obtain ⟨c, t, hcons, -⟩ := exists_pieceText p
  cases ps with
  | nil => simp [joinPieces, hcons]
  | cons q ps => simp [joinPieces_cons_cons]

/-- **Pieces are read back.** -/
theorem pieces?_joinPieces {ps : List Nat} (hps : ∀ p ∈ ps, p < 0x10000)
    (hcount : count + ps.length ≤ 8) (hfuel : ps.length < fuel) :
    pieces? fuel count hasGap (joinPieces ps) = some (ps, none) := by
  induction ps generalizing count fuel with
  | nil =>
    obtain ⟨fuel, rfl⟩ : ∃ k, fuel = k + 1 := ⟨fuel - 1, by omega⟩
    rfl
  | cons p ps ih =>
    rw [List.length_cons] at hcount hfuel
    obtain ⟨fuel, rfl⟩ : ∃ k, fuel = k + 1 := ⟨fuel - 1, by omega⟩
    have hp := hps p List.mem_cons_self
    cases ps with
    | nil =>
      rw [show joinPieces [p] = pieceText p by simp [joinPieces]]
      exact pieces?_last (by omega) hp
    | cons q ps =>
      rw [joinPieces_cons_cons, pieces?_cons (by omega) hp (joinPieces_ne_nil (by simp)),
        ih (fun x hx => hps x (List.mem_cons_of_mem p hx)) (by omega) (by omega)]
      rfl

/-- **Pieces on both sides of a gap are read back.** -/
theorem pieces?_gap {ps qs : List Nat} (hne : ps ≠ []) (hps : ∀ p ∈ ps, p < 0x10000)
    (hqs : ∀ q ∈ qs, q < 0x10000) (hcount : count + ps.length + 1 + qs.length ≤ 8)
    (hfuel : ps.length + 1 + qs.length < fuel) :
    pieces? fuel count false (joinPieces ps ++ ':' :: ':' :: joinPieces qs) =
      some (ps ++ qs, some ps.length) := by
  induction ps generalizing count fuel with
  | nil => exact absurd rfl hne
  | cons p ps ih =>
    rw [List.length_cons] at hcount hfuel
    obtain ⟨fuel, rfl⟩ : ∃ k, fuel = k + 1 := ⟨fuel - 1, by omega⟩
    have hp := hps p List.mem_cons_self
    cases ps with
    | nil =>
      obtain ⟨fuel, rfl⟩ : ∃ k, fuel = k + 1 := ⟨fuel - 1, by omega⟩
      -- Behind the last piece in front of the gap, the second colon is the gap itself.
      have hrest : pieces? (fuel + 1) (count + 1) false (':' :: joinPieces qs) =
          some (qs, some 0) := by
        rw [List.length_nil] at hcount hfuel
        rw [pieces?]
        simp only [List.isEmpty_cons, Bool.false_eq_true, if_false,
          Nat.not_le.2 (show count + 1 < 8 by omega)]
        rw [pieces?_joinPieces hqs (by omega) (by omega)]
        rfl
      rw [show joinPieces [p] = pieceText p by simp [joinPieces],
        pieces?_cons (by omega) hp (List.cons_ne_nil _ _), hrest]
      rfl
    | cons q ps =>
      rw [joinPieces_cons_cons, List.append_assoc, List.cons_append,
        pieces?_cons (by omega) hp (by simp),
        ih (List.cons_ne_nil q ps) (fun x hx => hps x (List.mem_cons_of_mem p hx)) (by omega)
          (by omega)]
      rfl

/-- Every piece takes a character. -/
theorem length_le_joinPieces (ps : List Nat) : ps.length ≤ (joinPieces ps).length := by
  induction ps with
  | nil => exact Nat.zero_le _
  | cons p ps ih =>
    obtain ⟨c, t, hcons, -⟩ := exists_pieceText p
    cases ps with
    | nil => simp [joinPieces, hcons]
    | cons q ps =>
      have hlength : (joinPieces (p :: q :: ps)).length =
          t.length + (joinPieces (q :: ps)).length + 2 := by
        simp only [joinPieces_cons_cons, hcons, List.length_append, List.length_cons]
        omega
      rw [hlength, List.length_cons]
      omega

/-- They do not start with a colon. -/
theorem head?_joinPieces {ps : List Nat} (h : ps ≠ []) (r : List Char) :
    (joinPieces ps ++ r).head? ≠ some ':' := by
  obtain ⟨p, ps, rfl⟩ := List.exists_cons_of_ne_nil h
  obtain ⟨c, t, hcons, -, hcolon⟩ := exists_pieceText p
  cases ps with
  | nil => simp [joinPieces, hcons, hcolon]
  | cons q ps => simp [joinPieces_cons_cons, hcons, hcolon]

/-! ## Runs of zeros -/

/-- A run of zeros is there. -/
theorem eq_of_zeros {ps : List Nat} {i : Nat} : ps =
    ps.take i ++ List.replicate (zeros (ps.drop i)) 0 ++ ps.drop (i + zeros (ps.drop i)) := by
  have hrun : (ps.drop i).takeWhile (· == 0) = List.replicate (zeros (ps.drop i)) 0 :=
    List.eq_replicate_iff.2 ⟨rfl, fun x hx => by simpa using List.mem_takeWhile_imp hx⟩
  have hsplit : (ps.drop i).takeWhile (· == 0) ++ (ps.drop i).drop (zeros (ps.drop i)) =
      ps.drop i := List.prefix_iff_eq_append.1 (List.takeWhile_prefix _)
  rw [hrun, List.drop_drop] at hsplit
  rw [List.append_assoc, hsplit, List.take_append_drop]

/-- **The longest run of zeros** has at least two of them. -/
theorem longestZeros_eq_some {ps : List Nat} :
    ∀ run, longestZeros ps = some run → 2 ≤ run.2 ∧ run.2 = zeros (ps.drop run.1) := by
  unfold longestZeros
  -- Every run that is the best one on the way has the property.
  refine List.foldlRecOn (motive := fun best : Option (Nat × Nat) =>
    ∀ r, best = some r → 2 ≤ r.2 ∧ r.2 = zeros (ps.drop r.1)) _ _ (fun _ hr => by cases hr) ?_
  intro best hbest x hx r hr
  obtain ⟨i, -, rfl⟩ := List.mem_map.1 hx
  dsimp only at hr
  split at hr
  · exact hbest r hr
  · split at hr
    · split at hr
      · cases hr
        exact ⟨by omega, rfl⟩
      · exact hbest r hr
    · cases hr
      exact ⟨by omega, rfl⟩

/-! ## Addresses of version 6 -/

/-- Eight pieces from those that were read: the gap stands for as many zeros as are missing. -/
def spread : List Nat × Option Nat → Option (List Nat)
  | (ps, some gap) =>
    if ps.length ≤ 7 then some (ps.take gap ++ List.replicate (8 - ps.length) 0 ++ ps.drop gap)
    else none
  | (ps, none) => if ps.length = 8 then some ps else none

/-- An address that starts with a gap. -/
theorem ipv6?_gap (r : List Char) : ipv6? (':' :: ':' :: r) =
    (pieces? (r.length + 1) 1 true r).bind fun x => spread (x.1, some 0) := by
  unfold ipv6?
  split
  · next heq =>
    cases heq
    cases pieces? (r.length + 1) 1 true r <;> rfl
  · next hnot heq =>
    cases heq
    exact absurd rfl (hnot r)
  · next heq => cases heq
  · next heq => cases heq
  · next hnot _ _ _ => exact absurd rfl (hnot r)

/-- An address that starts with a piece. -/
theorem ipv6?_piece {s : List Char} (hhead : s.head? ≠ some ':') (htwo : 2 ≤ s.length) :
    ipv6? s = (pieces? (s.length + 1) 0 false s).bind spread := by
  unfold ipv6?
  split
  · exact absurd rfl hhead
  · exact absurd rfl hhead
  · exact absurd htwo (by decide)
  · exact absurd htwo (by decide : ¬2 ≤ 1)
  · rfl

/-- **What an address of version 6 looks like**: its pieces, or those on both sides of a run of at
least two zeros. -/
theorem ipv6Text_cases (ps : List Nat) : ipv6Text ps = joinPieces ps ∨
    ∃ qs k rs, 2 ≤ k ∧ ps = qs ++ List.replicate k 0 ++ rs ∧
      ipv6Text ps = joinPieces qs ++ ':' :: ':' :: joinPieces rs := by
  cases hrun : longestZeros ps with
  | none =>
    left
    simp only [ipv6Text, hrun]
    rfl
  | some run =>
    obtain ⟨htwo, hzeros⟩ := longestZeros_eq_some run hrun
    refine .inr ⟨ps.take run.1, run.2, ps.drop (run.1 + run.2), htwo, ?_, ?_⟩
    · rw [hzeros]
      exact eq_of_zeros
    · simp only [ipv6Text, hrun, List.append_assoc]
      rfl

/-- An address without a gap is read back. -/
theorem ipv6?_joinPieces {ps : List Nat} (hlength : ps.length = 8) (hps : ∀ p ∈ ps, p < 0x10000) :
    ipv6? (joinPieces ps) = some ps := by
  have hjoin := length_le_joinPieces ps
  have hne : ps ≠ [] := by
    rintro rfl
    cases hlength
  have hhead := head?_joinPieces hne []
  rw [List.append_nil] at hhead
  rw [ipv6?_piece hhead (by omega), pieces?_joinPieces hps (by omega) (by omega)]
  exact if_pos hlength

/-- An address with a gap is read back. -/
theorem ipv6?_joinPieces_gap {qs rs : List Nat} {k : Nat} (htwo : 2 ≤ k)
    (hlength : qs.length + k + rs.length = 8) (hqs : ∀ q ∈ qs, q < 0x10000)
    (hrs : ∀ r ∈ rs, r < 0x10000) :
    ipv6? (joinPieces qs ++ ':' :: ':' :: joinPieces rs) =
      some (qs ++ List.replicate k 0 ++ rs) := by
  have hleft := length_le_joinPieces qs
  have hright := length_le_joinPieces rs
  have hspread : spread (qs ++ rs, some qs.length) = some (qs ++ List.replicate k 0 ++ rs) := by
    have hmissing : 8 - (qs ++ rs).length = k := by
      rw [List.length_append]
      omega
    have hroom : (qs ++ rs).length ≤ 7 := by
      rw [List.length_append]
      omega
    simp only [spread, if_pos hroom, hmissing, List.take_left, List.drop_left]
  by_cases hne : qs = []
  · subst hne
    rw [List.length_nil] at hlength
    rw [show joinPieces [] = [] from rfl, List.nil_append, ipv6?_gap,
      pieces?_joinPieces hrs (by omega) (by omega)]
    exact hspread
  · have hshape : (joinPieces qs ++ ':' :: ':' :: joinPieces rs).length =
        (joinPieces qs).length + (joinPieces rs).length + 2 := by
      simp only [List.length_append, List.length_cons]
      omega
    rw [ipv6?_piece (head?_joinPieces hne _) (by omega),
      pieces?_gap hne hqs hrs (by omega) (by omega)]
    exact hspread

/-- **An address of version 6 is read back.** -/
theorem ipv6?_ipv6Text {ps : List Nat} (hlength : ps.length = 8) (hps : ∀ p ∈ ps, p < 0x10000) :
    ipv6? (ipv6Text ps) = some ps := by
  rcases ipv6Text_cases ps with htext | ⟨qs, k, rs, htwo, rfl, htext⟩
  · rw [htext, ipv6?_joinPieces hlength hps]
  · rw [htext, ipv6?_joinPieces_gap htwo (by simpa [Nat.add_assoc] using hlength)
      (fun q hq => hps q (by simp [hq])) fun r hr => hps r (by simp [hr])]

/-! ## What is read -/

/-- The pieces at the end come from octets. -/
theorem lt_of_embedded? {s : List Char} {ps : List Nat} (h : embedded? s = some ps) :
    ∀ p ∈ ps, p < 0x10000 := by
  unfold embedded? at h
  split at h
  · next a b c d hmap =>
    cases h
    have hoctet : ∀ x ∈ [a, b, c, d], x ≤ 255 := by
      intro x hx
      have hmem : some x ∈ (DomainName.labels s).map octet? := by
        rw [mapM_eq_some_iff.1 hmap]
        exact List.mem_map_of_mem hx
      obtain ⟨l, -, hl⟩ := List.mem_map.1 hmem
      unfold octet? at hl
      split at hl
      · cases hl
      · simpa using (Option.filter_eq_some_iff.1 hl).2
    have ha := hoctet a (by simp)
    have hb := hoctet b (by simp)
    have hc := hoctet c (by simp)
    have hd := hoctet d (by simp)
    simp only [List.mem_cons, List.not_mem_nil, or_false]
    rintro p (rfl | rfl) <;> omega
  · cases h

/-- Four digits have sixteen bits. -/
theorem lt_of_digits {s : List Char}
    (h : Hex.number? ((s.take 4).takeWhile fun c => (Hex.value? c).isSome) = some n) :
    n < 0x10000 := by
  have hfour := Nat.le_trans (List.takeWhile_prefix fun c => (Hex.value? c).isSome).length_le
    (List.length_take_le 4 s)
  exact Nat.lt_of_lt_of_le (Hex.number?_lt h) (Nat.pow_le_pow_right (by decide) hfour)

/-- **Pieces have sixteen bits.** -/
theorem lt_of_pieces? {s : List Char} {x : List Nat × Option Nat}
    (h : pieces? fuel count hasGap s = some x) : ∀ p ∈ x.1, p < 0x10000 := by
  induction fuel generalizing count hasGap s x with
  | zero => cases h
  | succ fuel ih =>
    unfold pieces? at h
    split at h
    · cases h
      exact fun _ hp => nomatch hp
    · split at h
      · cases h
      · split at h
        · -- A gap: the pieces are those behind it.
          split at h
          · cases h
          · obtain ⟨y, hy, rfl⟩ := Option.map_eq_some_iff.1 h
            exact ih (x := y) hy
        · dsimp only at h
          split at h
          · cases h
          · split at h
            · -- The last two pieces, written as an address of version 4.
              split at h
              · cases h
              · obtain ⟨y, hy, rfl⟩ := Option.map_eq_some_iff.1 h
                exact lt_of_embedded? hy
            · -- A piece with others behind it; without a colon it is the last one.
              split at h
              · cases h
              · obtain ⟨y, hy, h⟩ := Option.bind_eq_some_iff.1 h
                obtain ⟨n, hn, h⟩ := Option.bind_eq_some_iff.1 h
                cases h
                exact List.forall_mem_cons.2 ⟨lt_of_digits hn, ih hy⟩
            · obtain ⟨n, hn, h⟩ := Option.bind_eq_some_iff.1 h
              cases h
              exact List.forall_mem_singleton.2 (lt_of_digits hn)
            · cases h

/-- Eight pieces are made of those that were read and zeros. -/
theorem of_spread {x : List Nat × Option Nat} {ps : List Nat} (h : spread x = some ps)
    (hx : ∀ p ∈ x.1, p < 0x10000) : ps.length = 8 ∧ ∀ p ∈ ps, p < 0x10000 := by
  obtain ⟨qs, gap⟩ := x
  dsimp only at hx
  cases gap with
  | none =>
    obtain ⟨hlength, rfl⟩ : qs.length = 8 ∧ qs = ps := by simpa [spread] using h
    exact ⟨hlength, hx⟩
  | some gap =>
    obtain ⟨hroom, rfl⟩ : qs.length ≤ 7 ∧
        qs.take gap ++ (List.replicate (8 - qs.length) 0 ++ qs.drop gap) = ps := by
      simpa [spread] using h
    constructor
    · simp only [List.length_append, List.length_take, List.length_replicate, List.length_drop]
      omega
    · intro p hp
      rcases List.mem_append.1 hp with hp | hp
      · exact hx p (List.mem_of_mem_take hp)
      · rcases List.mem_append.1 hp with hp | hp
        · rw [List.eq_of_mem_replicate hp]
          decide
        · exact hx p (List.mem_of_mem_drop hp)

/-- **An address of version 6 has eight pieces** of sixteen bits. -/
theorem of_ipv6? {s : List Char} {ps : List Nat} (h : ipv6? s = some ps) :
    ps.length = 8 ∧ ∀ p ∈ ps, p < 0x10000 := by
  have hstart : ∃ fuel count hasGap s' x gap, pieces? fuel count hasGap s' = some x ∧
      spread (x.1, gap) = some ps := by
    unfold ipv6? at h
    split at h
    · obtain ⟨_, hmap, h⟩ := Option.bind_eq_some_iff.1 h
      obtain ⟨x, hx, rfl⟩ := Option.map_eq_some_iff.1 hmap
      exact ⟨_, _, _, _, x, some 0, hx, h⟩
    · cases h
    · cases h
    · cases h
    · obtain ⟨x, hx, h⟩ := Option.bind_eq_some_iff.1 h
      exact ⟨_, _, _, _, x, x.2, hx, h⟩
  obtain ⟨_, _, _, _, x, gap, hx, h⟩ := hstart
  exact of_spread h (lt_of_pieces? (x := x) hx)

/-- The characters of an address of version 6. -/
theorem mem_ipv6Text {ps : List Nat} {c : Char} (h : c ∈ ipv6Text ps) :
    c = ':' ∨ ∃ d < 16, c = Nat.digitChar d := by
  have hjoin (qs : List Nat) (h : c ∈ joinPieces qs) : c = ':' ∨ ∃ d < 16, c = Nat.digitChar d := by
    rcases mem_intercalate h with hsep | ⟨l, hl, hc⟩
    · exact .inl hsep
    · obtain ⟨n, -, rfl⟩ := List.mem_map.1 hl
      exact .inr (mem_pieceText hc)
  rcases ipv6Text_cases ps with htext | ⟨qs, k, rs, -, -, htext⟩
  · exact hjoin ps (htext ▸ h)
  · rw [htext, List.mem_append, List.mem_cons, List.mem_cons] at h
    rcases h with h | rfl | rfl | h
    · exact hjoin qs h
    · exact .inl rfl
    · exact .inl rfl
    · exact hjoin rs h

end Url.Host

end TemplateShare
