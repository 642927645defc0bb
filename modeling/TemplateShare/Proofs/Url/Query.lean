import TemplateShare.Proofs.Wire.Base64
import TemplateShare.Proofs.Yaml.Quoted
import TemplateShare.Url.Query

/-! # Queries are read back

The pairs that are written into a query are the pairs that are read from it, whatever texts they
are. A query that has been written is made of letters, digits and a few marks, none of which means
anything to the reader of a URL.

* **`Url.piecesAt_intercalate`** — pieces that are put together are taken apart.
* **`Url.formDecode_formText`** — a text of a pair is read back.
* **`Url.pairsOf_appendTo`** — the pairs of a query are read back. -/

namespace TemplateShare

/-- What holds of the characters of all codes up to a bound holds of each character up to it. -/
theorem Text.forall_of_codes {bound : Nat} {p : Char → Prop} (h : ∀ n < bound, p (Char.ofNat n))
    {c : Char} (hc : c.toNat < bound) : p c := by
  have hp := h c.toNat hc
  rwa [Char.ofNat_toNat] at hp

namespace Utf8

/-- A character of ASCII is the octet of its code. -/
theorem utf8EncodeChar_ascii {c : Char} (h : c.toNat < 0x80) :
    String.utf8EncodeChar c = [UInt8.ofNat c.toNat] :=
  Text.forall_of_codes (p := fun c => String.utf8EncodeChar c = [UInt8.ofNat c.toNat]) (by decide) h

/-- A text of ASCII is the octets of its codes. -/
theorem encode_ofList_ascii {s : List Char} (h : ∀ c ∈ s, c.toNat < 0x80) :
    encode (String.ofList s) = s.map fun c => UInt8.ofNat c.toNat := by
  rw [encode_ofList]
  induction s with
  | nil => rfl
  | cons c s ih =>
    rw [List.flatMap_cons, utf8EncodeChar_ascii (h c List.mem_cons_self),
      ih fun x hx => h x (List.mem_cons_of_mem c hx)]
    rfl

/-- Octets of a text are read leniently as the text. -/
theorem decodeLenient_encode (s : String) : decodeLenient (encode s) = s.toList := by
  rw [decodeLenient, decodeLossy, decode_encode]

end Utf8

namespace Url

/-! ## Pieces -/

section Pieces

variable {mark : Char} {s p : List Char}

/-- A text without the mark is one piece. -/
theorem piecesAt_of_notMem (h : mark ∉ s) : piecesAt mark s = [s] := by
  induction s with
  | nil => rfl
  | cons c s ih =>
    have hc : c ≠ mark := fun hc => h (by rw [hc]; exact List.mem_cons_self)
    rw [piecesAt, if_neg hc, ih fun hs => h (List.mem_cons_of_mem c hs)]

/-- A mark parts pieces. -/
theorem piecesAt_append (h : mark ∉ p) (s : List Char) :
    piecesAt mark (p ++ mark :: s) = p :: piecesAt mark s := by
  induction p with
  | nil => rw [List.nil_append, piecesAt, if_pos rfl]
  | cons c p ih =>
    have hc : c ≠ mark := fun hc => h (by rw [hc]; exact List.mem_cons_self)
    rw [List.cons_append, piecesAt, if_neg hc, ih fun hp => h (List.mem_cons_of_mem c hp)]

/-- There always is a piece. -/
theorem piecesAt_ne_nil (mark : Char) (s : List Char) : piecesAt mark s ≠ [] := by
  cases s with
  | nil => exact List.cons_ne_nil _ _
  | cons c s =>
    rw [piecesAt]
    split
    · exact List.cons_ne_nil _ _
    · split <;> exact List.cons_ne_nil _ _

/-- A piece does not have the mark. -/
theorem notMem_of_mem_piecesAt (h : p ∈ piecesAt mark s) : mark ∉ p := by
  induction s generalizing p with
  | nil =>
    rw [List.mem_singleton.1 h]
    exact List.not_mem_nil
  | cons c s ih =>
    rw [piecesAt] at h
    split at h
    · rcases List.mem_cons.1 h with rfl | h
      · exact List.not_mem_nil
      · exact ih h
    · next hc =>
      split at h
      · next hnil => exact absurd hnil (piecesAt_ne_nil mark s)
      · next q qs hcons =>
        rw [hcons] at ih
        rcases List.mem_cons.1 h with rfl | h
        · intro hmem
          rcases List.mem_cons.1 hmem with heq | hmem
          · exact hc heq.symm
          · exact ih List.mem_cons_self hmem
        · exact ih (List.mem_cons_of_mem q h)

/-- Pieces that are put together have their characters, and the mark. -/
theorem mem_intercalate {ps : List (List Char)} {c : Char}
    (h : c ∈ List.intercalate [mark] ps) : c = mark ∨ ∃ p ∈ ps, c ∈ p := by
  induction ps with
  | nil => cases h
  | cons p ps ih =>
    cases ps with
    | nil =>
      rw [List.intercalate_singleton] at h
      exact .inr ⟨p, List.mem_cons_self, h⟩
    | cons q ps =>
      rw [List.intercalate_cons_cons, List.mem_append, List.mem_append, List.mem_singleton] at h
      rcases h with (h | h) | h
      · exact .inr ⟨p, List.mem_cons_self, h⟩
      · exact .inl h
      · rcases ih h with h | ⟨x, hx, hc⟩
        · exact .inl h
        · exact .inr ⟨x, List.mem_cons_of_mem p hx, hc⟩

/-- **Pieces that are put together are taken apart.** -/
theorem piecesAt_intercalate {ps : List (List Char)} (hne : ps ≠ []) (h : ∀ p ∈ ps, mark ∉ p) :
    piecesAt mark (List.intercalate [mark] ps) = ps := by
  induction ps with
  | nil => exact absurd rfl hne
  | cons p ps ih =>
    cases ps with
    | nil =>
      rw [List.intercalate_singleton]
      exact piecesAt_of_notMem (h p List.mem_cons_self)
    | cons q ps =>
      rw [List.intercalate_cons_cons, List.append_assoc, List.singleton_append,
        piecesAt_append (h p List.mem_cons_self),
        ih (List.cons_ne_nil q ps) fun x hx => h x (List.mem_cons_of_mem p hx)]

end Pieces

/-! ## Octets behind a percent sign -/

/-- An octet that is no percent sign stands for itself. -/
theorem percentDecode_cons {b : UInt8} (h : b ≠ 0x25) (s : Bytes) :
    percentDecode (b :: s) = b :: percentDecode s := by
  rw [percentDecode]
  intro x y t hb
  exact absurd hb h

/-- Octets without a percent sign stand for themselves. -/
theorem percentDecode_eq_self {s : Bytes} (h : 0x25 ∉ s) : percentDecode s = s := by
  induction s with
  | nil => rfl
  | cons b s ih =>
    have hb : b ≠ 0x25 := fun hb => h (by rw [hb]; exact List.mem_cons_self)
    rw [percentDecode_cons hb, ih fun hs => h (List.mem_cons_of_mem b hs)]

/-- The digits of an octet. -/
theorem upper_two (b : UInt8) : Hex.upper 2 b.toNat =
    [Hex.upperDigit (b.toNat / 16), Hex.upperDigit (b.toNat % 16)] := by
  have hb : b.toNat / 16 % 16 = b.toNat / 16 :=
    Nat.mod_eq_of_lt (by have := b.toNat_lt; omega)
  simp [Hex.upper, hb]

/-- A digit in upper case is a letter or a digit of ASCII. -/
theorem isAlphanum_upperDigit {n : Nat} (h : n < 16) :
    (Hex.upperDigit n).isAlphanum = true ∧ (Hex.upperDigit n).toNat < 0x80 :=
  (by decide : ∀ n < 16, (Hex.upperDigit n).isAlphanum = true ∧ (Hex.upperDigit n).toNat < 0x80) n h

/-- **An octet that is encoded is read back.** -/
theorem percentDecode_encodedOctet (b : UInt8) (s : Bytes) :
    percentDecode (Utf8.encode (String.ofList (encodedOctet b)) ++ s) = b :: percentDecode s := by
  have hhigh : b.toNat / 16 < 16 := by have := b.toNat_lt; omega
  have hlow : b.toNat % 16 < 16 := Nat.mod_lt _ (by decide)
  obtain ⟨-, hhigh'⟩ := isAlphanum_upperDigit hhigh
  obtain ⟨-, hlow'⟩ := isAlphanum_upperDigit hlow
  have hchar {c : Char} (hc : c.toNat < 0x80) : Char.ofNat (UInt8.ofNat c.toNat).toNat = c := by
    rw [UInt8.toNat_ofNat_of_lt' (Nat.lt_trans hc (by decide)), Char.ofNat_toNat]
  have hvalue : octetValue? (UInt8.ofNat (Hex.upperDigit (b.toNat / 16)).toNat)
      (UInt8.ofNat (Hex.upperDigit (b.toNat % 16)).toNat) = some b := by
    rw [octetValue?, hchar hhigh', hchar hlow', ← upper_two,
      Hex.number?_upper (show b.toNat < Nat.pow 16 2 from b.toNat_lt), Option.map_some,
      UInt8.ofNat_toNat]
  rw [Utf8.encode_ofList_ascii]
  · rw [encodedOctet, upper_two]
    simp only [List.map_cons, List.map_nil, List.cons_append, List.nil_append]
    rw [show UInt8.ofNat '%'.toNat = 0x25 from rfl, percentDecode, hvalue]
  · rw [encodedOctet, upper_two]
    intro c hc
    simp only [List.mem_cons, List.not_mem_nil, or_false] at hc
    rcases hc with rfl | rfl | rfl
    · decide
    · exact hhigh'
    · exact hlow'

/-! ## Texts of a pair -/

/-- The characters of texts in a query. -/
def IsFormed (c : Char) : Prop := c.isAlphanum = true ∨ c ∈ ['*', '-', '.', '_', '+', '%']

instance (c : Char) : Decidable (IsFormed c) := by unfold IsFormed; infer_instance

/-- **The ways to write an octet**: as its character, as a plus sign, or encoded. -/
theorem formOctet_cases (b : UInt8) :
    (b.toNat < 0x80 ∧ IsFormed (Char.ofNat b.toNat) ∧ Char.ofNat b.toNat ≠ '+' ∧
        Char.ofNat b.toNat ≠ '%' ∧ formOctet b = [Char.ofNat b.toNat]) ∨
      (b = 0x20 ∧ formOctet b = ['+']) ∨ formOctet b = encodedOctet b := by
  unfold formOctet
  by_cases hform : isFormChar b = true
  · left
    rw [if_pos hform]
    simp only [isFormChar, Bool.and_eq_true, decide_eq_true_eq, Bool.or_eq_true,
      beq_iff_eq] at hform
    obtain ⟨hascii, hchar⟩ := hform
    refine ⟨hascii, ?_, ?_, ?_, rfl⟩
    · rcases hchar with (((h | h) | h) | h) | h
      · exact .inl h
      all_goals exact .inr (by rw [h]; decide)
    · intro hplus
      rw [hplus] at hchar
      exact absurd hchar (by decide)
    · intro hpercent
      rw [hpercent] at hchar
      exact absurd hchar (by decide)
  · right
    rw [if_neg hform]
    by_cases hblank : b = 0x20
    · exact .inl ⟨hblank, by rw [hblank]; rfl⟩
    · exact .inr (if_neg (by simpa using hblank))

/-- The characters of an octet that is encoded. -/
theorem isFormed_encodedOctet {b : UInt8} {c : Char} (h : c ∈ encodedOctet b) :
    IsFormed c ∧ c ≠ '+' := by
  have hb := b.toNat_lt
  have hdigit {n : Nat} (hn : n < 16) :
      IsFormed (Hex.upperDigit n) ∧ Hex.upperDigit n ≠ '+' :=
    ⟨.inl (isAlphanum_upperDigit hn).1, fun heq => by
      have halnum := (isAlphanum_upperDigit hn).1
      rw [heq] at halnum
      exact absurd halnum (by decide)⟩
  rw [encodedOctet, upper_two] at h
  simp only [List.mem_cons, List.not_mem_nil, or_false] at h
  rcases h with rfl | rfl | rfl
  · exact ⟨.inr (by decide), by decide⟩
  · exact hdigit (by omega)
  · exact hdigit (by omega)

/-- **The characters of a text in a query.** -/
theorem isFormed_of_mem {s : String} {c : Char} (h : c ∈ formText s) : IsFormed c := by
  obtain ⟨b, -, hb⟩ := List.mem_flatMap.1 h
  rcases formOctet_cases b with ⟨-, hchar, -, -, hform⟩ | ⟨-, hform⟩ | hform <;> rw [hform] at hb
  · rw [List.mem_singleton.1 hb]
    exact hchar
  · rw [List.mem_singleton.1 hb]
    exact .inr (by decide)
  · exact (isFormed_encodedOctet hb).1

/-- Other characters do not occur in it. -/
theorem notMem_formText {c : Char} (hc : ¬IsFormed c) (s : String) : c ∉ formText s :=
  fun h => hc (isFormed_of_mem h)

/-- The octet that a reader finds. -/
theorem percentDecode_formOctet (b : UInt8) (s : Bytes) :
    percentDecode (Utf8.encode (String.ofList ((formOctet b).map fun c =>
      if c = '+' then ' ' else c)) ++ s) = b :: percentDecode s := by
  rcases formOctet_cases b with ⟨hascii, -, hplus, hpercent, hform⟩ | ⟨rfl, -⟩ | hform
  · have hb : b ≠ 0x25 := fun hb => hpercent (by rw [hb]; rfl)
    have hcode : (Char.ofNat b.toNat).toNat = b.toNat :=
      (by decide : ∀ n < 0x80, (Char.ofNat n).toNat = n) _ hascii
    rw [hform, List.map_singleton, if_neg hplus, Utf8.encode_ofList_ascii (by simpa [hcode])]
    rw [List.map_singleton, hcode, UInt8.ofNat_toNat]
    exact percentDecode_cons hb s
  · exact percentDecode_cons (by decide) s
  · have hsame : (encodedOctet b).map (fun c => if c = '+' then ' ' else c) = encodedOctet b :=
      (List.map_congr_left fun c hc => if_neg (isFormed_encodedOctet hc).2).trans (List.map_id' _)
    rw [hform, hsame, percentDecode_encodedOctet]

/-- **A text of a pair is read back.** -/
theorem formDecode_formText (s : String) : formDecode (formText s) = s := by
  have hoctets (bs : Bytes) : percentDecode (Utf8.encode (String.ofList
      ((bs.flatMap formOctet).map fun c => if c = '+' then ' ' else c))) = bs := by
    induction bs with
    | nil => rfl
    | cons b bs ih =>
      rw [List.flatMap_cons, List.map_append, Utf8.encode_ofList, List.flatMap_append,
        ← Utf8.encode_ofList, ← Utf8.encode_ofList, percentDecode_formOctet, ih]
  unfold formDecode formText
  dsimp only
  rw [hoctets, Utf8.decodeLenient_encode, String.ofList_toList]

/-! ## Pairs -/

/-- More pairs stand behind those that are there. -/
theorem appendTo_of_ne_nil {query : List Char} (h : query ≠ []) (pairs : List (String × String)) :
    appendTo query pairs = query ++ pairs.flatMap fun p => '&' :: pairText p := by
  induction pairs generalizing query with
  | nil => exact (List.append_nil query).symm
  | cons p pairs ih =>
    have hquery : query.isEmpty = false := List.isEmpty_eq_false_iff.2 h
    show appendTo (query ++ (if query.isEmpty then [] else ['&']) ++ pairText p) pairs = _
    rw [hquery, ih (by simp [h])]
    simp

/-- **A query is its pairs** with marks between them. -/
theorem appendTo_nil (pairs : List (String × String)) :
    appendTo [] pairs = List.intercalate ['&'] (pairs.map pairText) := by
  have hjoin (p : List Char) (ps : List (String × String)) :
      p ++ ps.flatMap (fun q => '&' :: pairText q) =
        List.intercalate ['&'] (p :: ps.map pairText) := by
    induction ps generalizing p with
    | nil => simp
    | cons q ps ih =>
      rw [List.flatMap_cons, List.map_cons, List.intercalate_cons_cons, ← ih]
      simp
  cases pairs with
  | nil => rfl
  | cons p pairs =>
    show appendTo (pairText p) pairs = _
    rw [appendTo_of_ne_nil (by simp [pairText]), hjoin, List.map_cons]

/-- The mark between pairs occurs in none of them. -/
theorem notMem_pairText (p : String × String) : '&' ∉ pairText p := by
  have hformed : ¬IsFormed '&' := by decide
  simp [pairText, notMem_formText hformed]

/-- **The pairs of a query are read back.** -/
theorem pairsOf_appendTo (pairs : List (String × String)) :
    pairsOf (appendTo [] pairs) = pairs := by
  have hformed : ¬IsFormed '=' := by decide
  have hpair (p : String × String) : (formDecode ((pairText p).takeWhile (· != '=')),
      formDecode (((pairText p).dropWhile (· != '=')).drop 1)) = p := by
    have hkey : ∀ c ∈ formText p.1, (c != '=') = true := fun c hc => by
      simpa using ne_of_mem_of_not_mem hc (notMem_formText hformed p.1)
    rw [pairText, List.append_assoc, List.takeWhile_append_of_pos hkey,
      List.dropWhile_append_of_pos hkey]
    simp [formDecode_formText]
  rw [appendTo_nil, pairsOf]
  cases pairs with
  | nil => rfl
  | cons p pairs =>
    have hpieces : ∀ q ∈ (p :: pairs).map pairText, '&' ∉ q ∧ (!q.isEmpty) = true := by
      intro q hq
      obtain ⟨x, -, rfl⟩ := List.mem_map.1 hq
      exact ⟨notMem_pairText x, by simp [pairText]⟩
    rw [piecesAt_intercalate (by simp) fun q hq => (hpieces q hq).1,
      List.filter_eq_self.2 fun q hq => (hpieces q hq).2, List.map_map]
    exact (List.map_congr_left fun q _ => hpair q).trans (List.map_id' _)

/-- The characters of a query that has been written. -/
theorem mem_appendTo {pairs : List (String × String)} {c : Char} (h : c ∈ appendTo [] pairs) :
    IsFormed c ∨ c = '=' ∨ c = '&' := by
  have hpair {p : String × String} (hp : c ∈ pairText p) : IsFormed c ∨ c = '=' ∨ c = '&' := by
    rw [pairText, List.mem_append, List.mem_append, List.mem_singleton] at hp
    rcases hp with (hp | hp) | hp
    · exact .inl (isFormed_of_mem hp)
    · exact .inr (.inl hp)
    · exact .inl (isFormed_of_mem hp)
  cases pairs with
  | nil => cases h
  | cons p pairs =>
    have hquery : appendTo [] (p :: pairs) = appendTo (pairText p) pairs := rfl
    rw [hquery, appendTo_of_ne_nil (by simp [pairText]), List.mem_append, List.mem_flatMap] at h
    rcases h with h | ⟨q, -, hq⟩
    · exact hpair h
    · rcases List.mem_cons.1 hq with rfl | hq
      · exact .inr (.inr rfl)
      · exact hpair hq

end Url

end TemplateShare
