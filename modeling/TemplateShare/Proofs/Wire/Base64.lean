import TemplateShare.Proofs.Registry
import TemplateShare.Wire

/-! # Texts in Base64

A text that has been encoded is decoded as itself, in every field of a payload.

* **`Base64.decode_encodeBytes`** — octets.
* **`Wire.decodeField_encodeField`** — texts. -/

namespace TemplateShare

namespace Base64

/-! ## Octets -/

/-- Symbols are not the padding. -/
theorem symbol_ne_pad {n : Nat} (h : n < 64) : symbol n ≠ pad :=
  (by decide : ∀ n < 64, symbol n ≠ pad) n h

/-- The value of a symbol, wherever it stands. -/
theorem valueAt_symbol {n : Nat} (h : n < 64) (offset : Nat) :
    valueAt (symbol n) offset = .ok n := by
  rw [valueAt, value?_symbol h]

/-- **Four values give back the three octets** that they were made of. -/
theorem octets_values (a b c : UInt8) :
    octets (a.toNat / 4) (a.toNat % 4 * 16 + b.toNat / 16) (b.toNat % 16 * 4 + c.toNat / 64)
      (c.toNat % 64) = [a, b, c] := by
  have ha := a.toNat_lt
  have hb := b.toNat_lt
  have hc := c.toNat_lt
  have hfirst : a.toNat / 4 * 4 + (a.toNat % 4 * 16 + b.toNat / 16) / 16 = a.toNat := by omega
  have hsecond : (a.toNat % 4 * 16 + b.toNat / 16) % 16 * 16 +
      (b.toNat % 16 * 4 + c.toNat / 64) / 4 = b.toNat := by omega
  have hthird : (b.toNat % 16 * 4 + c.toNat / 64) % 4 * 64 + c.toNat % 64 = c.toNat := by omega
  rw [octets, hfirst, hsecond, hthird, UInt8.ofNat_toNat, UInt8.ofNat_toNat, UInt8.ofNat_toNat]

/-- The values of a symbol and of what follows it. -/
theorem lastValues_symbol {n i : Nat} (h : n < 64) (offset : Nat) (bs : Bytes) :
    lastValues offset i (symbol n :: bs) =
      (lastValues offset (i + 1) bs).map fun x => (n :: x.1, x.2) := by
  rw [lastValues, if_neg (symbol_ne_pad h), valueAt_symbol h]
  cases lastValues offset (i + 1) bs <;> rfl

/-- **The last group** is decoded, padded or not. -/
theorem decodeLast_encodeBytes (a b c : UInt8) (offset : Nat) :
    decodeLast offset (encodeBytes [a]) = .ok [a] ∧
      decodeLast offset (encodeBytes [a, b]) = .ok [a, b] ∧
      decodeLast offset (encodeBytes [a, b, c]) = .ok [a, b, c] := by
  have ha := a.toNat_lt
  have hb := b.toNat_lt
  have hc := c.toNat_lt
  -- One, two or three octets are left over; missing ones count as zero.
  refine ⟨?_, ?_, ?_⟩
  · have hoctets := octets_values a 0 0
    have hzero : (0 : UInt8).toNat = 0 := rfl
    simp only [hzero, Nat.zero_div, Nat.add_zero, Nat.zero_mod, Nat.zero_mul] at hoctets
    unfold decodeLast encodeBytes
    rw [lastValues_symbol (by omega), lastValues_symbol (by omega)]
    simp [lastValues, bind, Except.bind, Except.map, hoctets]
  · have hoctets := octets_values a b 0
    have hzero : (0 : UInt8).toNat = 0 := rfl
    simp only [hzero, Nat.zero_div, Nat.add_zero, Nat.zero_mod] at hoctets
    unfold decodeLast encodeBytes
    rw [lastValues_symbol (by omega), lastValues_symbol (by omega), lastValues_symbol (by omega)]
    simp [lastValues, bind, Except.bind, Except.map, hoctets]
  · unfold decodeLast encodeBytes
    rw [lastValues_symbol (by omega), lastValues_symbol (by omega), lastValues_symbol (by omega),
      lastValues_symbol (by omega)]
    simp [encodeBytes, lastValues, bind, Except.bind, Except.map, octets_values]

/-- Groups of four symbols are decoded one after the other. -/
theorem decodeFrom_encodeBytes (b : Bytes) (offset : Nat) :
    decodeFrom offset (encodeBytes b) = .ok b := by
  match b with
  | [] => rfl
  | [x] => exact (decodeLast_encodeBytes x 0 0 offset).1
  | [x, y] => exact (decodeLast_encodeBytes x y 0 offset).2.1
  | [x, y, z] => exact (decodeLast_encodeBytes x y z offset).2.2
  | x :: y :: z :: w :: b =>
    have hx := x.toNat_lt
    have hy := y.toNat_lt
    have hz := z.toNat_lt
    have ih := decodeFrom_encodeBytes (w :: b) (offset + 4)
    -- There is more text behind these four symbols, so they are not the last ones.
    obtain ⟨e, rest, hrest⟩ : ∃ e rest, encodeBytes (w :: b) = e :: rest := by
      match b with
      | [] => exact ⟨_, _, rfl⟩
      | [_] => exact ⟨_, _, rfl⟩
      | _ :: _ :: _ => exact ⟨_, _, rfl⟩
    rw [hrest] at ih
    rw [encodeBytes, hrest, decodeFrom, valueAt_symbol (by omega), valueAt_symbol (by omega),
      valueAt_symbol (by omega), valueAt_symbol (by omega), ih]
    simp only [bind, Except.bind, octets_values]
    rfl

/-- Octets take groups of four symbols. -/
theorem length_encodeBytes_mod (b : Bytes) : (encodeBytes b).length % 4 = 0 := by
  match b with
  | [] => rfl
  | [_] => simp [encodeBytes]
  | [_, _] => simp [encodeBytes]
  | _ :: _ :: _ :: b =>
    have ih := length_encodeBytes_mod b
    rw [encodeBytes]
    simp only [List.length_cons]
    omega

/-- **Octets that have been encoded are decoded.** -/
theorem decode_encodeBytes (b : Bytes) : decode (encodeBytes b) = .ok b := by
  have hlength := length_encodeBytes_mod b
  unfold decode
  cases h : (encodeBytes b).getLast? with
  | none =>
    have hempty : encodeBytes b = [] := List.getLast?_eq_none_iff.1 h
    have hdecode := decodeFrom_encodeBytes b 0
    rw [hempty] at hdecode
    exact hdecode
  | some x =>
    dsimp only
    rw [if_neg (by omega), decodeFrom_encodeBytes]

/-! ## Symbols as text -/

/-- The octets of the alphabet and the padding. -/
def IsSymbol (x : UInt8) : Prop := x = pad ∨ ∃ n < 64, x = symbol n

/-- Encoded octets are symbols. -/
theorem isSymbol_of_mem {b : Bytes} {x : UInt8} (h : x ∈ encodeBytes b) : IsSymbol x := by
  match b with
  | [] => cases h
  | [a] =>
    have ha := a.toNat_lt
    simp only [encodeBytes, List.mem_cons, List.not_mem_nil, or_false] at h
    rcases h with rfl | rfl | rfl | rfl
    · exact .inr ⟨_, by omega, rfl⟩
    · exact .inr ⟨_, by omega, rfl⟩
    · exact .inl rfl
    · exact .inl rfl
  | [a, b] =>
    have ha := a.toNat_lt
    have hb := b.toNat_lt
    simp only [encodeBytes, List.mem_cons, List.not_mem_nil, or_false] at h
    rcases h with rfl | rfl | rfl | rfl
    · exact .inr ⟨_, by omega, rfl⟩
    · exact .inr ⟨_, by omega, rfl⟩
    · exact .inr ⟨_, by omega, rfl⟩
    · exact .inl rfl
  | a :: b :: c :: rest =>
    have ha := a.toNat_lt
    have hb := b.toNat_lt
    have hc := c.toNat_lt
    simp only [encodeBytes, List.mem_cons] at h
    rcases h with rfl | rfl | rfl | rfl | h
    · exact .inr ⟨_, by omega, rfl⟩
    · exact .inr ⟨_, by omega, rfl⟩
    · exact .inr ⟨_, by omega, rfl⟩
    · exact .inr ⟨_, by omega, rfl⟩
    · exact isSymbol_of_mem h

/-- The symbols are octets of ASCII beyond the blanks. -/
theorem IsSymbol.bounds {x : UInt8} (h : IsSymbol x) : 0x21 ≤ x.toNat ∧ x.toNat < 0x7F := by
  rcases h with rfl | ⟨n, hn, rfl⟩
  · decide
  · exact (by decide : ∀ n < 64, 0x21 ≤ (symbol n).toNat ∧ (symbol n).toNat < 0x7F) n hn

end Base64

namespace Utf8

/-- The octets of a text are those of its characters. -/
theorem encode_ofList (s : List Char) :
    encode (String.ofList s) = s.flatMap String.utf8EncodeChar := by
  unfold encode
  rw [String.toByteArray_ofList, List.utf8Encode]
  simp

/-- **A character of ASCII is one octet.** -/
theorem encode_ascii {bs : Bytes} (h : ∀ x ∈ bs, x.toNat < 0x80) :
    encode (String.ofList (bs.map fun x => Char.ofNat x.toNat)) = bs := by
  rw [encode_ofList]
  induction bs with
  | nil => rfl
  | cons x bs ih =>
    have hx : String.utf8EncodeChar (Char.ofNat x.toNat) = [UInt8.ofNat x.toNat] :=
      (by decide : ∀ n < 0x80, String.utf8EncodeChar (Char.ofNat n) = [UInt8.ofNat n]) _
        (h x List.mem_cons_self)
    rw [List.map_cons, List.flatMap_cons, hx, ih fun y hy => h y (List.mem_cons_of_mem x hy),
      UInt8.ofNat_toNat]
    rfl

/-- Only the empty text has no octets. -/
theorem encode_eq_nil {s : String} : encode s = [] ↔ s = "" := by
  constructor
  · intro h
    have hdecode := decode_encode s
    rw [h] at hdecode
    have hempty : decode [] = .ok "" := decode_encode ""
    exact Except.ok.inj (hdecode.symm.trans hempty)
  · rintro rfl
    rfl

end Utf8

/-! ## Fields -/

namespace Text

/-- Without white space in front nothing is dropped. -/
theorem dropWhile_isSpace {l : List Char} (h : ∀ x ∈ l.head?, isSpace x = false) :
    l.dropWhile isSpace = l := by
  cases l with
  | nil => rfl
  | cons x l => rw [List.dropWhile_cons_of_neg (by simp [h x rfl])]

/-- A text without white space at its ends stays as it is. -/
theorem trim_of_ends {s : String} (hhead : ∀ x ∈ s.toList.head?, isSpace x = false)
    (hlast : ∀ x ∈ s.toList.getLast?, isSpace x = false) : trim s = s := by
  have hend : s.toList.reverse.dropWhile isSpace = s.toList.reverse :=
    dropWhile_isSpace fun x hx => hlast x (by rwa [List.head?_reverse] at hx)
  rw [trim, dropSpace, dropWhile_isSpace hhead, dropSpaceEnd, hend, List.reverse_reverse,
    String.ofList_toList]

/-- White space behind a text without white space is dropped. -/
theorem trim_append {s t : String} (hs : ∀ x ∈ s.toList, isSpace x = false)
    (ht : ∀ x ∈ t.toList, isSpace x = true) : trim (s ++ t) = s := by
  have hdrop (l : List Char) (hl : ∀ x ∈ l, isSpace x = false) : l.dropWhile isSpace = l :=
    dropWhile_isSpace fun x hx => hl x (List.mem_of_head? hx)
  have hstart : dropSpaceEnd (s.toList ++ t.toList) = s.toList := by
    rw [dropSpaceEnd, List.reverse_append,
      List.dropWhile_append_of_pos fun x hx => ht x (List.mem_reverse.1 hx),
      hdrop _ fun x hx => hs x (List.mem_reverse.1 hx), List.reverse_reverse]
  rw [trim, String.toList_append, dropSpace, List.dropWhile_append, hdrop _ hs]
  split
  · next hempty =>
    have hnil := List.isEmpty_iff.1 hempty
    have hall : t.toList.dropWhile isSpace = [] := by
      rw [← List.append_nil t.toList, List.dropWhile_append_of_pos ht, List.dropWhile_nil]
    rw [hall, dropSpaceEnd_nil, String.ofList_nil, ← String.toList_inj, hnil]
    rfl
  · rw [hstart, String.ofList_toList]

/-- A text without white space stays as it is. -/
theorem trim_of_not_space {s : String} (h : ∀ x ∈ s.toList, isSpace x = false) : trim s = s :=
  trim_of_ends (fun x hx => h x (List.mem_of_head? hx)) fun x hx => h x (List.mem_of_getLast? hx)

end Text

namespace Wire

/-- The symbols of a field are no white space. -/
theorem not_space_of_mem_encodeField {s : String} {x : Char} (h : x ∈ (encodeField s).toList) :
    Text.isSpace x = false := by
  unfold encodeField Base64.encode at h
  rw [String.toList_ofList, List.mem_map] at h
  obtain ⟨b, hb, rfl⟩ := h
  obtain ⟨hlow, hhigh⟩ := (Base64.isSymbol_of_mem hb).bounds
  exact (by decide : ∀ n < 0x7F, 0x21 ≤ n → Text.isSpace (Char.ofNat n) = false) _ hhigh hlow

/-- **A field that has been encoded is decoded.** -/
theorem decodeField_encodeField (name s : String) : decodeField name (encodeField s) = .ok s := by
  have hascii : ∀ x ∈ Base64.encodeBytes (Utf8.encode s), x.toNat < 0x80 := fun x hx =>
    Nat.lt_of_lt_of_le (Base64.isSymbol_of_mem hx).bounds.2 (by decide)
  have hbytes : Utf8.encode (encodeField s) = Base64.encodeBytes (Utf8.encode s) :=
    Utf8.encode_ascii hascii
  unfold decodeField
  rw [Text.trim_of_not_space fun x => not_space_of_mem_encodeField]
  dsimp only
  by_cases hempty : (encodeField s).isEmpty = true
  · rw [if_pos hempty]
    have hnil : Base64.encodeBytes (Utf8.encode s) = [] := by
      rw [← hbytes, String.isEmpty_iff.1 hempty]
      rfl
    have hdecode := Base64.decode_encodeBytes (Utf8.encode s)
    rw [hnil] at hdecode
    have hoctets : Utf8.encode s = [] := (Except.ok.inj hdecode).symm
    rw [Utf8.encode_eq_nil.1 hoctets]
  · rw [if_neg hempty, hbytes, Base64.decode_encodeBytes]
    dsimp only
    rw [Utf8.decode_encode]

end Wire

end TemplateShare
