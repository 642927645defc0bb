import TemplateShare.Proofs.Url.Address
import TemplateShare.Proofs.Url.Path

/-! # Hosts are read back

A host that has been read is written as a text that is read as the same host, whether its scheme is
special or not. The text holds nothing that ends an authority, and a colon only between brackets.

* **`Host.IsWritten`** — the texts of hosts.
* **`Host.parse_text`**, **`Host.parseOpaque_text`** — hosts are read back.
* **`hostText_append`** — the text of a host is found in front of a port or a path. -/

namespace TemplateShare.Url

/-! ## Texts of hosts -/

/-- A character that means nothing else where a host stands. -/
def IsPlain (c : Char) : Prop :=
  controlSet c = false ∧ c ∉ [' ', ':', '/', '\\', '?', '#', '@', '[', ']']

instance (c : Char) : Decidable (IsPlain c) := by unfold IsPlain; infer_instance

/-- The characters of a name in ASCII are plain. -/
theorem isPlain_of_isHostChar {c : Char} (h : DomainName.IsHostChar c) : IsPlain c ∧ c ≠ '%' :=
  Text.forall_of_codes (p := fun c => DomainName.isLabelChar c = true → IsPlain c ∧ c ≠ '%')
    (by decide) h.2 h.1

/-- Digits of an address are plain. -/
theorem isPlain_digitChar {d : Nat} (h : d < 16) : IsPlain (Nat.digitChar d) :=
  (by decide : ∀ d < 16, IsPlain (Nat.digitChar d)) d h

/-- No plain character ends an authority. -/
theorem IsPlain.not_endsAuthority {c : Char} (h : IsPlain c) (k : Kind) :
    endsAuthority k c = false := by
  have hne := h.2
  simp only [List.mem_cons, List.not_mem_nil, or_false, not_or] at hne
  simp [endsAuthority, Kind.isSlash, endsPath, hne]

namespace Host

/-- **The texts of hosts**: plain characters, or such and colons in brackets. -/
inductive IsWritten : List Char → Prop where
  | name {s : List Char} (h : ∀ c ∈ s, IsPlain c) : IsWritten s
  | bracketed {s : List Char} (h : ∀ c ∈ s, c = ':' ∨ IsPlain c) : IsWritten ('[' :: (s ++ [']']))

/-- What an address looks like is a text of a host. -/
theorem isWritten_ipv6 (ps : List Nat) : IsWritten (text (.ipv6 ps)) := by
  refine .bracketed fun c hc => ?_
  rcases mem_ipv6Text hc with rfl | ⟨d, hd, rfl⟩
  · exact .inl rfl
  · exact .inr (isPlain_digitChar hd)

/-! ## Reading back -/

/-- **An address in brackets is read back.** -/
theorem bracketed?_text {s : List Char} {h : Host} (hs : bracketed? s = .ok h) :
    bracketed? h.text = .ok h ∧ h.text.head? = some '[' ∧ IsWritten h.text := by
  unfold bracketed? at hs
  split at hs
  · split at hs
    · next ps hps =>
      cases hs
      obtain ⟨hlength, hbound⟩ := of_ipv6? hps
      refine ⟨?_, rfl, isWritten_ipv6 ps⟩
      have hlast : (text (.ipv6 ps)).getLast? = some ']' := List.getLast?_concat
      have hinner : ((text (.ipv6 ps)).drop 1).dropLast = ipv6Text ps := List.dropLast_concat
      rw [bracketed?, if_pos hlast, hinner, ipv6?_ipv6Text hlength hbound]
    · cases hs
  · cases hs

/-- A name in ASCII is decoded to itself. -/
theorem decode_name {name : List Char} (h : ∀ c ∈ name, DomainName.IsHostChar c) :
    Utf8.decode (percentDecode (Utf8.encode (String.ofList name))) = .ok (String.ofList name) := by
  rw [percentDecode_eq_self, Utf8.decode_encode]
  rw [Utf8.encode_ofList_ascii fun c hc => (h c hc).2]
  intro hmem
  obtain ⟨c, hc, hcode⟩ := List.mem_map.1 hmem
  have hpercent : c.toNat = 0x25 := by
    have := congrArg UInt8.toNat hcode
    rwa [UInt8.toNat_ofNat_of_lt' (Nat.lt_trans (h c hc).2 (by decide))] at this
  have hchar : c = '%' := Char.toNat_inj.1 hpercent
  exact (isPlain_of_isHostChar (h c hc)).2 hchar

/-- **How a name in ASCII is read.** -/
theorem parse_name {name : List Char} (hne : name ≠ [])
    (hname : DomainName.toAscii name = some name) (hchars : ∀ c ∈ name, DomainName.IsHostChar c) :
    parse name =
      if endsInNumber name then
        match ipv4? name with
        | some n => .ok (.ipv4 n)
        | none => .error .ipv4
      else .ok (.domain name) := by
  have hhead : name.head? ≠ some '[' := fun hh =>
    absurd (isPlain_of_isHostChar (hchars '[' (List.mem_of_head? hh))).1 (by decide)
  have hempty : name.isEmpty = false := List.isEmpty_eq_false_iff.2 hne
  unfold parse
  rw [if_neg hhead, decode_name hchars]
  cases hnumber : ipv4? name <;>
    simp only [String.toList_ofList, hname, hempty, hnumber, Bool.false_eq_true, if_false]

/-- A digit is a character of names. -/
theorem isHostChar_of_isDigit {c : Char} (h : c.isDigit = true) :
    DomainName.IsHostChar c ∧ c ∉ DomainName.acePrefix := by
  have hascii := toNat_of_isAlphanum (c := c) (by simp [Char.isAlphanum, h])
  exact Text.forall_of_codes
    (p := fun c => c.isDigit = true → DomainName.IsHostChar c ∧ c ∉ DomainName.acePrefix)
    (by decide) (Nat.lt_succ_of_le hascii.2) h

/-- The labels of an address of version 4 are written as themselves, and mean themselves. -/
theorem unicode?_octetLabels {n : Nat} {l : List Char} (h : l ∈ octetLabels n) :
    DomainName.unicode? l = some l ∧ DomainName.write l = l ∧
      (∀ c ∈ l, DomainName.IsHostChar c) ∧ '.' ∉ l := by
  have hdot := dot_notMem_octetLabels h
  obtain ⟨m, -, rfl⟩ := List.mem_map.1 h
  have hchars : ∀ c ∈ Nat.toDigits 10 m, DomainName.IsHostChar c := fun c hc =>
    (isHostChar_of_isDigit (Decimal.isDigit_of_mem_digits hc)).1
  refine ⟨?_, if_pos (DomainName.isAscii_of_isHostChar hchars), hchars, hdot⟩
  have hlabel := DomainName.isLabel_of_isHostChar hchars
  obtain ⟨d, t, hcons⟩ := List.exists_cons_of_ne_nil (Nat.toDigits_ne_nil (n := m) (b := 10))
  have hd := isHostChar_of_isDigit
    (Decimal.isDigit_of_mem_digits (n := m) (c := d) (by simp [hcons]))
  rw [hcons] at hlabel ⊢
  -- A label that starts with a digit does not start like one in Punycode.
  have hprefix : DomainName.acePrefix.isPrefixOf (d :: t) = false := by
    have hx : ('x' == d) = false := by
      rw [beq_eq_false_iff_ne]
      rintro rfl
      exact hd.2 List.mem_cons_self
    simp [DomainName.acePrefix, List.isPrefixOf, hx]
  rw [DomainName.unicode?, hprefix, hlabel]
  rfl

/-- A number ends the text of an address of version 4. -/
theorem endsInNumber_ipv4Text (n : Nat) : endsInNumber (ipv4Text n) = true := by
  have hlast : (octetLabels n).getLast? = some (Nat.toDigits 10 (n % 256)) := rfl
  have hdigits : (Nat.toDigits 10 (n % 256)).all Char.isDigit = true :=
    List.all_eq_true.2 fun c => Decimal.isDigit_of_mem_digits
  have hne : (Nat.toDigits 10 (n % 256)).isEmpty = false :=
    List.isEmpty_eq_false_iff.2 Nat.toDigits_ne_nil
  rw [endsInNumber, parts_ipv4Text, hlast]
  simp only [hdigits, hne, Bool.not_false, Bool.true_or, Bool.and_self]

/-- The text of an address of version 4 is not empty. -/
theorem ipv4Text_ne_nil (n : Nat) : ipv4Text n ≠ [] := by
  intro hnil
  have hends := endsInNumber_ipv4Text n
  rw [hnil] at hends
  exact absurd hends (by decide)

/-- **An address of version 4 is read back** as a host. -/
theorem parse_ipv4Text {n : Nat} (h : n < 0x100000000) :
    parse (ipv4Text n) = .ok (.ipv4 n) ∧ ∀ c ∈ ipv4Text n, DomainName.IsHostChar c := by
  have hwrite : (octetLabels n).map DomainName.write = octetLabels n := by
    conv_rhs => rw [← List.map_id (octetLabels n)]
    exact List.map_congr_left fun l hl => (unicode?_octetLabels hl).2.1
  have hjoinable : DomainName.areJoinable (octetLabels n) = true := by
    have hascii : (octetLabels n).all DomainName.isAscii = true := List.all_eq_true.2 fun l hl =>
      DomainName.isAscii_of_isHostChar (unicode?_octetLabels hl).2.2.1
    rw [DomainName.areJoinable, hascii, Bool.true_or]
  have hne : octetLabels n ≠ [] := List.cons_ne_nil _ _
  obtain ⟨hname, hchars⟩ :=
    DomainName.toAscii_write hne hjoinable fun l hl => by
      obtain ⟨hmeant, hsame, hhost⟩ := unicode?_octetLabels hl
      rw [hsame]
      exact ⟨hmeant, hhost⟩
  rw [hwrite, ← ipv4Text_eq] at hname hchars
  refine ⟨?_, hchars⟩
  rw [parse_name (ipv4Text_ne_nil n) hname hchars, if_pos (endsInNumber_ipv4Text n),
    ipv4?_ipv4Text h]

/-- **A host of a special scheme is read back.** -/
theorem parse_text {s : List Char} {h : Host} (hs : parse s = .ok h) :
    parse h.text = .ok h ∧ IsWritten h.text ∧ h.text ≠ [] := by
  unfold parse at hs
  split at hs
  · obtain ⟨hread, hhead, hwritten⟩ := bracketed?_text hs
    refine ⟨?_, hwritten, fun hnil => ?_⟩
    · rw [parse, if_pos hhead, hread]
    · rw [hnil] at hhead
      cases hhead
  · split at hs
    · cases hs
    · split at hs
      · cases hs
      · next name hname =>
        obtain ⟨hsame, hchars⟩ := DomainName.toAscii_toAscii hname
        split at hs
        · cases hs
        · next hempty =>
          have hne : name ≠ [] := by simpa using hempty
          split at hs
          · split at hs
            · next n hn =>
              cases hs
              -- An address is written in one way, whatever form it was read in.
              obtain ⟨hread, hdigits⟩ := parse_ipv4Text (lt_of_ipv4? hn)
              refine ⟨hread, .name fun c hc => (isPlain_of_isHostChar (hdigits c hc)).1,
                ipv4Text_ne_nil n⟩
            · cases hs
          · next hnumber =>
            cases hs
            refine ⟨?_, .name fun c hc => (isPlain_of_isHostChar (hchars c hc)).1, hne⟩
            rw [text, parse_name hne hsame hchars, if_neg hnumber]

/-- No host forbids a character that octets are written with. -/
theorem isForbidden_of_isFormed {c : Char} (h : IsFormed c) :
    isForbidden c = false ∧ controlSet c = false := by
  rcases h with h | h
  · exact Text.forall_of_codes
      (p := fun c => c.isAlphanum = true → isForbidden c = false ∧ controlSet c = false)
      (by decide) (Nat.lt_succ_of_le (toNat_of_isAlphanum h).2) h
  · exact (by decide : ∀ c ∈ ['*', '-', '.', '_', '+', '%'],
      isForbidden c = false ∧ controlSet c = false) c h

/-- What no host forbids and what is no control is plain. -/
theorem isPlain_of_isForbidden {c : Char} (h : isForbidden c = false) (hc : controlSet c = false) :
    IsPlain c := by
  refine ⟨hc, fun hmem => ?_⟩
  have hall := (by decide : ∀ c ∈ [' ', ':', '/', '\\', '?', '#', '@', '[', ']'],
    isForbidden c = true) c hmem
  rw [h] at hall
  cases hall

/-- **A host of any other scheme is read back.** -/
theorem parseOpaque_text {s : List Char} {h : Host} (hs : parseOpaque s = .ok h) :
    parseOpaque h.text = .ok h ∧ IsWritten h.text := by
  unfold parseOpaque at hs
  split at hs
  · obtain ⟨hread, hhead, hwritten⟩ := bracketed?_text hs
    exact ⟨by rw [parseOpaque, if_pos hhead, hread], hwritten⟩
  · split at hs
    · cases hs
    · next hforbidden =>
      cases hs
      have hchars : ∀ c ∈ encodeWith controlSet s,
          isForbidden c = false ∧ controlSet c = false := by
        intro c hc
        rcases mem_encodeWith hc with ⟨hmem, hcontrol⟩ | hformed
        · exact ⟨by simpa using fun hf => hforbidden (List.any_eq_true.2 ⟨c, hmem, hf⟩), hcontrol⟩
        · exact isForbidden_of_isFormed hformed
      have hplain : ∀ c ∈ encodeWith controlSet s, IsPlain c := fun c hc =>
        isPlain_of_isForbidden (hchars c hc).1 (hchars c hc).2
      refine ⟨?_, .name hplain⟩
      have hhead : (encodeWith controlSet s).head? ≠ some '[' := fun hh =>
        absurd (hplain '[' (List.mem_of_head? hh)) (by decide)
      have hnone : (encodeWith controlSet s).any isForbidden = false :=
        List.any_eq_false.2 fun c hc => by simp [(hchars c hc).1]
      rw [text, parseOpaque, if_neg hhead, hnone, encodeWith_eq_self fun c hc => (hchars c hc).2]
      rfl

end Host

/-! ## Finding a host -/

/-- What may stand in a host is read on. -/
theorem hostText_of_isPlain {k : Kind} {b : Bool} {s : List Char}
    (hs : ∀ c ∈ s, (c = ':' ∧ b = true) ∨ IsPlain c) (r : List Char) :
    hostText k b (s ++ r) = (s ++ (hostText k b r).1, (hostText k b r).2) := by
  induction s with
  | nil => rfl
  | cons c s ih =>
    -- No bracket is among the characters, so that being inside of brackets does not change.
    have hcolon : ((c == ':' && !b) || endsAuthority k c) = false := by
      rcases hs c List.mem_cons_self with ⟨rfl, rfl⟩ | hc
      · cases k <;> rfl
      · have hne : c ≠ ':' := fun h => hc.2 (by simp [h])
        rw [hc.not_endsAuthority, beq_false_of_ne hne]
        rfl
    have hbracket : c ≠ '[' ∧ c ≠ ']' := by
      rcases hs c List.mem_cons_self with ⟨rfl, -⟩ | hc
      · decide
      · exact ⟨fun h => hc.2 (by simp [h]), fun h => hc.2 (by simp [h])⟩
    rw [List.cons_append, hostText]
    simp only [hcolon, Bool.false_eq_true, if_false, if_neg hbracket.1, if_neg hbracket.2]
    rw [ih fun c hc => hs c (List.mem_cons_of_mem _ hc)]
    rfl

/-- A host ends where a port or a path starts. -/
theorem hostText_of_head {k : Kind} {r : List Char}
    (hr : ∀ c ∈ r.head?, c = ':' ∨ endsAuthority k c = true) : hostText k false r = ([], r) := by
  cases r with
  | nil => rfl
  | cons c r =>
    have hends : ((c == ':' && !false) || endsAuthority k c) = true := by
      rcases hr c rfl with rfl | h
      · rfl
      · rw [h, Bool.or_true]
    rw [hostText, if_pos hends]

/-- **The text of a host is found** in front of whatever follows it. -/
theorem hostText_append {s : List Char} (hs : Host.IsWritten s) {k : Kind} {r : List Char}
    (hr : ∀ c ∈ r.head?, c = ':' ∨ endsAuthority k c = true) :
    hostText k false (s ++ r) = (s, r) := by
  have hstop := hostText_of_head hr
  cases hs with
  | name h => rw [hostText_of_isPlain (fun c hc => .inr (h c hc)), hstop, List.append_nil]
  | bracketed h =>
    rename_i t
    have hclose : hostText k true (']' :: r) = ([']'], r) := by
      have hends : ((']' == ':' && !true) || endsAuthority k ']') = false := by cases k <;> rfl
      rw [hostText, if_neg (ne_true_of_eq_false hends)]
      simp [hstop]
    have hopen : (('[' == ':' && !false) || endsAuthority k '[') = false := by cases k <;> rfl
    rw [List.cons_append, List.append_assoc, List.singleton_append, hostText,
      if_neg (ne_true_of_eq_false hopen)]
    simp only [if_true]
    rw [hostText_of_isPlain (fun c hc => (h c hc).imp_left fun hcolon => ⟨hcolon, rfl⟩), hclose]

end TemplateShare.Url
