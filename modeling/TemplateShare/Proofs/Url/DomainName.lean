import TemplateShare.Proofs.Url.Punycode
import TemplateShare.Proofs.Url.Query
import TemplateShare.Url.DomainName

/-! # Domain names in ASCII stay as they are

The form of a domain name in ASCII is its own form in ASCII: a label in Punycode means the one that
it was made of, and any other label is one of ASCII already. So the labels that are meant are the
same, and what has been checked of them holds again.

* **`DomainName.IsHostChar`** — the characters of names in ASCII.
* **`DomainName.unicode?_write`** — a label that is written in ASCII means itself.
* **`DomainName.toAscii_write`**, **`DomainName.toAscii_toAscii`** — a name in ASCII. -/

namespace TemplateShare

/-- A function that may fail gives results for all members of a list. -/
theorem mapM_eq_some_iff {α β : Type} {f : α → Option β} {l : List α} {r : List β} :
    l.mapM f = some r ↔ l.map f = r.map some := by
  induction l generalizing r with
  | nil => cases r <;> simp
  | cons a l ih =>
    rw [List.mapM_cons]
    cases ha : f a with
    | none => cases r <;> simp [ha]
    | some b =>
      cases r with
      | nil => cases hl : l.mapM f <;> simp
      | cons c r =>
        simp only [List.map_cons, ha, List.cons.injEq, Option.some.injEq, ← ih]
        cases hl : l.mapM f <;> simp

namespace DomainName

open Url.Idna (mapChar)

/-! ## Characters -/

/-- **The characters of names in ASCII.** -/
def IsHostChar (c : Char) : Prop := isLabelChar c = true ∧ c.toNat < 0x80

instance (c : Char) : Decidable (IsHostChar c) := by unfold IsHostChar; infer_instance

/-- They count as themselves. -/
theorem mapChar_of_isHostChar {c : Char} (h : IsHostChar c) : mapChar c = [c] :=
  Text.forall_of_codes (p := fun c => isLabelChar c = true → mapChar c = [c]) (by decide) h.2 h.1

/-- They make up a text in ASCII. -/
theorem isAscii_of_isHostChar {s : List Char} (h : ∀ c ∈ s, IsHostChar c) : isAscii s = true :=
  List.all_eq_true.2 fun c hc => decide_eq_true (h c hc).2

/-- A text of such characters counts as itself. -/
theorem prepare_of_isHostChar {s : List Char} (h : ∀ c ∈ s, IsHostChar c) : prepare s = s := by
  have hmap : s.flatMap mapChar = s := by
    induction s with
    | nil => rfl
    | cons c s ih =>
      rw [List.flatMap_cons, mapChar_of_isHostChar (h c List.mem_cons_self),
        ih fun x hx => h x (List.mem_cons_of_mem c hx)]
      rfl
  rw [prepare, hmap, if_pos (isAscii_of_isHostChar h)]

/-- The characters of a label are allowed. -/
theorem isLabelChar_of_isLabel {s : List Char} (hs : isLabel s = true) {c : Char} (hc : c ∈ s) :
    isLabelChar c = true := by
  rw [isLabel, Bool.and_eq_true, List.all_eq_true] at hs
  exact hs.1 c hc

/-- A label in ASCII has allowed characters. -/
theorem isLabel_of_isHostChar {s : List Char} (h : ∀ c ∈ s, IsHostChar c) : isLabel s = true := by
  have hall : s.all isLabelChar = true := List.all_eq_true.2 fun c hc => (h c hc).1
  rw [isLabel, hall, isAscii_of_isHostChar h, Bool.true_or, Bool.and_self]

/-- The characters that a label is written with in Punycode. -/
theorem isHostChar_of_mem_encode {s : List Char} (hs : isLabel s = true) {c : Char}
    (h : c ∈ Punycode.encode s) : IsHostChar c := by
  rcases Punycode.mem_encode h with ⟨hmem, hascii⟩ | rfl | ⟨n, hn, rfl⟩
  · exact ⟨isLabelChar_of_isLabel hs hmem, hascii⟩
  · decide
  · exact (by decide : ∀ n < 36, IsHostChar (Punycode.digit n)) n hn

/-- They have no full stop if the label has none. -/
theorem dot_notMem_encode {s : List Char} (hs : '.' ∉ s) : '.' ∉ Punycode.encode s := by
  intro h
  rcases Punycode.mem_encode h with ⟨hmem, -⟩ | heq | ⟨n, hn, heq⟩
  · exact hs hmem
  · exact absurd heq (by decide)
  · exact (by decide : ∀ n < 36, '.' ≠ Punycode.digit n) n hn heq

/-! ## Labels -/

/-- The labels of a name are its pieces at the full stops. -/
theorem labels_eq (s : List Char) : labels s = Url.piecesAt '.' s := by
  induction s with
  | nil => rfl
  | cons c s ih =>
    cases hs : Url.piecesAt '.' s <;> simp only [labels, Url.piecesAt, ih, hs]

/-- **What a label means**: a valid label, which is the label itself, or which the label is written as
in Punycode. -/
theorem unicode?_cases {s u : List Char} (h : unicode? s = some u) :
    isLabel u = true ∧
      (isAscii u = false ∧ s = acePrefix ++ Punycode.encode u ∨
        u = s ∧ acePrefix.isPrefixOf s = false) := by
  unfold unicode? at h
  split at h
  · next hace =>
    split at h
    · cases h
    · next t _ =>
      obtain ⟨hvalid, rfl⟩ := Option.ite_some_none_eq_some.1 h
      simp only [Bool.and_eq_true, beq_iff_eq, Bool.not_eq_true'] at hvalid
      obtain ⟨⟨hlabel, hascii⟩, hencode⟩ := hvalid
      obtain ⟨r, rfl⟩ := List.isPrefixOf_iff_prefix.1 hace
      have hrest : Punycode.encode t = r := hencode
      exact ⟨hlabel, .inl ⟨hascii, by rw [hrest]⟩⟩
  · next hace =>
    obtain ⟨hlabel, rfl⟩ := Option.ite_some_none_eq_some.1 h
    exact ⟨hlabel, .inr ⟨rfl, Bool.eq_false_iff.2 hace⟩⟩

/-- **A label that is written in ASCII means itself.** -/
theorem unicode?_write {s u : List Char} (h : unicode? s = some u) :
    unicode? (write u) = some u ∧ (∀ c ∈ write u, IsHostChar c) ∧ ('.' ∉ s → '.' ∉ write u) := by
  obtain ⟨hlabel, hsource⟩ := unicode?_cases h
  cases hascii : isAscii u with
  | true =>
    obtain ⟨hother, -⟩ | ⟨rfl, -⟩ := hsource
    · rw [hascii] at hother
      cases hother
    · rw [write, if_pos hascii]
      refine ⟨h, fun c hc => ⟨isLabelChar_of_isLabel hlabel hc, ?_⟩, id⟩
      exact of_decide_eq_true (List.all_eq_true.1 hascii c hc)
  | false =>
    have hwrite : write u = acePrefix ++ Punycode.encode u := by rw [write, hascii]; rfl
    have hdrop : (acePrefix ++ Punycode.encode u).drop 4 = Punycode.encode u := rfl
    rw [hwrite]
    refine ⟨?_, fun c hc => ?_, fun hs => ?_⟩
    · rw [unicode?, if_pos (by simp), hdrop, Punycode.decode_encode]
      simp [hlabel, hascii]
    · rcases List.mem_append.1 hc with hc | hc
      · exact (by decide : ∀ c ∈ acePrefix, IsHostChar c) c hc
      · exact isHostChar_of_mem_encode hlabel hc
    · obtain ⟨-, rfl⟩ | ⟨rfl, -⟩ := hsource
      · exact hs
      · rw [List.mem_append, not_or]
        exact ⟨by decide, dot_notMem_encode hs⟩

/-! ## Names -/

/-- **Labels that are written in ASCII** are the name that they make up. -/
theorem toAscii_write {us : List (List Char)} (hne : us ≠ []) (hjoinable : areJoinable us = true)
    (hus : ∀ u ∈ us, unicode? (write u) = some u ∧ (∀ c ∈ write u, IsHostChar c) ∧ '.' ∉ write u) :
    toAscii (List.intercalate ['.'] (us.map write)) = some (List.intercalate ['.'] (us.map write)) ∧
      ∀ c ∈ List.intercalate ['.'] (us.map write), IsHostChar c := by
  have hchars : ∀ c ∈ List.intercalate ['.'] (us.map write), IsHostChar c := by
    intro c hc
    rcases Url.mem_intercalate hc with rfl | ⟨l, hl, hc⟩
    · decide
    · obtain ⟨u, hu, rfl⟩ := List.mem_map.1 hl
      exact (hus u hu).2.1 c hc
  have hlabels : labels (List.intercalate ['.'] (us.map write)) = us.map write := by
    rw [labels_eq, Url.piecesAt_intercalate (by simpa using hne) fun l hl => ?_]
    obtain ⟨u, hu, rfl⟩ := List.mem_map.1 hl
    exact (hus u hu).2.2
  have hmeant : (us.map write).mapM unicode? = some us := by
    rw [mapM_eq_some_iff, List.map_map]
    exact List.map_congr_left fun u hu => (hus u hu).1
  refine ⟨?_, hchars⟩
  rw [toAscii, prepare_of_isHostChar hchars, hlabels, hmeant]
  exact if_pos hjoinable

/-- **A name in ASCII stays as it is.** -/
theorem toAscii_toAscii {s name : List Char} (h : toAscii s = some name) :
    toAscii name = some name ∧ ∀ c ∈ name, IsHostChar c := by
  unfold toAscii at h
  split at h
  · cases h
  · next us hus =>
    obtain ⟨hjoinable, rfl⟩ := Option.ite_some_none_eq_some.1 h
    rw [labels_eq, mapM_eq_some_iff] at hus
    refine toAscii_write (fun hnil => ?_) hjoinable fun u hu => ?_
    · rw [hnil, List.map_nil, List.map_eq_nil_iff] at hus
      exact Url.piecesAt_ne_nil _ _ hus
    · have hmem : some u ∈ (Url.piecesAt '.' (prepare s)).map unicode? := by
        rw [hus]
        exact List.mem_map_of_mem hu
      obtain ⟨l, hl, hmeant⟩ := List.mem_map.1 hmem
      obtain ⟨hself, hchars, hdot⟩ := unicode?_write hmeant
      exact ⟨hself, hchars, hdot (Url.notMem_of_mem_piecesAt hl)⟩

end DomainName

end TemplateShare
