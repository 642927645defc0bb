import TemplateShare.Url.Punycode

/-! # Punycode is read back

A label that is written in Punycode is read back. While the characters of a code point are written,
the reader has in place all characters of lower code points, and those of this one as far as the
label has been gone through; the difference that is written next counts the steps from there.

* **`Punycode.number?_digits`** — a number in digits is read back.
* **`Punycode.Between`**, **`Punycode.Within`** — how far the reader is, between code points and
  within one.
* **`Punycode.decode_encode`** — a label is read back.
* **`Punycode.mem_encode`** — the characters that a label is written with. -/

namespace TemplateShare.Punycode

/-! ## Numbers -/

/-- The digits of a number are digits. -/
theorem mem_digits {bias position n : Nat} {c : Char} (h : c ∈ digits bias position n) :
    ∃ d < 36, c = digit d := by
  induction position, n using digits.induct bias with
  | case1 position n t hlt =>
    rw [digits, if_pos hlt, List.mem_singleton] at h
    exact ⟨n, Nat.lt_trans hlt (Nat.lt_of_le_of_lt (threshold_le _ _) (by decide)), h⟩
  | case2 position n t hlt ih =>
    rw [digits, if_neg hlt, List.mem_cons] at h
    rcases h with h | h
    · have hmod := Nat.mod_lt (n - t) (show 0 < 36 - t from Nat.sub_pos_of_lt
        (Nat.lt_of_le_of_lt (threshold_le _ _) (by decide)))
      exact ⟨t + (n - t) % (36 - t), by omega, h⟩
    · exact ih h

/-- A number has digits. -/
theorem digits_ne_nil (bias position n : Nat) : digits bias position n ≠ [] := by
  rw [digits]
  split <;> exact List.cons_ne_nil _ _

/-- A digit is read. -/
theorem number?_cons {c : Char} {d : Nat} (hc : value? c = some d) (bias position weight n : Nat)
    (s : List Char) : number? bias position weight n (c :: s) =
      if d < threshold bias position then some (n + d * weight, s)
      else number? bias (position + 36) (weight * (36 - threshold bias position))
        (n + d * weight) s := by
  simp [number?, hc]

/-- **A number in digits is read back**, whatever weight its first digit has. -/
theorem number?_digits (bias position weight n m : Nat) (s : List Char) :
    number? bias position weight n (digits bias position m ++ s) = some (n + m * weight, s) := by
  induction position, m using digits.induct bias generalizing weight n with
  | case1 position m t hlt =>
    have hdigit : m < 36 := Nat.lt_trans hlt (Nat.lt_of_le_of_lt (threshold_le _ _) (by decide))
    rw [digits, if_pos hlt]
    exact (number?_cons (value?_digit hdigit) bias position weight n s).trans (if_pos hlt)
  | case2 position m t hlt ih =>
    have hpos : 0 < 36 - t :=
      Nat.sub_pos_of_lt (Nat.lt_of_le_of_lt (threshold_le _ _) (by decide))
    have hmod := Nat.mod_lt (m - t) hpos
    have hdigit : t + (m - t) % (36 - t) < 36 := by omega
    -- The digit and what is left of the number make up the number.
    have hsum : n + (t + (m - t) % (36 - t)) * weight + (m - t) / (36 - t) * (weight * (36 - t)) =
        n + m * weight := by
      have hdiv : (m - t) % (36 - t) + (m - t) / (36 - t) * (36 - t) = m - t :=
        Nat.mod_add_div' _ _
      have hm : t + (m - t) % (36 - t) + (m - t) / (36 - t) * (36 - t) = m := by omega
      rw [Nat.mul_comm weight, ← Nat.mul_assoc, Nat.add_assoc, ← Nat.add_mul, hm]
    rw [digits, if_neg hlt, ← hsum, ← ih]
    exact (number?_cons (value?_digit hdigit) bias position weight n _).trans
      (if_neg (Nat.not_lt.2 (Nat.le_add_right _ _)))

/-! ## The reader -/

/-- **How far a reader is**: the characters in place, the code point and the place of the last one,
and the bias. -/
structure Reading where
  out : List Char
  code : Nat
  place : Nat
  bias : Nat

/-- What is read from there. -/
def Reading.resume (d : Reading) (fuel : Nat) (s : List Char) : Option (List Char) :=
  insertAll fuel d.out d.code d.place d.bias s

/-- **What is written takes the reader on**, whatever follows. It is made of digits, and of at least
one for each character. -/
structure Leads (x : List Char) (d d' : Reading) : Prop where
  digits : ∀ c ∈ x, ∃ n < 36, c = digit n
  resume : ∃ k ≤ x.length, ∀ fuel s, d.resume (fuel + k) (x ++ s) = d'.resume fuel s

variable {d d' d'' : Reading} {x y : List Char}

/-- Nothing takes the reader nowhere. -/
theorem Leads.refl (d : Reading) : Leads [] d d :=
  ⟨fun _ hc => (nomatch hc), 0, Nat.le_refl 0, fun _ _ => rfl⟩

/-- One thing after the other. -/
theorem Leads.trans (h : Leads x d d') (h' : Leads y d' d'') : Leads (x ++ y) d d'' where
  digits c hc := (List.mem_append.1 hc).elim (h.digits c) (h'.digits c)
  resume := by
    obtain ⟨k, hk, hread⟩ := h.resume
    obtain ⟨k', hk', hread'⟩ := h'.resume
    refine ⟨k' + k, by rw [List.length_append]; omega, fun fuel s => ?_⟩
    rw [List.append_assoc, ← Nat.add_assoc, hread, hread']

/-- **One difference puts one character in place.** -/
theorem leads_digits {c : Char} {delta place : Nat} (hplace : place ≤ d.out.length)
    (hcode : d.code ≤ c.toNat)
    (h : d.place + delta = (c.toNat - d.code) * (d.out.length + 1) + place) :
    Leads (digits d.bias 36 delta) d
      ⟨d.out.take place ++ c :: d.out.drop place, c.toNat, place + 1,
        adapt delta (d.out.length + 1) (d.place == 0)⟩ where
  digits c hc := mem_digits hc
  resume := by
    refine ⟨1, List.length_pos_iff.2 (digits_ne_nil _ _ _), fun fuel s => ?_⟩
    have hdiv : (d.place + delta) / (d.out.length + 1) = c.toNat - d.code := by
      rw [h, Nat.mul_comm, Nat.mul_add_div (by omega), Nat.div_eq_of_lt (by omega), Nat.add_zero]
    have hmod : (d.place + delta) % (d.out.length + 1) = place := by
      rw [h, Nat.mul_comm, Nat.mul_add_mod, Nat.mod_eq_of_lt (by omega)]
    have hnext : d.code + (d.place + delta) / (d.out.length + 1) = c.toNat := by omega
    have hempty : (digits d.bias 36 delta ++ s).isEmpty = false := by
      simp [digits_ne_nil]
    unfold Reading.resume
    rw [insertAll, hempty]
    simp only [Bool.false_eq_true, if_false, number?_digits, Option.bind_eq_bind, Option.bind_some,
      Nat.zero_add, Nat.mul_one]
    rw [hnext, hmod, if_pos (show c.toNat.isValidChar from c.valid), Char.ofNat_toNat]

/-! ## How far the reader is -/

section Progress

variable {basic m n : Nat} {s p q : List Char} {w : Writing}

/-- **Between code points**: all characters below `n` are in place, and the difference counts the
steps to the first place of `n`. -/
structure Between (s : List Char) (basic n : Nat) (w : Writing) (d : Reading) : Prop where
  out : d.out = s.filter (·.toNat < n)
  count : w.count = d.out.length
  bias : w.bias = d.bias
  code : d.code ≤ n
  delta : d.place + w.delta = (n - d.code) * (d.out.length + 1)
  first : (w.count == basic) = (d.place == 0)
  basic : basic ≤ w.count

/-- **Within a code point**: the label has been gone through up to behind `p`, and the characters of
the code point `m` are in place as far as that. -/
structure Within (p q : List Char) (basic m : Nat) (w : Writing) (d : Reading) : Prop where
  out : d.out = p.filter (·.toNat ≤ m) ++ q.filter (·.toNat < m)
  count : w.count = d.out.length
  bias : w.bias = d.bias
  code : d.code ≤ m
  delta : d.place + w.delta =
    (m - d.code) * (d.out.length + 1) + (p.filter (·.toNat ≤ m)).length
  first : (w.count == basic) = (d.place == 0)
  basic : basic ≤ w.count

/-- **A code point is begun.** None of the label lies before it that is not in place. -/
theorem Between.begin (h : Between s basic n w d) (hm : n ≤ m)
    (hnone : ∀ c ∈ s, c.toNat < m → c.toNat < n) :
    Within [] s basic m { w with delta := w.delta + (m - n) * (w.count + 1) } d where
  out := by
    rw [h.out, List.filter_nil, List.nil_append]
    refine List.filter_congr fun c hc => ?_
    by_cases hlt : c.toNat < n
    · simp [hlt, Nat.lt_of_lt_of_le hlt hm]
    · have hhigh : ¬c.toNat < m := fun hlow => hlt (hnone c hc hlow)
      rw [decide_eq_false hlt, decide_eq_false hhigh]
  count := h.count
  bias := h.bias
  code := Nat.le_trans h.code hm
  delta := by
    have hsplit : m - d.code = (n - d.code) + (m - n) := by have := h.code; omega
    have hdelta := h.delta
    show d.place + (w.delta + (m - n) * (w.count + 1)) = _
    rw [hsplit, Nat.add_mul, h.count, ← hdelta]
    simp only [List.filter_nil, List.length_nil]
    omega
  first := h.first
  basic := h.basic

/-- **A code point is done.** -/
theorem Within.done (h : Within s [] basic m w d) :
    Between s basic (m + 1) { w with delta := w.delta + 1 } d where
  out := by
    rw [h.out, List.filter_nil, List.append_nil]
    refine List.filter_congr fun c _ => ?_
    rw [decide_eq_decide, Nat.lt_succ_iff]
  count := h.count
  bias := h.bias
  code := Nat.le_succ_of_le h.code
  delta := by
    have hout : (s.filter (·.toNat ≤ m)).length = d.out.length := by
      rw [h.out, List.filter_nil, List.append_nil]
    have hsplit : m + 1 - d.code = (m - d.code) + 1 := by have := h.code; omega
    have hdelta := h.delta
    rw [hout] at hdelta
    show d.place + (w.delta + 1) = _
    rw [hsplit, Nat.add_mul, Nat.one_mul]
    omega
  first := h.first
  basic := h.basic

section Character

variable {c : Char}

/-- A character of a lower code point is in place already, and the difference steps over it. -/
theorem Within.pass (h : Within p (c :: q) basic m w d) (hlow : c.toNat < m) :
    Within (p ++ [c]) q basic m { w with delta := w.delta + 1 } d where
  out := by
    rw [h.out]
    simp [hlow, Nat.le_of_lt hlow]
  count := h.count
  bias := h.bias
  code := h.code
  delta := by
    have hdelta := h.delta
    show d.place + (w.delta + 1) = _
    simp only [List.filter_append, List.length_append]
    simp [Nat.le_of_lt hlow]
    omega
  first := h.first
  basic := h.basic

/-- A character of a higher code point is still to come. -/
theorem Within.wait (h : Within p (c :: q) basic m w d) (hhigh : m < c.toNat) :
    Within (p ++ [c]) q basic m w d where
  out := by
    rw [h.out]
    simp [Nat.lt_asymm hhigh, Nat.not_le.2 hhigh]
  count := h.count
  bias := h.bias
  code := h.code
  delta := by
    rw [h.delta]
    simp [Nat.not_le.2 hhigh]
  first := h.first
  basic := h.basic

/-- **A character of the code point is put in place** by the digits of the difference. -/
theorem Within.put (h : Within p (c :: q) basic m w d) (heq : c.toNat = m) :
    ∃ d', Leads (digits w.bias 36 w.delta) d d' ∧ Within (p ++ [c]) q basic m
      ⟨w.out ++ digits w.bias 36 w.delta, 0, adapt w.delta (w.count + 1) (w.count == basic),
        w.count + 1⟩ d' := by
  have hout : d.out = p.filter (·.toNat ≤ m) ++ q.filter (·.toNat < m) := by
    rw [h.out, List.filter_cons_of_neg (by simp [heq])]
  -- The character goes behind those of the label so far that are not greater.
  have hlength : (p.filter (·.toNat ≤ m)).length ≤ d.out.length := by
    rw [hout, List.length_append]
    omega
  have htake : d.out.take (p.filter (·.toNat ≤ m)).length = p.filter (·.toNat ≤ m) := by
    rw [hout, List.take_left']
    rfl
  have hdrop : d.out.drop (p.filter (·.toNat ≤ m)).length = q.filter (·.toNat < m) := by
    rw [hout, List.drop_left']
    rfl
  have hleads := leads_digits hlength (heq ▸ h.code) (by rw [heq]; exact h.delta)
  rw [htake, hdrop, heq, ← h.bias] at hleads
  refine ⟨_, hleads, ?_, ?_, ?_, Nat.le_refl m, ?_, ?_, Nat.le_succ_of_le h.basic⟩
  · simp [heq]
  · show w.count + 1 = _
    rw [h.count, hout]
    simp
    omega
  · show adapt w.delta (w.count + 1) (w.count == basic) = _
    rw [h.count, ← h.first, h.count]
  · simp [heq]
  · have hbasic := h.basic
    show (w.count + 1 == basic) = _
    rw [beq_eq_false_iff_ne.2 (by omega), beq_eq_false_iff_ne.2 (Nat.succ_ne_zero _)]

/-- **The label is gone through by one character.** -/
theorem Within.step (h : Within p (c :: q) basic m w d) :
    ∃ x d', (w.step basic m c).out = w.out ++ x ∧ Leads x d d' ∧
      Within (p ++ [c]) q basic m (w.step basic m c) d' := by
  unfold Writing.step
  rcases Nat.lt_trichotomy c.toNat m with hlow | heq | hhigh
  · rw [if_pos hlow]
    exact ⟨[], d, (List.append_nil _).symm, .refl d, h.pass hlow⟩
  · obtain ⟨d', hleads, hput⟩ := h.put heq
    rw [if_neg (Nat.not_lt.2 (Nat.le_of_eq heq.symm)), if_pos heq]
    exact ⟨_, d', rfl, hleads, hput⟩
  · rw [if_neg (Nat.lt_asymm hhigh), if_neg (Nat.ne_of_gt hhigh)]
    exact ⟨[], d, (List.append_nil _).symm, .refl d, h.wait hhigh⟩

end Character

/-- **The label is gone through.** -/
theorem Within.run (h : Within p q basic m w d) :
    ∃ x d', (q.foldl (Writing.step basic m) w).out = w.out ++ x ∧ Leads x d d' ∧
      Within (p ++ q) [] basic m (q.foldl (Writing.step basic m) w) d' := by
  induction q generalizing p w d with
  | nil => exact ⟨[], d, (List.append_nil _).symm, .refl d, by rwa [List.append_nil]⟩
  | cons c q ih =>
    obtain ⟨x, d₁, hout, hleads, hwithin⟩ := h.step
    obtain ⟨y, d₂, hout', hleads', hdone⟩ := ih hwithin
    refine ⟨x ++ y, d₂, ?_, hleads.trans hleads', ?_⟩
    · rw [List.foldl_cons, hout', hout, List.append_assoc]
    · rwa [List.append_assoc] at hdone

/-- **All code points are written**, if they come in order and all of the label is among them. -/
theorem Between.run {ms : List Nat} (h : Between s basic n w d) (horder : ms.Pairwise (· < ·))
    (hms : ∀ m ∈ ms, n ≤ m) (hall : ∀ c ∈ s, c.toNat < n ∨ c.toNat ∈ ms) :
    ∃ x d', (Writing.all s basic n ms w).out = w.out ++ x ∧ Leads x d d' ∧ d'.out = s := by
  induction ms generalizing n w d with
  | nil =>
    refine ⟨[], d, (List.append_nil _).symm, .refl d, ?_⟩
    rw [h.out, List.filter_eq_self]
    exact fun c hc => decide_eq_true ((hall c hc).resolve_right (List.not_mem_nil))
  | cons m ms ih =>
    have hlater : ∀ k ∈ ms, m < k := fun k hk => List.rel_of_pairwise_cons horder hk
    -- No code point of the label lies between the last one written and the next.
    have hbegin := h.begin (hms m List.mem_cons_self) fun c hc hlt => by
      rcases hall c hc with hlow | hmem
      · exact hlow
      · rcases List.mem_cons.1 hmem with heq | hmem
        · omega
        · have := hlater _ hmem
          omega
    obtain ⟨x, d₁, hout, hleads, hwithin⟩ := hbegin.run
    rw [List.nil_append] at hwithin
    obtain ⟨y, d₂, hout', hleads', hdone⟩ := ih hwithin.done horder.of_cons
      (fun k hk => hlater k hk) fun c hc => by
        rcases hall c hc with hlow | hmem
        · have := hms m List.mem_cons_self
          exact .inl (by omega)
        · rcases List.mem_cons.1 hmem with heq | hmem
          · exact .inl (by omega)
          · exact .inr hmem
    refine ⟨x ++ y, d₂, ?_, hleads.trans hleads', hdone⟩
    rw [Writing.all]
    dsimp only at hout' ⊢
    rw [hout', hout, List.append_assoc]

end Progress

/-! ## Labels -/

/-- What is in order is strictly so without what comes again. -/
theorem pairwise_eraseDups {l : List Nat} (h : l.Pairwise (· ≤ ·)) :
    l.eraseDups.Pairwise (· < ·) := by
  induction hlength : l.length using Nat.strongRecOn generalizing l with
  | _ len ih =>
  cases l with
  | nil => exact .nil
  | cons a l =>
    rw [List.eraseDups_cons, List.pairwise_cons]
    constructor
    · intro b hb
      rw [List.mem_eraseDups, List.mem_filter] at hb
      have hle : a ≤ b := List.rel_of_pairwise_cons h hb.1
      have hne : b ≠ a := by simpa using hb.2
      omega
    · have hshorter : (l.filter fun b => !b == a).length < len := by
        have := List.length_filter_le (fun b => !b == a) l
        rw [List.length_cons] at hlength
        omega
      exact ih _ hshorter (h.of_cons.filter _) rfl

/-- The code points outside of ASCII, in order. -/
theorem pairwise_eraseDups_mergeSort (l : List Nat) : l.mergeSort.eraseDups.Pairwise (· < ·) := by
  have hsorted : l.mergeSort.Pairwise fun a b => decide (a ≤ b) = true :=
    List.pairwise_mergeSort (fun a b c hab hbc => by simp_all; omega)
      (fun a b => by simp; omega) l
  exact pairwise_eraseDups (hsorted.imp fun h => by simpa using h)

/-- **What a label is written as**: its characters of ASCII, a hyphen behind them, and digits that
lead a reader of these characters to the label. -/
theorem encode_eq (s : List Char) : ∃ x d,
    encode s = s.filter (·.toNat < 0x80) ++
      (if (s.filter (·.toNat < 0x80)).isEmpty then [] else ['-']) ++ x ∧
    Leads x ⟨s.filter (·.toNat < 0x80), 0x80, 0, 72⟩ d ∧ d.out = s := by
  have hstart : Between s (s.filter (·.toNat < 0x80)).length 0x80
      ⟨[], 0, 72, (s.filter (·.toNat < 0x80)).length⟩ ⟨s.filter (·.toNat < 0x80), 0x80, 0, 72⟩ :=
    ⟨rfl, rfl, rfl, Nat.le_refl _, by simp, by simp, Nat.le_refl _⟩
  have hmem (m : Nat) : m ∈ ((s.map Char.toNat).filter (0x80 ≤ ·)).mergeSort.eraseDups ↔
      (∃ c ∈ s, c.toNat = m) ∧ 0x80 ≤ m := by
    simp [List.mem_eraseDups]
  obtain ⟨x, d, hout, hleads, hdone⟩ := hstart.run (pairwise_eraseDups_mergeSort _)
    (fun m hm => ((hmem m).1 hm).2) fun c hc => by
      by_cases hlow : c.toNat < 0x80
      · exact .inl hlow
      · exact .inr ((hmem _).2 ⟨⟨c, hc, rfl⟩, by omega⟩)
  refine ⟨x, d, ?_, hleads, hdone⟩
  rw [List.nil_append] at hout
  unfold encode
  dsimp only
  rw [hout]

/-- **A label is read back.** -/
theorem decode_encode (s : List Char) : decode (encode s) = some s := by
  obtain ⟨x, d, hencode, hleads, hdone⟩ := encode_eq s
  obtain ⟨k, hk, hread⟩ := hleads.resume
  have hhyphen : ∀ c ∈ x.reverse, (c != '-') = true := by
    intro c hc
    obtain ⟨n, hn, rfl⟩ := hleads.digits c (List.mem_reverse.1 hc)
    exact (by decide : ∀ n < 36, (digit n != '-') = true) n hn
  -- The last hyphen stands behind the characters of ASCII, and there is one if there are any.
  have htail : ((encode s).reverse.takeWhile (· != '-')).reverse = x := by
    rw [hencode, List.reverse_append, List.takeWhile_append_of_pos hhyphen]
    split
    · next hempty =>
      rw [List.isEmpty_iff.1 hempty]
      simp
    · simp
  have hbasic : (encode s).take ((encode s).length - x.length - 1) =
      s.filter (·.toNat < 0x80) := by
    rw [hencode]
    split
    · next hempty =>
      rw [List.isEmpty_iff.1 hempty]
      simp
    · rw [List.append_assoc, List.take_left']
      simp only [List.length_append, List.length_singleton]
      omega
  have hlength : k ≤ (encode s).length := by
    rw [hencode, List.length_append]
    omega
  have hall := hread ((encode s).length - k + 1) []
  rw [List.append_nil, show (encode s).length - k + 1 + k = (encode s).length + 1 by omega] at hall
  unfold decode
  dsimp only
  rw [htail, hbasic, if_pos (by simp)]
  exact hall.trans (congrArg some hdone)

/-- **The characters that a label is written with**: its own of ASCII, hyphens and digits. -/
theorem mem_encode {s : List Char} {c : Char} (h : c ∈ encode s) :
    (c ∈ s ∧ c.toNat < 0x80) ∨ c = '-' ∨ ∃ n < 36, c = digit n := by
  obtain ⟨x, d, hencode, hleads, -⟩ := encode_eq s
  rw [hencode, List.mem_append, List.mem_append] at h
  rcases h with (h | h) | h
  · left
    simpa using List.mem_filter.1 h
  · split at h
    · cases h
    · exact .inr (.inl (List.mem_singleton.1 h))
  · exact .inr (.inr (hleads.digits c h))

end TemplateShare.Punycode
