import TemplateShare.Json.Value

/-! # JSON texts that have been written

What the writer of JSON writes is read as the value that was meant, whatever stands behind it.

* **`Json.IsWritten`** — a text that is read as a value.
* **`Json.isWritten_quote`**, **`Json.isWritten_objectText`** — the writer's texts are.
* **`Json.parse_of_isWritten`** — a whole text. -/

namespace TemplateShare

namespace Json

/-- **A text that is read as a value**, whatever stands behind it. -/
def IsWritten (t : List Char) (v : Json) : Prop :=
  ∀ (fuel : Nat) (rest : List Char), t.length ≤ fuel → value fuel (t ++ rest) = some (v, rest)

/-! ## Strings -/

/-- A low control character is written with four digits. -/
theorem hex4?_lower {n : Nat} (h : n < 0x20) (r : List Char) :
    hex4? (Hex.lower 4 n ++ r) = some (n, r) := by
  have hnumber : Hex.number? (Hex.lower 4 n) = some n :=
    (by decide : ∀ n < 0x20, Hex.number? (Hex.lower 4 n) = some n) n h
  obtain ⟨a, b, c, d, hdigits⟩ : ∃ a b c d, Hex.lower 4 n = [a, b, c, d] := ⟨_, _, _, _, rfl⟩
  rw [hdigits] at hnumber ⊢
  show (Hex.number? [a, b, c, d]).map (·, r) = _
  rw [hnumber]
  rfl

/-- **A character inside a string is read back.** -/
theorem stringBody_quotedChar (c : Char) (fuel : Nat) (r : List Char) :
    stringBody (fuel + 1) (quotedChar c ++ r) =
      (stringBody fuel r).map fun x => (some c :: x.1, x.2) := by
  unfold quotedChar
  split
  · next h => rw [h]; rfl
  split
  · next h => rw [h]; rfl
  split
  · next h => rw [h]; rfl
  split
  · next h => rw [h]; rfl
  split
  · next h => rw [h]; rfl
  split
  · next h => rw [h]; rfl
  split
  · next h => rw [h]; rfl
  next hquote hescape _ _ _ _ _ =>
  -- Other control characters are written as their codes, and all the rest as they are.
  by_cases hlow : c.toNat < 0x20
  · have hhex := hex4?_lower hlow r
    rw [if_pos hlow, List.cons_append, List.cons_append, stringBody, hhex]
    dsimp only
    rw [if_neg (by omega), if_neg (by omega), Char.ofNat_toNat]
  · rw [if_neg hlow, List.singleton_append]
    rw [stringBody]
    · have hplain : (decide (c.toNat < 0x20) || c == '\\') = false := by
        simp [hlow, hescape]
      rw [hplain]
      rfl
    · exact hquote
    · intro s hs
      exact absurd hs hescape
    · intro x s hs
      exact absurd hs hescape

/-- The characters of a string are read up to its closing quote. -/
theorem stringBody_quote (s : List Char) {fuel : Nat} (h : s.length < fuel) (rest : List Char) :
    stringBody fuel (s.flatMap quotedChar ++ '"' :: rest) = some (s.map some, rest) := by
  induction s generalizing fuel with
  | nil =>
    obtain ⟨fuel, rfl⟩ : ∃ k, fuel = k + 1 := ⟨fuel - 1, by simp at h; omega⟩
    rfl
  | cons c s ih =>
    obtain ⟨fuel, rfl⟩ : ∃ k, fuel = k + 1 := ⟨fuel - 1, by simp at h; omega⟩
    rw [List.flatMap_cons, List.append_assoc, stringBody_quotedChar,
      ih (by simp at h; omega)]
    rfl

/-- A text is no longer than what is written for it. -/
theorem length_le_flatMap_quotedChar (s : List Char) : s.length ≤ (s.flatMap quotedChar).length := by
  induction s with
  | nil => exact Nat.le_refl _
  | cons c s ih =>
    have hone : 1 ≤ (quotedChar c).length := by
      unfold quotedChar
      repeat' split
      all_goals simp
    rw [List.flatMap_cons, List.length_append, List.length_cons]
    omega

/-- **A string is read back** behind its opening quote. -/
theorem stringRest_quote (s rest : List Char) :
    stringRest (s.flatMap quotedChar ++ '"' :: rest) = some (some s, rest) := by
  have hlen := length_le_flatMap_quotedChar s
  have hpieces : (s.map some).mapM id = some s := by
    induction s with
    | nil => rfl
    | cons c s ih =>
      rw [List.map_cons, List.mapM_cons, ih (length_le_flatMap_quotedChar s)]
      rfl
  rw [stringRest, stringBody_quote s (by rw [List.length_append]; omega)]
  simp [hpieces]

/-- **A text in quotes is read as its text.** -/
theorem isWritten_quote (s : List Char) : IsWritten (quote s) (.text (some s)) := by
  intro fuel rest hfuel
  obtain ⟨fuel, rfl⟩ : ∃ k, fuel = k + 1 := ⟨fuel - 1, by simp [quote] at hfuel; omega⟩
  have hshape : quote s ++ rest = '"' :: (s.flatMap quotedChar ++ '"' :: rest) := by simp [quote]
  rw [hshape, value]
  show (stringRest (s.flatMap quotedChar ++ '"' :: rest)).map _ = _
  rw [stringRest_quote]
  rfl

/-! ## Objects -/

/-- **A member of an object**: its key, its value, and how the value is written. -/
structure Member where
  key : List Char
  text : List Char
  value : Json

/-- A member as it is written. -/
def Member.chars (m : Member) : List Char := quote m.key ++ [':'] ++ m.text

/-- Members as they are written. -/
def memberChars (ms : List Member) : List Char := List.intercalate [','] (ms.map Member.chars)

/-- The first of many members. -/
theorem memberChars_cons_cons (m m' : Member) (ms : List Member) :
    memberChars (m :: m' :: ms) = m.chars ++ ',' :: memberChars (m' :: ms) := rfl

/-- A member alone. -/
theorem memberChars_singleton (m : Member) : memberChars [m] = m.chars := by
  simp [memberChars, List.intercalate]

/-- A member and what follows it. -/
theorem members_chars {m : Member} (h : IsWritten m.text m.value) {fuel : Nat}
    (hfuel : m.text.length ≤ fuel) (rest : List Char) :
    members (fuel + 1) (m.chars ++ rest) =
      match skip rest with
      | ',' :: s => (members fuel s).map fun x => ((some m.key, m.value) :: x.1, x.2)
      | '\x7d' :: s => some ([(some m.key, m.value)], s)
      | _ => none := by
  have hshape : m.chars ++ rest =
      '"' :: (m.key.flatMap quotedChar ++ '"' :: (':' :: (m.text ++ rest))) := by
    simp [Member.chars, quote]
  rw [hshape, members]
  show (stringRest (m.key.flatMap quotedChar ++ '"' :: (':' :: (m.text ++ rest)))).bind _ = _
  rw [stringRest_quote]
  show (value fuel (m.text ++ rest)).bind _ = _
  rw [h fuel rest hfuel]
  rfl

/-- The members of an object, as a reader gets them. -/
def readMembers (ms : List Member) : List (Option (List Char) × Json) :=
  ms.map fun m => (some m.key, m.value)

/-- **Members are read one after the other**, up to the end of their object. -/
theorem members_memberChars {ms : List Member} (hne : ms ≠ [])
    (h : ∀ m ∈ ms, IsWritten m.text m.value) {fuel : Nat}
    (hfuel : (memberChars ms).length ≤ fuel) (rest : List Char) :
    members fuel (memberChars ms ++ '\x7d' :: rest) = some (readMembers ms, rest) := by
  induction ms generalizing fuel with
  | nil => exact absurd rfl hne
  | cons m ms ih =>
    have hm := h m List.mem_cons_self
    have hmember : m.text.length + 1 ≤ m.chars.length := by
      simp only [Member.chars, List.length_append, List.length_singleton]
      omega
    -- The last member is followed by the brace, every other one by a comma.
    cases ms with
    | nil =>
      rw [memberChars_singleton] at hfuel ⊢
      obtain ⟨fuel, rfl⟩ : ∃ k, fuel = k + 1 := ⟨fuel - 1, by omega⟩
      rw [members_chars hm (by omega)]
      rfl
    | cons m' ms =>
      rw [memberChars_cons_cons, List.length_append, List.length_cons] at hfuel
      obtain ⟨fuel, rfl⟩ : ∃ k, fuel = k + 1 := ⟨fuel - 1, by omega⟩
      have hmore := ih (List.cons_ne_nil _ _) (fun x hx => h x (List.mem_cons_of_mem m hx))
        (show (memberChars (m' :: ms)).length ≤ fuel by omega)
      rw [memberChars_cons_cons, List.append_assoc, List.cons_append, members_chars hm (by omega)]
      show (members fuel _).map _ = _
      rw [hmore]
      rfl

/-- **An object is read as its members**, if it has any. -/
theorem isWritten_objectText {ms : List Member} (hne : ms ≠ [])
    (h : ∀ m ∈ ms, IsWritten m.text m.value) :
    IsWritten (objectText (ms.map fun m => (m.key, m.text))) (.object (readMembers ms)) := by
  intro fuel rest hfuel
  have hobject : objectText (ms.map fun m => (m.key, m.text)) =
      '\x7b' :: (memberChars ms ++ ['\x7d']) := by
    rw [objectText, List.map_map]
    rfl
  rw [hobject, List.length_cons, List.length_append] at hfuel
  obtain ⟨fuel, rfl⟩ : ∃ k, fuel = k + 1 := ⟨fuel - 1, by omega⟩
  have hread := members_memberChars hne h (show (memberChars ms).length ≤ fuel by omega) rest
  obtain ⟨r, hr⟩ : ∃ r, memberChars ms ++ '\x7d' :: rest = '"' :: r := by
    obtain ⟨m, ms, rfl⟩ := List.exists_cons_of_ne_nil hne
    cases ms <;> exact ⟨_, rfl⟩
  rw [hobject, List.cons_append, List.append_assoc, List.singleton_append, value]
  rw [hr] at hread ⊢
  show (members fuel ('"' :: r)).map _ = _
  rw [hread]
  rfl

/-- **A text that has been written is the text of its value.** -/
theorem parse_of_isWritten {t : List Char} {v : Json} (h : IsWritten t v) : parse t = some v := by
  have hvalue := h (t.length + 1) [] (Nat.le_succ _)
  rw [List.append_nil] at hvalue
  rw [parse, hvalue]
  rfl

end Json

end TemplateShare
