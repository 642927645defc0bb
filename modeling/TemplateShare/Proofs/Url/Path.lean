import Mathlib.Data.List.TakeWhile
import TemplateShare.Proofs.Url.Query
import TemplateShare.Proofs.Yaml.Record

/-! # Paths of URLs that are read

A path is read up to the query or the fragment, whatever it holds. What has been read is written
with characters that end no path, and starts with a slash wherever a host or a slash announced it.

* **`Url.not_mem_encodeWith`** — what has been encoded has no character of its set.
* **`Url.readPath_snd`**, **`Url.startPath_snd`** — what a path leaves.
* **`Url.IsRooted`**, **`Url.isRooted_readPath`**, **`Url.startPath_fst`** — paths that are read. -/

namespace TemplateShare.Url

/-! ## Encoded characters -/

/-- A letter or a digit is a character of ASCII. -/
theorem toNat_of_isAlphanum {c : Char} (h : c.isAlphanum = true) :
    0x30 ≤ c.toNat ∧ c.toNat ≤ 0x7A := Yaml.Scanner.IsNameChar.range (.inl h)

/-- No set holds the characters of a query that has been written. -/
theorem userinfoSet_of_isFormed {c : Char} (h : IsFormed c) : userinfoSet c = false := by
  rcases h with h | h
  · exact Text.forall_of_codes (p := fun c => c.isAlphanum = true → userinfoSet c = false)
      (by decide) (Nat.lt_succ_of_le (toNat_of_isAlphanum h).2) h
  · exact (by decide : ∀ c ∈ ['*', '-', '.', '_', '+', '%'], userinfoSet c = false) c h

/-- The set of a path is part of that of a user. -/
theorem pathSet_of_userinfoSet {c : Char} (h : userinfoSet c = false) : pathSet c = false := by
  simp only [userinfoSet, Bool.or_eq_false_iff] at h
  exact h.1.1.1.1.1.1.1.1.1.1

/-- The set of a fragment is part of that of a path. -/
theorem fragmentSet_of_pathSet {c : Char} (h : pathSet c = false) : fragmentSet c = false := by
  simp only [pathSet, Bool.or_eq_false_iff] at h
  exact h.1.1.1.1

/-- Controls and blanks are part of the set of a fragment. -/
theorem controlSet_of_fragmentSet {c : Char} (h : fragmentSet c = false) :
    controlSet c = false ∧ c ≠ ' ' := by
  simp only [fragmentSet, Bool.or_eq_false_iff, beq_eq_false_iff_ne] at h
  exact ⟨h.1.1.1.1.1, h.1.1.1.1.2⟩

/-- What has been encoded has characters of the text and such as octets are written with. -/
theorem mem_encodeWith {set : Char → Bool} {s : List Char} {c : Char} (h : c ∈ encodeWith set s) :
    (c ∈ s ∧ set c = false) ∨ IsFormed c := by
  obtain ⟨x, hmem, hx⟩ := List.mem_flatMap.1 h
  by_cases hin : set x = true
  · rw [if_pos hin] at hx
    obtain ⟨b, -, hb⟩ := List.mem_flatMap.1 hx
    exact .inr (isFormed_encodedOctet hb).1
  · rw [if_neg hin, List.mem_singleton] at hx
    rw [hx]
    exact .inl ⟨hmem, by simpa using hin⟩

/-- **What has been encoded has no character of its set.** -/
theorem not_mem_encodeWith {set : Char → Bool} (hset : ∀ c, IsFormed c → set c = false)
    {s : List Char} {c : Char} (h : c ∈ encodeWith set s) : set c = false :=
  (mem_encodeWith h).elim (·.2) (hset c)

/-- What a path encodes does not end it. -/
theorem not_endsPath_of_pathSet {c : Char} (h : pathSet c = false) : endsPath c = false := by
  simp only [pathSet, Bool.or_eq_false_iff, beq_eq_false_iff_ne] at h
  simp [endsPath, h.1.1.1.2, h.1.1.2]

/-! ## What a path leaves -/

/-- A run of characters ends where one follows that does not belong to it. -/
theorem takeWhile_append_stop {p : Char → Bool} {s r : List Char} (hs : ∀ c ∈ s, p c = true)
    (hr : ∀ c ∈ r.head?, p c = false) : (s ++ r).takeWhile p = s := by
  rw [List.takeWhile_append_of_pos hs]
  cases r with
  | nil => exact List.append_nil s
  | cons c r =>
    rw [List.takeWhile_cons_of_neg (ne_true_of_eq_false (hr c rfl)), List.append_nil]

/-- What follows such a run is left. -/
theorem dropWhile_append_stop {p : Char → Bool} {s r : List Char} (hs : ∀ c ∈ s, p c = true)
    (hr : ∀ c ∈ r.head?, p c = false) : (s ++ r).dropWhile p = r := by
  rw [List.dropWhile_append_of_pos hs]
  cases r with
  | nil => rfl
  | cons c r => rw [List.dropWhile_cons_of_neg (ne_true_of_eq_false (hr c rfl))]

/-- A text up to the first character of some kind, and from there on. -/
theorem exists_append_stop (p : Char → Bool) (s : List Char) :
    ∃ t r, s = t ++ r ∧ (∀ c ∈ t, p c = false) ∧ ∀ c ∈ r.head?, p c = true := by
  refine ⟨s.takeWhile (!p ·), s.dropWhile (!p ·), List.takeWhile_append_dropWhile.symm,
    fun c hc => by simpa using List.mem_takeWhile_imp hc, fun c hc => ?_⟩
  have hhead := List.head?_dropWhile_not (!p ·) s
  rw [hc] at hhead
  simpa using hhead

/-- A slash does not end a path. -/
theorem not_endsPath_of_isSlash {k : Kind} {c : Char} (h : k.isSlash c = true) :
    endsPath c = false := by
  simp only [Kind.isSlash, Bool.or_eq_true, Bool.and_eq_true, beq_iff_eq] at h
  rcases h with rfl | ⟨rfl, -⟩ <;> rfl

/-- The first segment of a text is put onto a path, and the next ones after it. -/
theorem readSegments_append {k : Kind} {s : List Char} (fuel : Nat) (path : List Char) {c : Char}
    (hs : ∀ c ∈ s, (k.isSlash c || endsPath c) = false) (hc : k.isSlash c = true) (r : List Char) :
    readSegments k (fuel + 1) path (s ++ c :: r) =
      readSegments k fuel (pushSegment k path (encodeWith pathSet s) false) r := by
  have hinside : ∀ c ∈ s, (!(k.isSlash c || endsPath c)) = true := by simpa using hs
  have hstop : ∀ d ∈ (c :: r).head?, (!(k.isSlash d || endsPath d)) = false := by
    rintro d ⟨⟩
    simp [hc]
  rw [readSegments, takeWhile_append_stop hinside hstop, dropWhile_append_stop hinside hstop]
  exact if_pos hc

/-- The last one is put onto it in front of what ends the path. -/
theorem readSegments_last {k : Kind} {s r : List Char} (fuel : Nat) (path : List Char)
    (hs : ∀ c ∈ s, (k.isSlash c || endsPath c) = false) (hr : ∀ c ∈ r.head?, endsPath c = true) :
    readSegments k (fuel + 1) path (s ++ r) =
      (pushSegment k path (encodeWith pathSet s) true, r) := by
  have hinside : ∀ c ∈ s, (!(k.isSlash c || endsPath c)) = true := by simpa using hs
  have hstop : ∀ c ∈ r.head?, (!(k.isSlash c || endsPath c)) = false := by
    intro c hc
    simp [hr c hc]
  rw [readSegments, takeWhile_append_stop hinside hstop, dropWhile_append_stop hinside hstop]
  cases r with
  | nil => rfl
  | cons c r =>
    have hslash : ¬k.isSlash c = true := fun hslash => by
      simpa [not_endsPath_of_isSlash hslash] using hr c rfl
    exact if_neg hslash

/-- **Segments are read up to the end of the path.** -/
theorem readSegments_snd (k : Kind) {fuel : Nat} (path : List Char) {s : List Char}
    (h : s.length < fuel) : (readSegments k fuel path s).2 = s.dropWhile (!endsPath ·) := by
  induction fuel generalizing path s with
  | zero => exact absurd h (Nat.not_lt_zero _)
  | succ fuel ih =>
    -- The text up to the first character that ends a segment does not end the path.
    obtain ⟨t, r, rfl, ht, hr⟩ := exists_append_stop (fun c => k.isSlash c || endsPath c) s
    have hinside : ∀ c ∈ t, (!endsPath c) = true := by
      intro c hc
      rw [(Bool.or_eq_false_iff.1 (ht c hc)).2]
      rfl
    rw [List.dropWhile_append_of_pos hinside]
    cases r with
    | nil =>
      rw [readSegments_last fuel path ht (by simp)]
      rfl
    | cons c r =>
      by_cases hslash : k.isSlash c = true
      · rw [List.length_append, List.length_cons] at h
        rw [readSegments_append fuel path ht hslash, ih _ (by omega),
          List.dropWhile_cons_of_pos (by rw [not_endsPath_of_isSlash hslash]; rfl)]
      · have hend : endsPath c = true := by simpa [hslash] using hr c rfl
        rw [readSegments_last fuel path ht (by simpa using hend),
          List.dropWhile_cons_of_neg (by simp [hend])]

/-- **A path is read up to its end.** -/
theorem readPath_snd (k : Kind) (path s : List Char) :
    (readPath k path s).2 = s.dropWhile (!endsPath ·) := by
  unfold readPath
  dsimp only
  split <;> exact readSegments_snd k path (Nat.lt_succ_self _)

/-- A path from its start is read up to its end. -/
theorem startPath_snd (k : Kind) (s : List Char) :
    (startPath k s).2 = s.dropWhile (!endsPath ·) := by
  have hspecial : ∀ c r, (readPath k ['/'] (if k.isSlash c then r else c :: r)).2 =
      (c :: r).dropWhile (!endsPath ·) := by
    intro c r
    rw [readPath_snd]
    split
    · next hslash =>
      rw [List.dropWhile_cons_of_pos (by rw [not_endsPath_of_isSlash hslash]; rfl)]
    · rfl
  unfold startPath
  split
  · rfl
  · next c r =>
    split
    · next hends => rw [List.dropWhile_cons_of_neg (by simp [hends])]
    · exact readPath_snd _ _ _
  · exact hspecial _ _
  · exact readPath_snd _ _ _

/-! ## Paths that are read -/

/-- **A path that starts with a slash**, as it is written. -/
structure IsRooted (path : List Char) : Prop where
  head : path.head? = some '/'
  chars : ∀ c ∈ path, pathSet c = false

/-- The shortest one. -/
theorem isRooted_slash : IsRooted ['/'] := ⟨rfl, by decide⟩

namespace IsRooted

variable {path : List Char}

/-- More may follow. -/
theorem append (h : IsRooted path) {s : List Char} (hs : ∀ c ∈ s, pathSet c = false) :
    IsRooted (path ++ s) where
  head := by rw [List.head?_append, h.head, Option.some_or]
  chars c hc := (List.mem_append.1 hc).elim (h.chars c) (hs c)

/-- A part from its start is one, unless it is empty. -/
theorem of_prefix (h : IsRooted path) {front : List Char} (hfront : front <+: path)
    (hne : front ≠ []) : IsRooted front where
  head := by
    obtain ⟨c, s, rfl⟩ := List.exists_cons_of_ne_nil hne
    obtain ⟨r, rfl⟩ := hfront
    exact h.head
  chars c hc := h.chars c (hfront.subset hc)

/-- Up to its last slash there is at least the first one. -/
theorem upToSlash (h : IsRooted path) : IsRooted (upToSlash path) := by
  have hmem : '/' ∈ path := List.mem_of_head? h.head
  refine h.of_prefix ?_ ?_
  · unfold Url.upToSlash
    rw [← List.reverse_suffix, List.reverse_reverse]
    exact List.dropWhile_suffix _
  · unfold Url.upToSlash
    intro hnil
    have hall := List.dropWhile_eq_nil_iff.1 (List.reverse_eq_nil_iff.1 hnil)
    exact absurd (hall '/' (List.mem_reverse.2 hmem)) (by decide)

/-- Without its last segment, unless that is a drive. -/
theorem popSegment (h : IsRooted path) (k : Kind) : IsRooted (popSegment k path) := by
  unfold Url.popSegment
  split
  · exact h
  · exact h.upToSlash

/-- With a slash at its end. -/
theorem closed (h : IsRooted path) : IsRooted (closed path) := by
  unfold Url.closed
  split
  · exact h
  · exact h.append (by decide)

/-- One segment up. -/
theorem goUp (h : IsRooted path) (k : Kind) : IsRooted (goUp k path) := by
  have hshort : IsRooted (if path.getLast? = some '/' ∧ slashMayGo path then path.dropLast
      else path) := by
    split
    · next hmay =>
      refine h.of_prefix (List.dropLast_prefix path) fun hnil => ?_
      have hslash := hmay.2
      simp [slashMayGo, hnil] at hslash
    · exact h
  exact hshort.popSegment k

/-- **A segment that is put onto it.** -/
theorem pushSegment (h : IsRooted path) {segment : List Char}
    (hsegment : ∀ c ∈ segment, pathSet c = false) (k : Kind) (isLast : Bool) :
    IsRooted (pushSegment k path segment isLast) := by
  have hslash : ∀ c ∈ if isLast then [] else ['/'], pathSet c = false := by
    cases isLast <;> decide
  unfold Url.pushSegment
  split
  · dsimp only
    split
    · exact h.goUp k
    · exact (h.goUp k).closed
  · split
    · exact h.closed
    · refine (h.append fun c hc => ?_).append hslash
      split at hc
      · rcases List.mem_append.1 hc with hc | hc
        · exact hsegment c (List.mem_of_mem_take hc)
        · rw [List.mem_singleton.1 hc]
          rfl
      · exact hsegment c hc

/-- **Segments that are read onto it.** -/
theorem readSegments (h : IsRooted path) (k : Kind) (fuel : Nat) (s : List Char) :
    IsRooted (readSegments k fuel path s).1 := by
  induction fuel generalizing path s with
  | zero => exact h
  | succ fuel ih =>
    have hsegment : ∀ c ∈ encodeWith pathSet
        (s.takeWhile fun c => !(k.isSlash c || endsPath c)), pathSet c = false := fun c hc =>
      not_mem_encodeWith (fun _ hx => pathSet_of_userinfoSet (userinfoSet_of_isFormed hx)) hc
    rw [Url.readSegments]
    dsimp only
    split
    · exact h.pushSegment hsegment k true
    · split
      · exact ih (h.pushSegment hsegment k false) _
      · exact h.pushSegment hsegment k true

/-- **A path that is read onto it.** -/
theorem readPath (h : IsRooted path) (k : Kind) (s : List Char) :
    IsRooted (readPath k path s).1 := by
  have hread := h.readSegments k (s.length + 1) s
  unfold Url.readPath
  dsimp only
  split
  · refine ⟨rfl, fun c hc => ?_⟩
    rcases List.mem_cons.1 hc with rfl | hc
    · rfl
    · exact hread.chars c ((List.dropWhile_suffix _).subset hc)
  · exact hread

end IsRooted

/-- A slash in front is the end of an empty segment. -/
theorem readPath_nil {k : Kind} {c : Char} (h : k.isSlash c = true) (s : List Char) :
    readPath k [] (c :: s) = readPath k ['/'] s := by
  have hfirst : readSegments k ((c :: s).length + 1) [] (c :: s) =
      readSegments k (s.length + 1) ['/'] s := by
    rw [readSegments]
    simp [h, pushSegment, isDoubleDot, isSingleDot]
  unfold readPath
  rw [hfirst]

/-- **A path from its start.** Only where a scheme is not special may there be none. -/
theorem startPath_fst (k : Kind) (s : List Char) :
    IsRooted (startPath k s).1 ∨ (k = .other ∧ (startPath k s).1 = []) := by
  unfold startPath
  split
  · exact .inr ⟨rfl, rfl⟩
  · next c r =>
    split
    · exact .inr ⟨rfl, rfl⟩
    · left
      by_cases hslash : c = '/'
      · rw [if_pos hslash, hslash, readPath_nil rfl]
        exact isRooted_slash.readPath .other r
      · rw [if_neg hslash]
        exact isRooted_slash.readPath .other (c :: r)
  · exact .inl (isRooted_slash.readPath k _)
  · exact .inl (isRooted_slash.readPath k [])

end TemplateShare.Url
