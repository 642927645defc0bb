import TemplateShare.Proofs.Url.Path

/-! # Paths that a slash closes

A slash may be put behind a path before it is read or afterwards: it comes to the same.

* **`Url.IsUnclosed`** — texts that end within a path, and not with a slash.
* **`Url.readSegments_slash`**, **`Url.startPath_slash`** — with a slash behind a text, the path that
  is read of it is closed. -/

namespace TemplateShare.Url

variable {k : Kind} {s t b path : List Char}

/-! ## Closed paths -/

/-- A closed path ends with a slash. -/
@[simp] theorem getLast?_closed (path : List Char) : (closed path).getLast? = some '/' := by
  unfold closed
  split
  · assumption
  · exact List.getLast?_concat

/-- A path that ends with a slash is closed. -/
theorem closed_of_getLast? (h : path.getLast? = some '/') : closed path = path := if_pos h

/-- Any other path is closed by a slash. -/
theorem closed_of_getLast?_ne (h : path.getLast? ≠ some '/') : closed path = path ++ ['/'] :=
  if_neg h

/-- What stands in front does not matter. -/
theorem append_closed (p : List Char) (hpath : path ≠ []) :
    closed (p ++ path) = p ++ closed path := by
  have hlast : (p ++ path).getLast? = path.getLast? := by
    rw [List.getLast?_append, List.getLast?_eq_some_getLast hpath, Option.some_or]
  unfold closed
  rw [hlast]
  split
  · rfl
  · exact List.append_assoc _ _ _

/-! ## Texts that a slash may follow -/

/-- **A text that ends within a path**, and not with a slash. -/
structure IsUnclosed (k : Kind) (s : List Char) : Prop where
  chars : ∀ c ∈ s, endsPath c = false
  last : ∀ c ∈ s.getLast?, k.isSlash c = false

instance (k : Kind) (s : List Char) : Decidable (IsUnclosed k s) :=
  decidable_of_iff (s.all (!endsPath ·) = true ∧ s.getLast?.all (!k.isSlash ·) = true)
    ⟨fun h => ⟨by simpa using h.1, by simpa [Option.all_eq_true] using h.2⟩,
      fun h => ⟨by simpa using h.chars, by simpa [Option.all_eq_true] using h.last⟩⟩

namespace IsUnclosed

/-- So does a part up to the end. -/
theorem of_suffix (h : IsUnclosed k s) (ht : t <:+ s) : IsUnclosed k t where
  chars c hc := h.chars c (ht.subset hc)
  last c hc := h.last c (by
    obtain ⟨p, rfl⟩ := ht
    rw [List.getLast?_append, hc]
    rfl)

/-- A slash in front is not the last character. -/
theorem ne_nil_of_slash {c : Char} (h : IsUnclosed k (c :: s)) (hc : k.isSlash c = true) :
    s ≠ [] := by
  rintro rfl
  have hlast := h.last c rfl
  rw [hc] at hlast
  cases hlast

end IsUnclosed

/-- What ends a path separates no segments. -/
theorem not_isSlash_of_endsPath {c : Char} (h : endsPath c = true) (k : Kind) :
    k.isSlash c = false := by
  by_contra hslash
  rw [Bool.not_eq_false] at hslash
  rw [not_endsPath_of_isSlash hslash] at h
  cases h

/-! ## Segments -/

/-- A text that is encoded has no slash unless it had one. -/
theorem notMem_encodeWith_pathSet (hs : '/' ∉ s) : '/' ∉ encodeWith pathSet s := by
  intro hmem
  rcases mem_encodeWith hmem with ⟨hmem, -⟩ | hformed
  · exact hs hmem
  · revert hformed
    decide

/-- Something is left of what is encoded. -/
theorem encodeWith_ne_nil (set : Char → Bool) (hs : s ≠ []) : encodeWith set s ≠ [] := by
  obtain ⟨c, s, rfl⟩ := List.exists_cons_of_ne_nil hs
  unfold encodeWith
  rw [List.flatMap_cons]
  refine List.append_ne_nil_of_left_ne_nil ?_ _
  split
  · have hlength : 0 < (Utf8.encode (String.ofList [c])).length := by
      rw [Utf8.encode_ofList, List.flatMap_singleton, String.length_utf8EncodeChar]
      exact c.utf8Size_pos
    obtain ⟨b, bs, hb⟩ := List.exists_cons_of_length_pos hlength
    rw [encodedChar, hb, List.flatMap_cons, encodedOctet]
    simp
  · exact List.cons_ne_nil _ _

/-- Nothing changes where nothing follows a slash. -/
theorem pushSegment_nil (k : Kind) (path : List Char) : pushSegment k path [] true = path := by
  simp [pushSegment, isDoubleDot, isSingleDot, isDrive]

/-- **A slash behind a segment** closes the path. -/
theorem pushSegment_false (k : Kind) (path : List Char) (hne : s ≠ []) (hs : '/' ∉ s) :
    pushSegment k path s false = closed (pushSegment k path s true) := by
  unfold pushSegment
  split
  · rfl
  · split
    · exact (closed_of_getLast? (getLast?_closed path)).symm
    · dsimp only
      generalize hsegment :
        (if k = .file ∧ path.length = 1 ∧ isDrive s then s.take 1 ++ [':'] else s) = segment
      have hlast : segment ≠ [] ∧ '/' ∉ segment := by
        rw [← hsegment]
        split
        · refine ⟨by simp, fun hmem => ?_⟩
          rcases List.mem_append.1 hmem with hmem | hmem
          · exact hs (List.mem_of_mem_take hmem)
          · cases hmem with
            | tail _ hmem => cases hmem
        · exact ⟨hne, hs⟩
      rw [if_pos rfl, List.append_nil, append_closed _ hlast.1, closed_of_getLast?_ne fun h =>
        hlast.2 (List.mem_of_getLast? h), if_neg (by decide), List.append_assoc]

/-- Nothing is read of what ends a path. -/
theorem readSegments_stop (fuel : Nat) (path : List Char) (hb : ∀ c ∈ b.head?, endsPath c = true) :
    readSegments k (fuel + 1) path b = (path, b) := by
  have hlast := readSegments_last (k := k) fuel path (s := []) (fun _ hc => nomatch hc) hb
  rw [List.nil_append, show encodeWith pathSet [] = [] from rfl, pushSegment_nil] at hlast
  exact hlast

/-- **A slash behind segments** closes the path. -/
theorem readSegments_slash {fuel fuel' : Nat} (hs : IsUnclosed k s) (hne : s ≠ [])
    (hb : ∀ c ∈ b.head?, endsPath c = true) (hfuel : s.length < fuel) (hfuel' : s.length < fuel') :
    readSegments k (fuel' + 1) path (s ++ '/' :: b) =
      (closed (readSegments k fuel path (s ++ b)).1, b) := by
  induction fuel generalizing fuel' path s with
  | zero => exact absurd hfuel (Nat.not_lt_zero _)
  | succ fuel ih =>
    obtain ⟨fuel', rfl⟩ := Nat.exists_eq_add_one_of_ne_zero (Nat.ne_zero_of_lt hfuel')
    -- The first segment, and what follows it: nothing, or a slash and more.
    obtain ⟨segment, rest, rfl, hnone, hrest⟩ := exists_append_stop k.isSlash s
    have hsegment : ∀ c ∈ segment, (k.isSlash c || endsPath c) = false := by
      intro c hc
      rw [hnone c hc, hs.chars c (List.mem_append_left _ hc)]
      rfl
    cases rest with
    | nil =>
      rw [List.append_nil] at hne ⊢
      have hslash : '/' ∉ segment := fun hmem => by cases hnone '/' hmem
      rw [readSegments_last fuel path hsegment hb, readSegments_append _ path hsegment rfl,
        readSegments_stop _ _ hb, pushSegment_false k path (encodeWith_ne_nil _ hne)
          (notMem_encodeWith_pathSet hslash)]
    | cons c rest =>
      have hc := hrest c rfl
      have hnext := hs.of_suffix (List.suffix_append _ _)
      rw [List.length_append, List.length_cons] at hfuel hfuel'
      rw [List.append_assoc, List.append_assoc, List.cons_append, List.cons_append,
        readSegments_append _ _ hsegment hc, readSegments_append _ _ hsegment hc,
        ih (hnext.of_suffix (List.suffix_cons c rest)) (hnext.ne_nil_of_slash hc) (by omega)
          (by omega)]

/-! ## Paths -/

/-- A path without empty segments at its start is closed like any other. -/
theorem dropWhile_closed (path : List Char) :
    '/' :: (closed path).dropWhile (· == '/') = closed ('/' :: path.dropWhile (· == '/')) := by
  obtain ⟨lead, rest, rfl, hlead, hrest⟩ := exists_append_stop (· != '/') path
  have hslashes : ∀ c ∈ lead, (c == '/') = true := by simpa using hlead
  have hstop {r : List Char} (hr : ∀ c ∈ r.head?, (c != '/') = true) :
      (lead ++ r).dropWhile (· == '/') = r :=
    dropWhile_append_stop hslashes fun c hc => by simpa using hr c hc
  rw [hstop hrest]
  by_cases hnil : rest = []
  · -- Only slashes: one of them is left.
    have hall : (closed lead).dropWhile (· == '/') = [] := by
      refine List.dropWhile_eq_nil_iff.2 fun c hc => ?_
      unfold closed at hc
      split at hc
      · exact hslashes c hc
      · rcases List.mem_append.1 hc with hc | hc
        · exact hslashes c hc
        · simpa using hc
    rw [hnil, List.append_nil, hall]
    rfl
  · -- What is left starts with a segment, closed or not, so no further slash is dropped.
    have hhead : ∀ c ∈ (closed rest).head?, (c != '/') = true := by
      obtain ⟨d, r, rfl⟩ := List.exists_cons_of_ne_nil hnil
      intro c hc
      unfold closed at hc
      split at hc <;> exact hrest c hc
    rw [append_closed lead hnil, hstop hhead]
    exact (append_closed ['/'] hnil).symm

/-- Nothing is read onto a path of what ends it. -/
theorem readPath_stop (k : Kind) (hb : ∀ c ∈ b.head?, endsPath c = true) :
    readPath k ['/'] b = (['/'], b) := by
  unfold readPath
  rw [readSegments_stop _ _ hb]
  dsimp only
  split <;> rfl

/-- **A slash behind a path** that is read closes it. -/
theorem readPath_slash (path : List Char) (hs : IsUnclosed k s) (hne : s ≠ [])
    (hb : ∀ c ∈ b.head?, endsPath c = true) :
    readPath k path (s ++ '/' :: b) = (closed (readPath k path (s ++ b)).1, b) := by
  have hread : readSegments k ((s ++ '/' :: b).length + 1) path (s ++ '/' :: b) =
      (closed (readSegments k ((s ++ b).length + 1) path (s ++ b)).1, b) := by
    apply readSegments_slash hs hne hb <;> rw [List.length_append]
    · omega
    · rw [List.length_cons]
      omega
  unfold readPath
  rw [hread]
  dsimp only
  split
  · exact congrArg (·, b) (dropWhile_closed _)
  · rfl

/-- What ends a path leaves nothing of it, or a slash. -/
theorem closed_startPath_stop (k : Kind) (hb : ∀ c ∈ b.head?, endsPath c = true) :
    closed (startPath k b).1 = ['/'] := by
  cases b with
  | nil =>
    cases k with
    | other => rfl
    | special => exact congrArg (closed ·.1) (readPath_stop .special hb)
    | file => exact congrArg (closed ·.1) (readPath_stop .file hb)
  | cons c b =>
    have hends := hb c rfl
    cases k with
    | other => simp [startPath, hends, closed]
    | special => simp [startPath, not_isSlash_of_endsPath hends, readPath_stop .special hb, closed]
    | file => simp [startPath, not_isSlash_of_endsPath hends, readPath_stop .file hb, closed]

/-- A slash alone is a path. -/
theorem startPath_cons_stop (k : Kind) (hb : ∀ c ∈ b.head?, endsPath c = true) :
    startPath k ('/' :: b) = (['/'], b) := by
  cases k with
  | other => exact (readPath_nil (c := '/') rfl b).trans (readPath_stop .other hb)
  | special => exact readPath_stop .special hb
  | file => exact readPath_stop .file hb

/-- **A slash behind a path from its start** closes it. -/
theorem startPath_slash (hs : IsUnclosed k s) (hb : ∀ c ∈ b.head?, endsPath c = true) :
    startPath k (s ++ '/' :: b) = (closed (startPath k (s ++ b)).1, b) := by
  cases s with
  | nil =>
    rw [List.nil_append, List.nil_append, startPath_cons_stop k hb, closed_startPath_stop k hb]
  | cons c s =>
    have hc := hs.chars c List.mem_cons_self
    have hwhole (path : List Char) := readPath_slash path hs (List.cons_ne_nil c s) hb
    have hbehind (hslash : k.isSlash c = true) := readPath_slash ['/']
      (hs.of_suffix (List.suffix_cons c s)) (hs.ne_nil_of_slash hslash) hb
    simp only [List.cons_append] at hwhole ⊢
    cases k with
    | other =>
      simp only [startPath, hc, Bool.false_eq_true, if_false]
      exact hwhole _
    | special =>
      simp only [startPath]
      split
      · next hslash => exact hbehind hslash
      · exact hwhole _
    | file =>
      simp only [startPath]
      split
      · next hslash => exact hbehind hslash
      · exact hwhole _

end TemplateShare.Url
