import Mathlib.Data.List.DropRight
import TemplateShare.DocumentId
import TemplateShare.Proofs.Url.Parser

/-! # Places below a URL

A text of plain segments, joined to a URL whose path ends with a slash, is read as a place below
that path: the segments stand behind it as they are, and nothing is left of the query and the
fragment.

* **`Url.IsPlace`** — plain segments with slashes between them.
* **`Url.IsBase`** — URLs that places are joined to.
* **`Url.join_place`** — a place is joined to what is in front of it. -/

namespace TemplateShare.Url

open DocumentId (isIdChar)

/-! ## Plain segments -/

/-- What matters of a character that stands for itself in every part of a path. -/
theorem of_isIdChar {c : Char} (h : isIdChar c = true) :
    (c ≠ '/' ∧ c ≠ '\\' ∧ endsPath c = false) ∧ (pathSet c = false ∧ c ≠ ':' ∧ c ≠ '|') ∧
      c ∉ ['.', '%'] ∧ c.toLower ∉ ['.', '%'] := by
  have hascii : c.toNat < 0x7B := by
    simp only [DocumentId.isIdChar, Bool.or_eq_true, beq_iff_eq] at h
    rcases h with (h | rfl) | rfl
    · exact Nat.lt_succ_of_le (toNat_of_isAlphanum h).2
    · decide
    · decide
  exact Text.forall_of_codes (p := fun c => isIdChar c = true →
    (c ≠ '/' ∧ c ≠ '\\' ∧ endsPath c = false) ∧ (pathSet c = false ∧ c ≠ ':' ∧ c ≠ '|') ∧
      c ∉ ['.', '%'] ∧ c.toLower ∉ ['.', '%']) (by decide) hascii h

/-- A plain segment of a path. -/
def IsSegment (s : List Char) : Prop := s ≠ [] ∧ ∀ c ∈ s, isIdChar c = true

variable {k : Kind} {s path : List Char} {segments : List (List Char)}

/-- A plain segment stands for itself. -/
theorem IsSegment.not_dots (h : IsSegment s) : isDoubleDot s = false ∧ isSingleDot s = false := by
  have hfirst : ∀ t, t.head? = some '.' ∨ t.head? = some '%' →
      s ≠ t ∧ s.map Char.toLower ≠ t := by
    intro t ht
    obtain ⟨c, r, rfl⟩ := List.exists_cons_of_ne_nil h.1
    obtain ⟨-, -, hc, hlower⟩ := of_isIdChar (h.2 c List.mem_cons_self)
    constructor <;> rintro rfl <;> simp_all
  simp [isDoubleDot, isSingleDot, hfirst]

/-- **A plain segment is put onto a path** as it is. -/
theorem IsSegment.pushSegment_eq (h : IsSegment s) (k : Kind) (path : List Char) (isLast : Bool) :
    pushSegment k path s isLast = path ++ s ++ if isLast then [] else ['/'] := by
  obtain ⟨hdouble, hsingle⟩ := h.not_dots
  have hdrive : isDrive s = false := by
    unfold isDrive
    split
    · next c d =>
      obtain ⟨-, ⟨-, hcolon, hbar⟩, -⟩ := of_isIdChar (h.2 d (by simp))
      simp [hcolon, hbar]
    · rfl
  simp [pushSegment, hdouble, hsingle, hdrive]

/-- **Plain segments are read onto a path** as they are. -/
theorem readSegments_segments {fuel : Nat} (hne : segments ≠ [])
    (hsegments : ∀ s ∈ segments, IsSegment s)
    (hfuel : (['/'].intercalate segments).length < fuel) :
    readSegments k fuel path (['/'].intercalate segments) =
      (path ++ ['/'].intercalate segments, []) := by
  induction segments generalizing fuel path with
  | nil => exact absurd rfl hne
  | cons s segments ih =>
    obtain ⟨fuel, rfl⟩ := Nat.exists_eq_add_one_of_ne_zero (Nat.ne_zero_of_lt hfuel)
    have hs := hsegments s List.mem_cons_self
    have hinside : ∀ c ∈ s, (k.isSlash c || endsPath c) = false := by
      intro c hc
      obtain ⟨⟨hslash, hbackslash, hends⟩, -⟩ := of_isIdChar (hs.2 c hc)
      simp [Kind.isSlash, hslash, hbackslash, hends]
    have hencoded : encodeWith pathSet s = s :=
      encodeWith_eq_self fun c hc => (of_isIdChar (hs.2 c hc)).2.1.1
    cases segments with
    | nil =>
      have hlast := readSegments_last fuel path hinside (r := []) (by simp)
      rw [List.append_nil] at hlast
      rw [List.intercalate_singleton, hlast, hencoded, hs.pushSegment_eq, if_pos rfl,
        List.append_nil]
    | cons t segments =>
      rw [List.intercalate_cons_cons, List.append_assoc, List.singleton_append] at hfuel ⊢
      rw [List.length_append, List.length_cons] at hfuel
      rw [readSegments_append fuel path hinside (c := '/') rfl, hencoded, hs.pushSegment_eq,
        ih (by simp) (fun s hs => hsegments s (List.mem_cons_of_mem _ hs)) (by omega)]
      simp

/-! ## Paths of files -/

/-- **The path of a file**: one slash at its start, and no empty segment behind it. -/
def IsLocal (path : List Char) : Prop := '/' :: path.dropWhile (· == '/') = path

/-- What is read for a file is such a path. -/
theorem isLocal_readPath (path s : List Char) : IsLocal (readPath .file path s).1 := by
  unfold readPath IsLocal
  dsimp only
  rw [if_pos rfl]
  dsimp only
  rw [List.dropWhile_cons_of_pos rfl, List.dropWhile_idempotent]

/-- So is one from its start. -/
theorem isLocal_startPath (s : List Char) : IsLocal (startPath .file s).1 := by
  unfold startPath
  split
  · next hkind => cases hkind
  · next hkind => cases hkind
  · exact isLocal_readPath _ _
  · exact isLocal_readPath _ _

/-- It is no drive. -/
theorem IsLocal.isPlainDrive_eq (h : IsLocal path) : isPlainDrive path = false := by
  unfold IsLocal at h
  generalize path.dropWhile (· == '/') = rest at h
  obtain rfl := h
  unfold isPlainDrive
  split
  · next heq =>
    cases heq
    rfl
  · rfl

/-- More may follow, if it does not make the first segment empty. -/
theorem IsLocal.append (h : IsLocal path) (hs : path = ['/'] → s.head? ≠ some '/') :
    IsLocal (path ++ s) := by
  have hhead := List.head?_dropWhile_not (· == '/') path
  unfold IsLocal at h ⊢
  generalize path.dropWhile (· == '/') = rest at h hhead
  obtain rfl := h
  have hstop : ∀ c ∈ (rest ++ s).head?, (c == '/') = false := by
    intro c hc
    cases rest with
    | nil => simpa using fun hslash : c = '/' => hs rfl (hslash ▸ hc)
    | cons d rest =>
      cases hc
      simpa using hhead
  have hdrop := dropWhile_append_stop (s := ['/']) (p := (· == '/')) (by simp) hstop
  rw [List.singleton_append] at hdrop
  rw [List.cons_append, hdrop]

/-- A slash may stand at its end. -/
theorem IsLocal.closed (h : IsLocal path) : IsLocal (closed path) := by
  unfold Url.closed
  split
  · exact h
  · next hlast => exact h.append fun hslash => absurd (by rw [hslash]; rfl) hlast

/-! ## Joining -/

/-- **A place below a URL**: plain segments with slashes between them. -/
def IsPlace (s : List Char) : Prop :=
  ∃ segments, segments ≠ [] ∧ (∀ t ∈ segments, IsSegment t) ∧ s = ['/'].intercalate segments

/-- The characters of a place. -/
theorem IsPlace.chars (h : IsPlace s) : ∀ c ∈ s, isIdChar c = true ∨ c = '/' := by
  obtain ⟨segments, -, hsegments, rfl⟩ := h
  intro c hc
  rcases mem_intercalate hc with hc | ⟨t, ht, hc⟩
  · exact .inr hc
  · exact .inl ((hsegments t ht).2 c hc)

/-- A place starts with a segment. -/
theorem IsPlace.exists_cons (h : IsPlace s) : ∃ c r, s = c :: r ∧ isIdChar c = true := by
  obtain ⟨segments, hne, hsegments, rfl⟩ := h
  obtain ⟨t, segments, rfl⟩ := List.exists_cons_of_ne_nil hne
  obtain ⟨htne, hchars⟩ := hsegments t List.mem_cons_self
  obtain ⟨c, r, rfl⟩ := List.exists_cons_of_ne_nil htne
  have hc := hchars c List.mem_cons_self
  cases segments with
  | nil => exact ⟨c, r, List.intercalate_singleton, hc⟩
  | cons u segments => exact ⟨c, _, by rw [List.intercalate_cons_cons]; rfl, hc⟩

/-- **A place is read onto a path** as it is. -/
theorem readPath_place (hs : IsPlace s) (hpath : k = .file → IsLocal path) :
    readPath k path s = (path ++ s, []) := by
  obtain ⟨c, r, hcons, hc⟩ := hs.exists_cons
  have hhead : s.head? ≠ some '/' := by
    rw [hcons]
    rintro ⟨⟩
    exact absurd hc (by decide)
  obtain ⟨segments, hne, hsegments, rfl⟩ := hs
  unfold readPath
  rw [readSegments_segments hne hsegments (Nat.lt_succ_self _)]
  dsimp only
  split
  · next hfile =>
    have hlocal := (hpath hfile).append fun _ => hhead
    rw [show _ = _ from hlocal]
  · rfl

/-- A place is a tidy text. -/
theorem IsPlace.isTidy (h : IsPlace s) : IsTidy s := by
  have hchars : ∀ c ∈ s, controlSet c = false ∧ c ≠ ' ' := by
    intro c hc
    rcases h.chars c hc with hid | rfl
    · exact controlSet_of_fragmentSet (fragmentSet_of_pathSet (of_isIdChar hid).2.1.1)
    · decide
  exact ⟨fun c hc => (hchars c hc).1, fun hhead => (hchars _ (List.mem_of_head? hhead)).2 rfl,
    fun hlast => (hchars _ (List.mem_of_getLast? hlast)).2 rfl⟩

/-- No scheme stands in a place, and no drive. -/
theorem IsPlace.colon_notMem (h : IsPlace s) : ':' ∉ s ∧ '|' ∉ s := by
  constructor <;> intro hmem <;> rcases h.chars _ hmem with hid | heq
  · exact absurd hid (by decide)
  · exact absurd heq (by decide)
  · exact absurd hid (by decide)
  · exact absurd heq (by decide)

/-- Without a colon there is no scheme. -/
theorem scheme?_of_notMem (h : ':' ∉ s) : scheme? s = none := by
  unfold scheme?
  dsimp only
  split
  · next r hdrop =>
    have hmem : ':' ∈ ':' :: r := List.mem_cons_self
    rw [← hdrop] at hmem
    exact absurd ((List.dropWhile_suffix _).subset hmem) h
  · rfl

/-- Without a colon and a bar there is no drive. -/
theorem startsWithDrive_of_notMem (h : ':' ∉ s ∧ '|' ∉ s) : startsWithDrive s = false := by
  have hdrive {c d : Char} {r : List Char} (hs : s = c :: d :: r) : isDrive [c, d] = false := by
    have hcolon : d ≠ ':' := fun hd => h.1 (by simp [hs, hd])
    have hbar : d ≠ '|' := fun hd => h.2 (by simp [hs, hd])
    simp [isDrive, hcolon, hbar]
  unfold startsWithDrive
  split
  · exact hdrive rfl
  · rw [hdrive rfl, Bool.false_and]
  · rfl

/-- Nothing is taken away from a path that ends with a slash. -/
theorem popSegment_of_getLast? (k : Kind) (h : path.getLast? = some '/') :
    popSegment k path = path := by
  obtain ⟨p, rfl⟩ := List.getLast?_eq_some_iff.1 h
  unfold popSegment upToSlash
  split
  · rfl
  · simp

/-- Where no slash stands, a file is read relative to its base. -/
theorem readLocal_relative {base : Option Url} {c : Char} (hc : (c == '/' || c == '\\') = false) :
    readLocal base (c :: s) =
      .ok (readLocal.relative base (c :: s) file fun c => c == '/' || c == '\\') := by
  unfold readLocal
  dsimp only
  split
  · next heq =>
    cases heq
    rw [if_neg (by simp [hc])]
    rfl
  · rfl

/-- **A URL that places are joined to**: its path is one of segments, as they stand in its scheme. -/
structure IsBase (b : Url) : Prop where
  plain : b.isOpaque = false
  segments : b.kind = .file → IsLocal b.path

/-- A slash may stand at the end of its path. -/
theorem IsBase.closed {b : Url} (hb : IsBase b) : IsBase { b with path := closed b.path } where
  plain := hb.plain
  segments hfile := (hb.segments hfile).closed

/-- **A place joined to a URL** whose path ends with a slash stands below that path. -/
theorem join_place {b : Url} (hb : IsBase b) (hlast : b.path.getLast? = some '/')
    (hs : IsPlace s) :
    join b (String.ofList s) =
      .ok { b with path := b.path ++ s, query := none, fragment := none } := by
  obtain ⟨c, r, rfl, hc⟩ := hs.exists_cons
  obtain ⟨⟨hslash, hbackslash, hends⟩, -⟩ := of_isIdChar hc
  simp only [endsPath, Bool.or_eq_false_iff, beq_eq_false_iff_ne] at hends
  have hnone : (c == '/' || c == '\\') = false := by simp [hslash, hbackslash]
  have hplace : readPath b.kind b.path (c :: r) = (b.path ++ c :: r, []) :=
    readPath_place hs hb.segments
  -- Nothing is popped off a path that ends with a slash.
  have hpop := popSegment_of_getLast? b.kind hlast
  unfold join
  dsimp only
  rw [hs.isTidy.cleaned_ofList, scheme?_of_notMem hs.colon_notMem.1]
  dsimp only
  rw [if_neg (by simpa using hends.2), if_neg (by simp [hb.plain])]
  split
  · next hfile =>
    have hdrive : isPlainDrive b.path = false := (hb.segments hfile).isPlainDrive_eq
    rw [hfile] at hplace hpop
    rw [readLocal_relative hnone]
    unfold readLocal.relative
    simp only [hnone, hends.1, hends.2, startsWithDrive_of_notMem hs.colon_notMem, hdrive, hpop,
      hplace, Bool.false_eq_true, if_false]
    rfl
  · have hne : b.path.isEmpty = false := by
      cases hpath : b.path with
      | nil => rw [hpath] at hlast; cases hlast
      | cons d path => rfl
    unfold readRelative
    split
    · next heq => cases heq
    · next heq => cases heq; exact absurd rfl hends.1
    · next heq => cases heq; exact absurd rfl hends.2
    · next heq =>
      cases heq
      simp only [hnone, hpop, hne, hplace, Bool.false_eq_true, if_false]
      rfl

end TemplateShare.Url
