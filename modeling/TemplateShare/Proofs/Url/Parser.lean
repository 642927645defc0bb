import TemplateShare.Proofs.Url.Authority
import TemplateShare.Url.Query

/-! # URLs are read back up to their query

A URL that has been read and is given pairs in place of its query is written as a text that is read
as a URL with these pairs. What stands in front of the query is read, though not always as the same:
the host of a file may become the drive at the start of its path.

* **`Url.IsReread`** — a URL whose text is read up to the query.
* **`Url.isReread_of_readScheme`** — every URL that is read is one.
* **`Url.parse_withPairs`** — pairs in place of a query are read back. -/

namespace TemplateShare.Url

variable {scheme s t r path : List Char} {u : Url}

/-! ## Query and fragment -/

/-- **Only query and fragment come from what follows a path.** -/
theorem withRest_eq (u : Url) (s : List Char) :
    ∃ q f, withRest u s = { u with query := q, fragment := f } ∧
      ∀ g ∈ f, ∀ c ∈ g, fragmentSet c = false := by
  have hfragment (t : List Char) : ∀ g ∈ some (encodeWith fragmentSet t), ∀ c ∈ g,
      fragmentSet c = false := by
    rintro g ⟨⟩ c hc
    exact not_mem_encodeWith (fun x hx => fragmentSet_of_pathSet
      (pathSet_of_userinfoSet (userinfoSet_of_isFormed hx))) hc
  unfold withRest
  dsimp only
  split
  · split
    · exact ⟨_, _, rfl, hfragment _⟩
    · exact ⟨_, _, rfl, fun _ hg => nomatch hg⟩
  · exact ⟨_, _, rfl, hfragment _⟩
  · exact ⟨_, _, rfl, fun _ hg => nomatch hg⟩

/-- A query of pairs holds nothing that a query encodes. -/
theorem specialQuerySet_of_mem_appendTo {pairs : List (String × String)} {c : Char}
    (h : c ∈ appendTo [] pairs) : specialQuerySet c = false ∧ c ≠ '#' ∧ c ≠ ' ' := by
  rcases mem_appendTo h with h | rfl | rfl
  · rcases h with h | h
    · exact Text.forall_of_codes
        (p := fun c => c.isAlphanum = true → specialQuerySet c = false ∧ c ≠ '#' ∧ c ≠ ' ')
        (by decide) (Nat.lt_succ_of_le (toNat_of_isAlphanum h).2) h
    · exact (by decide : ∀ c ∈ ['*', '-', '.', '_', '+', '%'],
        specialQuerySet c = false ∧ c ≠ '#' ∧ c ≠ ' ') c h
  · decide
  · decide

/-- **A query of pairs is read back.** -/
theorem query_withRest (v : Url) (pairs : List (String × String)) (f : Option (List Char)) :
    (withRest v ('?' :: (appendTo [] pairs ++ marked '#' f))).query = some (appendTo [] pairs) := by
  have hchars {c : Char} (hc : c ∈ appendTo [] pairs) := specialQuerySet_of_mem_appendTo hc
  have htake : (appendTo [] pairs ++ marked '#' f).takeWhile (· != '#') = appendTo [] pairs := by
    refine takeWhile_append_stop (fun c hc => by simpa using (hchars hc).2.1) fun c hc => ?_
    cases f <;> cases hc
    rfl
  have hencoded : encodeWith (if v.kind = .other then querySet else specialQuerySet)
      (appendTo [] pairs) = appendTo [] pairs := by
    refine encodeWith_eq_self fun c hc => ?_
    have hspecial := (hchars hc).1
    split
    · simp only [specialQuerySet, Bool.or_eq_false_iff] at hspecial
      exact hspecial.1
    · exact hspecial
  simp only [withRest, htake, hencoded]
  split <;> rfl

/-! ## What stands in front of a query -/

/-- A text behind a scheme is read up to the query that follows it. -/
def Leaves (scheme s : List Char) : Prop :=
  ∀ r, ∃ v, readScheme none scheme (s ++ '?' :: r) = .ok (withRest v ('?' :: r))

/-- What stands between the scheme and the query. -/
def body (u : Url) : List Char := u.lead ++ u.path

/-- **A URL whose text is read up to the query.** -/
structure IsReread (u : Url) : Prop where
  leaves : Leaves u.scheme u.body
  chars : ∀ c ∈ u.body, controlSet c = false

/-- A path is read up to the query. -/
theorem dropWhile_path (hpath : ∀ c ∈ path, endsPath c = false) :
    (path ++ '?' :: r).dropWhile (!endsPath ·) = '?' :: r :=
  dropWhile_append_stop (fun c hc => by rw [hpath c hc]; rfl) (by rintro c ⟨⟩; rfl)

/-- The characters of a path are no controls. -/
theorem controlSet_of_pathSet {c : Char} (h : pathSet c = false) : controlSet c = false :=
  (controlSet_of_fragmentSet (fragmentSet_of_pathSet h)).1

/-! ## Authorities -/

/-- A path or a query ends an authority. -/
theorem endsAuthority_head (hpath : IsRooted path ∨ path = []) (k : Kind) :
    ∀ c ∈ (path ++ '?' :: r).head?, endsAuthority k c = true := by
  intro c hc
  rcases hpath with hpath | rfl
  · rw [List.head?_append, hpath.head] at hc
    cases hc
    rfl
  · cases hc
    cases k <;> rfl

/-- Two slashes announce an authority. -/
theorem readScheme_authority (hfile : kindOf scheme ≠ .file)
    (ht : kindOf scheme = .special → ∀ c ∈ t.head?, IsInner c) :
    readScheme none scheme ('/' :: '/' :: t) = readAuthority scheme t := by
  unfold readScheme
  cases hk : kindOf scheme with
  | file => exact absurd hk hfile
  | other => rfl
  | special =>
    have hslashes : (['/', '/'] ++ t).takeWhile (fun c => c == '/' || c == '\\') = ['/', '/'] := by
      refine takeWhile_append_stop (by decide) fun c hc => ?_
      have hne := (ht hk c hc).2
      simp only [List.mem_cons, List.not_mem_nil, or_false, not_or] at hne
      simp [hne]
    show readAuthority scheme (('/' :: '/' :: t).drop _) = _
    rw [show '/' :: '/' :: t = ['/', '/'] ++ t from rfl, hslashes]
    rfl

/-- **An authority and a path are read up to the query.** -/
theorem isReread_authority {a : Authority} (hfile : kindOf scheme ≠ .file)
    (ha : a.IsRead scheme) (hhost : kindOf scheme ≠ .other → a.host.text ≠ [])
    (hpath : IsRooted path ∨ path = []) :
    IsReread { scheme, authority := some a, path } := by
  have hchars : ∀ c ∈ path, pathSet c = false := by
    rcases hpath with hpath | rfl
    · exact hpath.chars
    · exact fun _ hc => nomatch hc
  constructor
  · intro r
    obtain ⟨v, hv⟩ := readAuthority_text ha (endsAuthority_head (r := r) hpath (kindOf scheme))
    rw [dropWhile_path fun c hc => not_endsPath_of_pathSet (hchars c hc)] at hv
    refine ⟨v, ?_⟩
    rw [← hv, ← readScheme_authority hfile]
    · simp [body, lead]
    · -- More slashes would be skipped, but no authority starts with one, and this one is there.
      intro hspecial c hc
      have hne : a.text ≠ [] := by
        have hnamed := hhost (by rw [hspecial]; decide)
        simp [a.text_eq, hnamed]
      obtain ⟨d, text, htext⟩ := List.exists_cons_of_ne_nil hne
      rw [htext] at hc
      cases hc
      exact ha.isInner_of_mem_text c (by simp [htext])
  · intro c hc
    simp only [body, lead, List.mem_append, List.mem_cons, List.not_mem_nil, or_false] at hc
    rcases hc with ((rfl | rfl) | hc) | hc
    · rfl
    · rfl
    · exact (ha.isInner_of_mem_text c hc).1
    · exact controlSet_of_pathSet (hchars c hc)

/-- **What has been read of an authority** is read again. -/
theorem isReread_of_readAuthority (hfile : kindOf scheme ≠ .file)
    (h : readAuthority scheme s = .ok u) :
    ∃ v rest, u = withRest v rest ∧ v.scheme = scheme ∧ IsReread v := by
  obtain ⟨a, path, rest, ha, hhost, hpath, rfl⟩ := isRead_of_readAuthority h
  exact ⟨_, rest, rfl, rfl, isReread_authority hfile ha hhost (hpath.imp_right (·.2))⟩

/-! ## URLs without an authority -/

/-- A slash alone announces a path. -/
theorem readPlain_slash (scheme : List Char) (hr : r.head? ≠ some '/') :
    ∃ v, readPlain scheme ('/' :: r) = .ok (withRest v (r.dropWhile (!endsPath ·))) := by
  rw [← readPath_snd .other ['/']]
  unfold readPlain
  split
  · next heq =>
    cases heq
    exact absurd rfl hr
  · next heq =>
    cases heq
    exact ⟨_, rfl⟩
  · next _ hslash => exact absurd rfl (hslash r)

/-- Where no slash stands, the path is opaque. -/
theorem readPlain_opaque (scheme : List Char) (hs : s.head? ≠ some '/') : readPlain scheme s =
    .ok (withRest
      { scheme, path := encodeWith controlSet (s.takeWhile (!endsPath ·)), isOpaque := true }
      (s.dropWhile (!endsPath ·))) := by
  unfold readPlain
  split
  · exact absurd rfl hs
  · exact absurd rfl hs
  · rfl

/-- Schemes that are not special are read plainly. -/
theorem readScheme_other (hother : kindOf scheme = .other) (s : List Char) :
    readScheme none scheme s = readPlain scheme s := by
  rw [readScheme, hother]

/-- What starts with one slash is read up to the query. -/
theorem isReread_of_slash {p : List Char} (hother : kindOf u.scheme = .other)
    (hbody : u.body = '/' :: p) (hhead : p.head? ≠ some '/')
    (hchars : ∀ c ∈ p, pathSet c = false) : IsReread u := by
  constructor
  · intro r
    have hnext : (p ++ '?' :: r).head? ≠ some '/' := by
      cases p with
      | nil => simp
      | cons c p => exact hhead
    obtain ⟨v, hv⟩ := readPlain_slash u.scheme hnext
    rw [dropWhile_path fun c hc => not_endsPath_of_pathSet (hchars c hc)] at hv
    rw [hbody, readScheme_other hother]
    exact ⟨v, hv⟩
  · rw [hbody]
    intro c hc
    rcases List.mem_cons.1 hc with rfl | hc
    · rfl
    · exact controlSet_of_pathSet (hchars c hc)

/-- **A path that starts with a slash is read up to the query.** -/
theorem isReread_rooted (hother : kindOf scheme = .other) (hpath : IsRooted path) :
    IsReread { scheme, path } := by
  obtain ⟨p, rfl⟩ := List.head?_eq_some_iff.1 hpath.head
  by_cases hslash : p.head? = some '/'
  · -- A dot keeps the two slashes from announcing an authority.
    obtain ⟨q, rfl⟩ := List.head?_eq_some_iff.1 hslash
    have hbody : body { scheme, path := '/' :: '/' :: q } = '/' :: '.' :: '/' :: '/' :: q := rfl
    exact isReread_of_slash hother hbody (by simp) (List.forall_mem_cons.2 ⟨rfl, hpath.chars⟩)
  · have hbody : body { scheme, path := '/' :: p } = '/' :: p := by
      have hprefix : ['/', '/'].isPrefixOf ('/' :: p) = false := by
        cases p with
        | nil => rfl
        | cons c p =>
          have hc : ('/' == c) = false := by
            rw [beq_eq_false_iff_ne]
            rintro rfl
            exact hslash rfl
          simp [List.isPrefixOf, hc]
      simp [body, lead, hprefix]
    exact isReread_of_slash hother hbody hslash fun c hc =>
      hpath.chars c (List.mem_cons_of_mem _ hc)

/-- What is encoded does not start with a slash unless the text does. -/
theorem head?_encodeWith (set : Char → Bool) (hs : s.head? ≠ some '/') :
    (encodeWith set s).head? ≠ some '/' := by
  cases s with
  | nil => exact hs
  | cons c s =>
    unfold encodeWith
    rw [List.flatMap_cons]
    by_cases hset : set c = true
    · rw [if_pos hset]
      obtain ⟨b, bs, hb⟩ : ∃ b bs, Utf8.encode (String.ofList [c]) = b :: bs := by
        refine List.exists_cons_of_ne_nil fun hnil => ?_
        have hlength := congrArg List.length hnil
        rw [Utf8.encode_ofList, List.flatMap_singleton, String.length_utf8EncodeChar] at hlength
        exact absurd hlength c.utf8Size_pos.ne'
      rw [encodedChar, hb, List.flatMap_cons, encodedOctet, List.cons_append, List.cons_append]
      simp
    · rw [if_neg hset]
      exact hs

/-- **An opaque path is read up to the query.** -/
theorem isReread_opaque (hother : kindOf scheme = .other) (hs : s.head? ≠ some '/') :
    IsReread
      { scheme, path := encodeWith controlSet (s.takeWhile (!endsPath ·)), isOpaque := true } := by
  have hends : ∀ c ∈ encodeWith controlSet (s.takeWhile (!endsPath ·)), endsPath c = false := by
    intro c hc
    rcases mem_encodeWith hc with ⟨hmem, -⟩ | hformed
    · simpa using List.mem_takeWhile_imp hmem
    · exact not_endsPath_of_pathSet (pathSet_of_userinfoSet (userinfoSet_of_isFormed hformed))
  -- The path must not start with a slash, or an authority or a rooted path would be read.
  have hhead : (s.takeWhile (!endsPath ·)).head? ≠ some '/' := by
    intro hslash
    obtain ⟨q, hq⟩ := List.head?_eq_some_iff.1 hslash
    obtain ⟨rest, hrest⟩ := List.takeWhile_prefix (l := s) (!endsPath ·)
    rw [hq] at hrest
    exact hs (by rw [← hrest]; rfl)
  have hencoded := head?_encodeWith controlSet hhead
  generalize hpath : encodeWith controlSet (s.takeWhile (!endsPath ·)) = path at hends hencoded ⊢
  have hbody : body { scheme, path, isOpaque := true } = path := rfl
  constructor
  · intro r
    have hplain : (path ++ '?' :: r).head? ≠ some '/' := by
      cases path with
      | nil => simp
      | cons c p => exact hencoded
    rw [hbody, readScheme_other hother, readPlain_opaque scheme hplain, dropWhile_path hends]
    exact ⟨_, rfl⟩
  · rw [hbody, ← hpath]
    exact fun c => not_mem_encodeWith fun x hx =>
      controlSet_of_pathSet (pathSet_of_userinfoSet (userinfoSet_of_isFormed hx))

/-- **What is read plainly** is read again. -/
theorem isReread_of_readPlain (hother : kindOf scheme = .other) (h : readPlain scheme s = .ok u) :
    ∃ v rest, u = withRest v rest ∧ v.scheme = scheme ∧ IsReread v := by
  unfold readPlain at h
  split at h
  · exact isReread_of_readAuthority (by rw [hother]; decide) h
  · cases h
    exact ⟨_, _, rfl, rfl, isReread_rooted hother (isRooted_slash.readPath .other _)⟩
  · next hslash =>
    cases h
    refine ⟨_, _, rfl, rfl, isReread_opaque hother fun hhead => ?_⟩
    obtain ⟨p, rfl⟩ := List.head?_eq_some_iff.1 hhead
    exact hslash p rfl

/-! ## Files -/

/-- Both slashes count in a file. -/
theorem isSlash_file (c : Char) : Kind.isSlash .file c = (c == '/' || c == '\\') := by
  rw [Kind.isSlash, show (Kind.file != Kind.other) = true from rfl, Bool.and_true]

/-- **The host of a file is read**, or left to the path where it is a drive. -/
theorem fileHost?_append (ht : t = [] ∨ ∃ h, Host.parse t = .ok h) (hinner : ∀ c ∈ t, IsInner c)
    (hr : ∀ c ∈ r.head?, endsAuthority .file c = true) :
    ∃ o x, fileHost? (t ++ r) = .ok (o, x) ∧
      x.dropWhile (!endsPath ·) = r.dropWhile (!endsPath ·) := by
  have hends (c : Char) : (c == '/' || c == '\\' || endsPath c) = endsAuthority .file c := by
    rw [endsAuthority, isSlash_file]
  unfold fileHost?
  simp only [hends, takeWhile_authority hinner hr, dropWhile_authority hinner hr]
  split
  · -- The drive is left to the path, which ends where it would have ended behind a host.
    refine ⟨_, _, rfl, List.dropWhile_append_of_pos fun c hc => ?_⟩
    have hinside := (hinner c hc).not_endsAuthority .file
    rw [endsAuthority, Bool.or_eq_false_iff] at hinside
    rw [hinside.2]
    rfl
  · split
    · exact ⟨_, _, rfl, rfl⟩
    · next hne =>
      rcases ht with rfl | ⟨h, hread⟩
      · exact absurd rfl hne
      · rw [hread]
        exact ⟨_, _, rfl, rfl⟩

/-- A file behind two slashes is read up to the query. -/
theorem readLocal_text (ht : t = [] ∨ ∃ h, Host.parse t = .ok h) (hinner : ∀ c ∈ t, IsInner c)
    (hr : ∀ c ∈ r.head?, endsAuthority .file c = true) :
    ∃ v, readLocal none ('/' :: '/' :: (t ++ r)) =
      .ok (withRest v (r.dropWhile (!endsPath ·))) := by
  obtain ⟨o, x, hhost, hleft⟩ := fileHost?_append ht hinner hr
  have htwo : (('/' == '/' || '/' == '\\') && ('/' == '/' || '/' == '\\')) = true := rfl
  rw [← hleft]
  unfold readLocal
  dsimp only
  rw [if_pos htwo, hhost]
  cases o with
  | none =>
    rw [← readPath_snd .file ['/']]
    exact ⟨_, rfl⟩
  | some h =>
    rw [← startPath_snd .file]
    exact ⟨_, rfl⟩

/-- A host of a file: none, or one that is read back. -/
def IsFileHost (h : Host) : Prop := h = .domain [] ∨ ∃ name, Host.parse name = .ok h

/-- **A file is read up to the query.** -/
theorem isReread_file {h : Host} (hh : IsFileHost h) (hpath : IsRooted path) :
    IsReread { scheme := "file".toList, authority := some { host := h }, path } := by
  obtain ⟨hread, hinner⟩ : (h.text = [] ∨ ∃ g, Host.parse h.text = .ok g) ∧
      ∀ c ∈ h.text, IsInner c := by
    rcases hh with rfl | ⟨name, hname⟩
    · exact ⟨.inl rfl, fun _ hc => nomatch hc⟩
    · obtain ⟨hagain, hwritten, -⟩ := Host.parse_text hname
      exact ⟨.inr ⟨h, hagain⟩, fun c hc => (hwritten.isInner hc).1⟩
  have hbody : body { scheme := "file".toList, authority := some { host := h }, path } =
      '/' :: '/' :: (h.text ++ path) := by
    simp [body, lead, Authority.text, Authority.userinfo]
  constructor
  · intro r
    obtain ⟨v, hv⟩ := readLocal_text hread hinner (endsAuthority_head (r := r) (.inl hpath) .file)
    rw [dropWhile_path fun c hc => not_endsPath_of_pathSet (hpath.chars c hc),
      ← List.append_assoc] at hv
    rw [hbody]
    exact ⟨v, hv⟩
  · rw [hbody]
    intro c hc
    simp only [List.mem_append, List.mem_cons] at hc
    rcases hc with rfl | rfl | hc | hc
    · rfl
    · rfl
    · exact (hinner c hc).1
    · exact controlSet_of_pathSet (hpath.chars c hc)

/-- The host of a file has been read. -/
theorem isFileHost_of_fileHost? {h : Host} (hs : fileHost? s = .ok (some h, r)) : IsFileHost h := by
  unfold fileHost? at hs
  dsimp only at hs
  split at hs
  · cases hs
  · split at hs
    · cases hs
    · split at hs
      · cases hs
      · next g hread =>
        split at hs
        · cases hs
        · cases hs
          exact .inr ⟨_, hread⟩

/-- A file from its parts. -/
def file (a : Authority) (path rest : List Char) : Url :=
  withRest { scheme := "file".toList, authority := some a, path } rest

/-- A file without a host is read again. -/
theorem isReread_noHost (hpath : IsRooted path) (rest : List Char) :
    ∃ v r, file noHost path rest = withRest v r ∧ v.scheme = "file".toList ∧ IsReread v :=
  ⟨_, rest, rfl, rfl, isReread_file (.inl rfl) hpath⟩

/-- A file that no slashes announce has no host. -/
theorem isReread_relative (s : List Char) {isSlash : Char → Bool}
    (hslash : ∀ c, isSlash c = Kind.isSlash .file c) :
    ∃ v r, readLocal.relative none s file isSlash = withRest v r ∧
      v.scheme = "file".toList ∧ IsReread v := by
  cases s with
  | nil => exact isReread_noHost isRooted_slash []
  | cons c r =>
    unfold readLocal.relative
    dsimp only
    split
    · next hc =>
      rw [readPath_nil (by rw [← hslash, hc])]
      exact isReread_noHost (isRooted_slash.readPath .file r) _
    · exact isReread_noHost (isRooted_slash.readPath .file (c :: r)) _

/-- **What reading a file comes to**: a host or none, and a path from a slash on. -/
theorem isReread_of_readLocal (h : readLocal none s = .ok u) :
    ∃ v rest, u = withRest v rest ∧ v.scheme = "file".toList ∧ IsReread v := by
  unfold readLocal at h
  dsimp only at h
  split at h
  · split at h
    · obtain ⟨⟨host, rest⟩, hhost, h⟩ := Except.bind_eq_ok.1 h
      cases host with
      | none =>
        cases h
        exact isReread_noHost (isRooted_slash.readPath .file _) _
      | some g =>
        cases h
        have hpath : IsRooted (startPath .file rest).1 :=
          (startPath_fst .file rest).resolve_right fun hother => nomatch hother.1
        dsimp only
        split
        · exact isReread_noHost hpath _
        · exact ⟨_, _, rfl, rfl, isReread_file (isFileHost_of_fileHost? hhost) hpath⟩
    · cases h
      exact isReread_relative _ fun c => (isSlash_file c).symm
  · cases h
    exact isReread_relative _ fun c => (isSlash_file c).symm

/-! ## All schemes -/

/-- There is one scheme of files. -/
theorem eq_of_kindOf_file (h : kindOf scheme = .file) : scheme = "file".toList := by
  unfold kindOf at h
  split at h
  · assumption
  · split at h <;> cases h

/-- **Every URL that is read** can be read again up to its query. -/
theorem isReread_of_readScheme (h : readScheme none scheme s = .ok u) :
    ∃ v rest, u = withRest v rest ∧ v.scheme = scheme ∧ IsReread v := by
  unfold readScheme at h
  cases hk : kindOf scheme with
  | file =>
    rw [hk] at h
    rw [eq_of_kindOf_file hk]
    exact isReread_of_readLocal h
  | other =>
    rw [hk] at h
    exact isReread_of_readPlain hk h
  | special =>
    rw [hk] at h
    exact isReread_of_readAuthority (by rw [hk]; decide) h

/-- A character of a scheme. -/
def isSchemeChar (c : Char) : Bool := c.isAlphanum || c == '+' || c == '-' || c == '.'

/-- What a scheme is made of, in lower case. -/
theorem toLower_of_isSchemeChar {c : Char} (h : isSchemeChar c = true) :
    isSchemeChar c.toLower = true ∧ c.toLower.toLower = c.toLower ∧
      (c.isAlpha = true → c.toLower.isAlpha = true) ∧ controlSet c.toLower = false ∧
      c.toLower ≠ ' ' := by
  have hascii : c.toNat < 0x7B := by
    simp only [isSchemeChar, Bool.or_eq_true, beq_iff_eq] at h
    rcases h with ((h | rfl) | rfl) | rfl
    · exact Nat.lt_succ_of_le (toNat_of_isAlphanum h).2
    · decide
    · decide
    · decide
  exact Text.forall_of_codes
    (p := fun c => isSchemeChar c = true → isSchemeChar c.toLower = true ∧
      c.toLower.toLower = c.toLower ∧ (c.isAlpha = true → c.toLower.isAlpha = true) ∧
      controlSet c.toLower = false ∧ c.toLower ≠ ' ') (by decide) hascii h

/-- **A scheme as it is read**: in lower case, with a letter at its start. -/
structure IsScheme (s : List Char) : Prop where
  chars : ∀ c ∈ s, isSchemeChar c = true ∧ c.toLower = c ∧ controlSet c = false ∧ c ≠ ' '
  head : s.head?.any Char.isAlpha = true

/-- Letters in lower case are a scheme if the letters were one. -/
theorem isScheme_map_toLower (hchars : ∀ c ∈ s, isSchemeChar c = true)
    (hhead : s.head?.any Char.isAlpha = true) : IsScheme (s.map Char.toLower) where
  chars c hc := by
    obtain ⟨x, hx, rfl⟩ := List.mem_map.1 hc
    obtain ⟨hscheme, hsame, -, hcontrol⟩ := toLower_of_isSchemeChar (hchars x hx)
    exact ⟨hscheme, hsame, hcontrol⟩
  head := by
    cases s with
    | nil => cases hhead
    | cons d s => exact (toLower_of_isSchemeChar (hchars d List.mem_cons_self)).2.2.1 hhead

/-- **A scheme and a colon** stand in front of what the scheme reads. -/
theorem scheme?_eq_some : scheme? s = some (scheme, t) ↔
    ∃ name, s = name ++ ':' :: t ∧ (∀ c ∈ name, isSchemeChar c = true) ∧
      name.head?.any Char.isAlpha = true ∧ scheme = name.map Char.toLower := by
  constructor
  · intro h
    have hchars : ∀ c ∈ s.takeWhile isSchemeChar, isSchemeChar c = true := fun c =>
      List.mem_takeWhile_imp
    unfold scheme? at h
    dsimp only at h
    split at h
    · next r hdrop =>
      split at h
      · next halpha =>
        cases h
        refine ⟨s.takeWhile isSchemeChar, ?_, hchars, halpha, rfl⟩
        rw [← hdrop]
        exact List.takeWhile_append_dropWhile.symm
      · cases h
    · cases h
  · rintro ⟨name, rfl, hchars, hhead, rfl⟩
    have htake : (name ++ ':' :: t).takeWhile isSchemeChar = name :=
      takeWhile_append_stop hchars (by rintro c ⟨⟩; rfl)
    have hdrop : (name ++ ':' :: t).dropWhile isSchemeChar = ':' :: t :=
      dropWhile_append_stop hchars (by rintro c ⟨⟩; rfl)
    unfold isSchemeChar at htake hdrop
    simp only [scheme?, htake, hdrop, hhead, if_true]

/-- What has been read as a scheme is one. -/
theorem isScheme_of_scheme? (h : scheme? s = some (scheme, t)) : IsScheme scheme := by
  obtain ⟨name, -, hchars, halpha, rfl⟩ := scheme?_eq_some.1 h
  exact isScheme_map_toLower hchars halpha

/-- **A scheme is read back.** -/
theorem IsScheme.scheme?_append (h : IsScheme scheme) (r : List Char) :
    scheme? (scheme ++ ':' :: r) = some (scheme, r) := by
  have hsame : scheme = scheme.map Char.toLower := by
    conv_lhs => rw [← List.map_id scheme]
    exact List.map_congr_left fun c hc => (h.chars c hc).2.1.symm
  exact scheme?_eq_some.2 ⟨scheme, rfl, fun c hc => (h.chars c hc).1, h.head, hsame⟩

/-- **A text is a URL** where a scheme stands in front of what the scheme reads. -/
theorem parse_eq_ok {text : String} : parse text = .ok u ↔
    ∃ scheme s, scheme? (cleaned text) = some (scheme, s) ∧ readScheme none scheme s = .ok u := by
  unfold parse
  constructor
  · intro h
    split at h
    · next hscheme => exact ⟨_, _, hscheme, h⟩
    · cases h
  · rintro ⟨scheme, s, hscheme, hread⟩
    rw [hscheme]
    exact hread

/-! ## Texts of URLs -/

/-- **A text that is read as it stands**: printable, and without a blank at either end. -/
structure IsTidy (s : List Char) : Prop where
  chars : ∀ c ∈ s, controlSet c = false
  head : s.head? ≠ some ' '
  last : s.getLast? ≠ some ' '

/-- All of such a text counts. -/
theorem IsTidy.cleaned_ofList (h : IsTidy s) : cleaned (String.ofList s) = s := by
  have hend (c : Char) (hmem : c ∈ s) (hne : c ≠ ' ') : decide (c.toNat ≤ 0x20) = false := by
    have hcontrol := h.chars c hmem
    simp only [controlSet, Bool.or_eq_false_iff, decide_eq_false_iff_not] at hcontrol
    have hcode : c.toNat ≠ 0x20 := fun heq => hne (Char.toNat_inj.1 heq)
    exact decide_eq_false (by omega)
  have hfirst : s.dropWhile (fun c => decide (c.toNat ≤ 0x20)) = s :=
    dropWhile_append_stop (s := []) (fun _ hc => nomatch hc) fun c hc =>
      hend c (List.mem_of_head? hc) fun heq => h.head (heq ▸ hc)
  have hlast : s.reverse.dropWhile (fun c => decide (c.toNat ≤ 0x20)) = s.reverse := by
    refine dropWhile_append_stop (s := []) (r := s.reverse) (fun _ hc => nomatch hc) fun c hc => ?_
    rw [List.head?_reverse] at hc
    exact hend c (List.mem_of_getLast? hc) fun heq => h.last (heq ▸ hc)
  have hinside : s.filter (fun c => !(c == '\t' || c == '\n' || c == '\r')) = s := by
    refine List.filter_eq_self.2 fun c hc => ?_
    have hcontrol := h.chars c hc
    by_cases hbreak : c ∈ ['\t', '\n', '\r']
    · rw [(by decide : ∀ c ∈ ['\t', '\n', '\r'], controlSet c = true) c hbreak] at hcontrol
      cases hcontrol
    · simpa [and_assoc] using hbreak
  unfold cleaned
  dsimp only
  rw [String.toList_ofList, hfirst, hlast, List.reverse_reverse, hinside]

/-- Neither pairs nor fragments hold controls or blanks. -/
theorem not_blank_of_mem_tail {pairs : List (String × String)} {f : Option (List Char)}
    (hf : ∀ g ∈ f, ∀ c ∈ g, fragmentSet c = false) :
    ∀ c ∈ '?' :: (appendTo [] pairs ++ marked '#' f), controlSet c = false ∧ c ≠ ' ' := by
  intro c hc
  rcases List.mem_cons.1 hc with rfl | hc
  · decide
  · rcases List.mem_append.1 hc with hc | hc
    · obtain ⟨hspecial, -, hblank⟩ := specialQuerySet_of_mem_appendTo hc
      simp only [specialQuerySet, querySet, Bool.or_eq_false_iff] at hspecial
      exact ⟨hspecial.1.1.1.1.1.1, hblank⟩
    · cases f with
      | none => cases hc
      | some g =>
        rcases List.mem_cons.1 hc with rfl | hc
        · decide
        · exact controlSet_of_fragmentSet (hf g rfl c hc)

/-- **A URL is written tidily**, if no part of it needs to be encoded. -/
theorem isTidy_append (hscheme : IsScheme scheme) (hs : ∀ c ∈ s, controlSet c = false)
    (ht : ∀ c ∈ '?' :: t, controlSet c = false ∧ c ≠ ' ') :
    IsTidy (scheme ++ ':' :: (s ++ '?' :: t)) where
  chars c hc := by
    rcases List.mem_append.1 hc with hc | hc
    · exact (hscheme.chars c hc).2.2.1
    · rcases List.mem_cons.1 hc with rfl | hc
      · rfl
      · exact (List.mem_append.1 hc).elim (hs c) fun hc => (ht c hc).1
  head hhead := by
    have hchars := hscheme.chars
    cases scheme with
    | nil => cases hscheme.head
    | cons d name =>
      cases hhead
      exact (hchars ' ' List.mem_cons_self).2.2.2 rfl
  last hlast := by
    rw [← List.cons_append, ← List.append_assoc, List.getLast?_append,
      List.getLast?_eq_some_getLast (List.cons_ne_nil _ _), Option.some_or] at hlast
    exact (ht ' ' (Option.some.inj hlast ▸ List.getLast_mem _)).2 rfl

/-- **Pairs in place of a query are read back**: the URL is written as a tidy text, and what is read
has the pairs. -/
theorem parse_withPairs {text : String} (h : parse text = .ok u) (pairs : List (String × String)) :
    IsTidy (u.withPairs pairs).chars ∧ ':' ∈ (u.withPairs pairs).chars ∧
      ∃ v, parse (u.withPairs pairs).text = .ok v ∧ v.queryPairs = pairs := by
  obtain ⟨scheme, s, hscheme, hread⟩ := parse_eq_ok.1 h
  obtain ⟨v, rest, rfl, rfl, hv⟩ := isReread_of_readScheme hread
  obtain ⟨q, f, hrest, hfragment⟩ := withRest_eq v rest
  have hname := isScheme_of_scheme? hscheme
  have hchars : ((withRest v rest).withPairs pairs).chars =
      v.scheme ++ ':' :: (v.body ++ '?' :: (appendTo [] pairs ++ marked '#' f)) := by
    rw [hrest]
    simp [withPairs, chars, body, lead, marked]
  have htidy : IsTidy ((withRest v rest).withPairs pairs).chars := by
    rw [hchars]
    exact isTidy_append hname hv.chars (not_blank_of_mem_tail hfragment)
  refine ⟨htidy, by simp [hchars], ?_⟩
  obtain ⟨w, hw⟩ := hv.leaves (appendTo [] pairs ++ marked '#' f)
  refine ⟨withRest w ('?' :: (appendTo [] pairs ++ marked '#' f)), ?_, ?_⟩
  · refine parse_eq_ok.2 ⟨v.scheme, _, ?_, hw⟩
    rw [Url.text, htidy.cleaned_ofList, hchars, hname.scheme?_append]
  · rw [queryPairs, query_withRest]
    exact pairsOf_appendTo pairs

end TemplateShare.Url
