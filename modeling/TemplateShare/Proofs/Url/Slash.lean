import TemplateShare.Proofs.Url.Closed
import TemplateShare.Proofs.Url.Parser

/-! # URLs with a slash behind the path

A URL with a host is read the same with a slash behind its path and without one, but that the path
is closed. User, host and port are found before the path is looked at, and query and fragment are
what the path leaves.

* **`Url.located`** — a URL from its authority and what follows that.
* **`Url.readAuthority_append`**, **`Url.exists_located`** — an authority is read the same whatever
  follows it.
* **`Url.AddsSlash`**, **`Url.parse_slash`** — a slash behind the path of a text. -/

namespace TemplateShare.Url

variable {k : Kind} {s t r b path scheme : List Char} {u : Url}

/-! ## URLs with an authority -/

/-- A URL with an authority, from what follows that. -/
def located (scheme : List Char) (a : Authority) (s : List Char) : Url :=
  withRest { scheme, authority := some a, path := (startPath (kindOf scheme) s).1 }
    (startPath (kindOf scheme) s).2

/-- **What a URL with an authority consists of.** -/
theorem located_eq (scheme : List Char) (a : Authority) (s : List Char) :
    ∃ q f, located scheme a s =
      { scheme, authority := some a, path := (startPath (kindOf scheme) s).1, query := q,
        fragment := f } := by
  obtain ⟨q, f, hrest, -⟩ := withRest_eq
    { scheme, authority := some a, path := (startPath (kindOf scheme) s).1 }
    (startPath (kindOf scheme) s).2
  exact ⟨q, f, hrest⟩

/-- Its kind is that of the scheme. -/
theorem kind_located (scheme : List Char) (a : Authority) (s : List Char) :
    (located scheme a s).kind = kindOf scheme := by
  obtain ⟨q, f, heq⟩ := located_eq scheme a s
  rw [heq]
  rfl

/-- What follows a path does not change the host. -/
@[simp] theorem host?_withRest (u : Url) (s : List Char) : (withRest u s).host? = u.host? := by
  obtain ⟨q, f, hrest, -⟩ := withRest_eq u s
  rw [hrest]
  rfl

/-- The host is that of the authority. -/
theorem host?_located (scheme : List Char) (a : Authority) (s : List Char) :
    (located scheme a s).host? = if a.host.isEmpty then none else some a.host :=
  host?_withRest _ _

/-- What follows a path does not depend on it. -/
theorem withRest_path (u : Url) (path r : List Char) :
    withRest { u with path } r = { withRest u r with path } := by
  unfold withRest kind
  dsimp only
  split
  · split <;> rfl
  · rfl
  · rfl

/-- **A slash behind the path of a URL** with an authority closes the path. -/
theorem located_slash (scheme : List Char) (a : Authority)
    (hs : IsUnclosed (kindOf scheme) s) (hb : ∀ c ∈ b.head?, endsPath c = true) :
    located scheme a (s ++ '/' :: b) =
      { located scheme a (s ++ b) with path := closed (located scheme a (s ++ b)).path } := by
  have hchars : ∀ c ∈ s, (!endsPath c) = true := fun c hc => by rw [hs.chars c hc]; rfl
  have hleft : (startPath (kindOf scheme) (s ++ b)).2 = b := by
    rw [startPath_snd, dropWhile_append_stop hchars fun c hc => by rw [hb c hc]; rfl]
  unfold located
  rw [startPath_slash hs hb, hleft]
  obtain ⟨q, f, hrest, -⟩ := withRest_eq
    { scheme, authority := some a, path := (startPath (kindOf scheme) (s ++ b)).1 } b
  rw [← withRest_path, hrest]

/-! ## Authorities -/

section

variable {r' : List Char}

/-- The text of a host is the same whatever ends the authority. -/
theorem hostText_append_stop (inBrackets : Bool) (s : List Char)
    (hr : ∀ c ∈ r.head?, endsAuthority k c = true) :
    hostText k inBrackets (s ++ r) =
      ((hostText k inBrackets s).1, (hostText k inBrackets s).2 ++ r) := by
  induction s generalizing inBrackets with
  | nil =>
    cases r with
    | nil => rfl
    | cons c r => simp [hostText, hr c rfl]
  | cons c s ih =>
    rw [List.cons_append, hostText, hostText]
    split
    · rfl
    · dsimp only
      rw [ih]

/-- So is a port. -/
theorem port?_append (s : List Char) (hr : ∀ c ∈ r.head?, endsAuthority k c = true) :
    port? (s ++ r) = (port? s).map fun x => (x.1, x.2 ++ r) := by
  obtain ⟨digits, q, rfl, hdigits, hq⟩ := exists_append_stop (!Char.isDigit ·) s
  have hdigit : ∀ c ∈ digits, c.isDigit = true := by simpa using hdigits
  have hstop : ∀ c ∈ q.head?, c.isDigit = false := by simpa using hq
  have hstop' : ∀ c ∈ (q ++ r).head?, c.isDigit = false := by
    cases q with
    | nil => exact fun c hc => (of_endsAuthority (hr c hc)).2.1
    | cons d q => exact hstop
  have hfollow : ((q ++ r).head?.all fun c => c == '/' || c == '\\' || endsPath c) =
      q.head?.all fun c => c == '/' || c == '\\' || endsPath c := by
    cases q with
    | nil =>
      cases r with
      | nil => rfl
      | cons c r => exact (of_endsAuthority (hr c rfl)).2.2
    | cons d q => rfl
  unfold port?
  rw [List.append_assoc]
  simp only [takeWhile_append_stop hdigit hstop, takeWhile_append_stop hdigit hstop',
    dropWhile_append_stop hdigit hstop, dropWhile_append_stop hdigit hstop', hfollow]
  split <;> split <;> rfl

/-- A port that may be missing is read in front of what ends the authority. -/
theorem readPort_append (scheme : List Char) (host : Host) (s : List Char)
    (hr : ∀ c ∈ r.head?, endsAuthority k c = true) :
    readPort scheme host (s ++ r) =
      (readPort scheme host s).map fun x => (x.1, x.2.1, x.2.2 ++ r) := by
  have hnone {t : List Char} (ht : t.head? ≠ some ':') :
      readPort scheme host t = .ok (host, none, t) := readPort_eq_ok.2 ⟨rfl, .inr ⟨ht, rfl, rfl⟩⟩
  cases s with
  | nil => exact hnone fun hcolon => (of_endsAuthority (hr ':' hcolon)).1 rfl
  | cons c s =>
    by_cases hcolon : c = ':'
    · subst hcolon
      rw [List.cons_append, readPort, readPort]
      split
      · rfl
      · rw [port?_append s hr]
        cases port? s <;> rfl
    · rw [hnone (t := c :: s) (by simpa using hcolon), hnone (by simpa using hcolon)]
      rfl

/-- So are host and port. -/
theorem readHostPort_append (scheme s : List Char)
    (hr : ∀ c ∈ r.head?, endsAuthority (kindOf scheme) c = true) :
    readHostPort scheme (s ++ r) =
      (readHostPort scheme s).map fun x => (x.1, x.2.1, x.2.2 ++ r) := by
  rw [readHostPort_eq, readHostPort_eq, hostText_append_stop false s hr]
  dsimp only
  cases readHost scheme (hostText (kindOf scheme) false s).1 with
  | error f => rfl
  | ok host => exact readPort_append scheme host _ hr

/-- What is left behind a host is the end of the text. -/
theorem hostText_suffix (k : Kind) (inBrackets : Bool) (s : List Char) :
    (hostText k inBrackets s).2 <:+ s := by
  induction s generalizing inBrackets with
  | nil => exact List.suffix_refl _
  | cons c s ih =>
    rw [hostText]
    split
    · exact List.suffix_refl _
    · exact (ih _).trans (List.suffix_cons c s)

/-- So is what is left behind a port. -/
theorem port?_suffix {p : Option Nat} {q : List Char} (h : port? s = .ok (p, q)) : q <:+ s := by
  have hleft : q = s.dropWhile Char.isDigit := by
    unfold port? at h
    dsimp only at h
    split at h <;> split at h <;> cases h <;> rfl
  rw [hleft]
  exact List.dropWhile_suffix _

/-- So is what is left behind both. -/
theorem readHostPort_suffix {scheme : List Char} {host : Host} {port : Option Nat} {q : List Char}
    (h : readHostPort scheme s = .ok (host, port, q)) : q <:+ s := by
  have hhost := hostText_suffix (kindOf scheme) false s
  obtain ⟨-, hport⟩ := readHostPort_eq_ok.1 h
  obtain ⟨-, ⟨t, p, ht, -, hp, -⟩ | ⟨-, -, rfl⟩⟩ := readPort_eq_ok.1 hport
  · rw [ht] at hhost
    exact (port?_suffix hp).trans ((List.suffix_cons _ _).trans hhost)
  · exact hhost

/-- No host is read of nothing. -/
theorem isEmpty_of_readHostPort_nil {scheme : List Char} {host : Host} {port : Option Nat}
    {q : List Char} (h : readHostPort scheme [] = .ok (host, port, q)) : host.isEmpty = true := by
  have hread := (readHostPort_eq_ok.1 h).1
  unfold readHost at hread
  split at hread
  · cases hread
    rfl
  · cases hread

/-- **A user is read** in front of what ends the authority, unless nothing follows it. -/
theorem userinfo?_append_stop {user : List Char × Option (List Char)} {x : List Char}
    (hs : ∀ c ∈ s, endsAuthority k c = false) (hr : ∀ c ∈ r.head?, endsAuthority k c = true)
    (hr' : ∀ c ∈ r'.head?, endsAuthority k c = true) (h : userinfo? k (s ++ r) = .ok (user, x)) :
    ∃ t, t <:+ s ∧ x = t ++ r ∧ (t ≠ [] → userinfo? k (s ++ r') = .ok (user, t ++ r')) := by
  have hwhole {r : List Char} (hr : ∀ c ∈ r.head?, endsAuthority k c = true) :
      (s ++ r).takeWhile (!endsAuthority k ·) = s :=
    takeWhile_append_stop (fun c hc => by rw [hs c hc]; rfl) fun c hc => by rw [hr c hc]; rfl
  unfold userinfo? at h ⊢
  dsimp only at h ⊢
  rw [hwhole hr] at h
  rw [hwhole hr']
  split at h
  · next hat =>
    rw [if_pos hat]
    generalize hinfo : (s.reverse.dropWhile (· != '@')).reverse.dropLast = info at h ⊢
    have hlength : info.length + 1 ≤ s.length := by
      have hleft : s.reverse.dropWhile (· != '@') ≠ [] := fun hnil => by
        have hall := List.dropWhile_eq_nil_iff.1 hnil '@' (by simpa using hat)
        simp at hall
      have hpos := List.length_pos_iff.2 hleft
      have hle := (List.dropWhile_suffix (l := s.reverse) (· != '@')).length_le
      rw [List.length_reverse] at hle
      rw [← hinfo, List.length_dropLast, List.length_reverse]
      omega
    have hdrop (r : List Char) : (s ++ r).drop (info.length + 1) = s.drop (info.length + 1) ++ r :=
      List.drop_append_of_le_length hlength
    rw [hdrop] at h
    rw [hdrop]
    generalize hrest : s.drop (info.length + 1) = rest at h ⊢
    have hsuffix : rest <:+ s := hrest ▸ List.drop_suffix _ _
    split at h
    · next hempty =>
      split at h
      · cases h
      · cases h
        refine ⟨rest, hsuffix, rfl, fun hne => ?_⟩
        -- What follows the `@` is part of the authority.
        obtain ⟨c, t, rfl⟩ := List.exists_cons_of_ne_nil hne
        have hc := hs c (hsuffix.subset List.mem_cons_self)
        rw [if_pos hempty, if_neg (by simp [hc])]
    · next hempty =>
      cases h
      exact ⟨rest, hsuffix, rfl, fun _ => if_neg hempty⟩
  · next hat =>
    cases h
    exact ⟨s, List.suffix_refl _, rfl, fun _ => if_neg hat⟩

/-- **An authority is read** in front of what ends it, if it has a host. -/
theorem readAuthority_append (hs : ∀ c ∈ s, endsAuthority (kindOf scheme) c = false)
    (hr : ∀ c ∈ r.head?, endsAuthority (kindOf scheme) c = true)
    (hr' : ∀ c ∈ r'.head?, endsAuthority (kindOf scheme) c = true)
    (h : readAuthority scheme (s ++ r) = .ok u) (hhost : u.host?.isSome = true) :
    s ≠ [] ∧ ∃ a t, t <:+ s ∧ u = located scheme a (t ++ r) ∧
      readAuthority scheme (s ++ r') = .ok (located scheme a (t ++ r')) := by
  obtain ⟨user, rest, host, port, after, huser, hread, hneeded, rfl⟩ := readAuthority_eq_ok.1 h
  obtain ⟨t, ht, rfl, huser'⟩ := userinfo?_append_stop hs hr hr' huser
  obtain ⟨q, rfl, hread'⟩ : ∃ q, after = q ++ r ∧ readHostPort scheme t = .ok (host, port, q) := by
    rw [readHostPort_append scheme t hr] at hread
    cases hshort : readHostPort scheme t <;> rw [hshort] at hread <;> cases hread
    exact ⟨_, rfl, rfl⟩
  have hne : t ≠ [] := by
    rintro rfl
    have hsome : (located scheme ⟨user.1, user.2, host, port⟩ (q ++ r)).host?.isSome = true := hhost
    rw [host?_located, if_pos (isEmpty_of_readHostPort_nil hread')] at hsome
    cases hsome
  refine ⟨fun hnil => hne (List.eq_nil_of_suffix_nil (hnil ▸ ht)), _, q,
    (readHostPort_suffix hread').trans ht, rfl, ?_⟩
  refine readAuthority_eq_ok.2 ⟨user, _, host, port, q ++ r', huser' hne, ?_, hneeded, rfl⟩
  rw [readHostPort_append scheme t hr', hread']
  rfl

/-! ## Files -/

/-- **The host of a file is read** in front of what ends it. -/
theorem fileHost?_append_stop {h : Host} {x : List Char}
    (hs : ∀ c ∈ s, endsAuthority .file c = false) (hr : ∀ c ∈ r.head?, endsAuthority .file c = true)
    (hr' : ∀ c ∈ r'.head?, endsAuthority .file c = true)
    (hread : fileHost? (s ++ r) = .ok (some h, x)) :
    x = r ∧ fileHost? (s ++ r') = .ok (some h, r') := by
  have hends (c : Char) : (c == '/' || c == '\\' || endsPath c) = endsAuthority .file c := by
    rw [endsAuthority, isSlash_file]
  have hinside : ∀ c ∈ s, (!endsAuthority .file c) = true := by simpa using hs
  have hstop {r : List Char} (hr : ∀ c ∈ r.head?, endsAuthority .file c = true) :
      ∀ c ∈ r.head?, (!endsAuthority .file c) = false := by simpa using hr
  -- Both texts are cut at the same place, so the same checks are made on the same host.
  unfold fileHost? at hread ⊢
  simp only [hends, takeWhile_append_stop hinside (hstop hr), dropWhile_append_stop hinside
    (hstop hr)] at hread
  simp only [hends, takeWhile_append_stop hinside (hstop hr'), dropWhile_append_stop hinside
    (hstop hr')]
  split at hread
  · cases hread
  · next hdrive =>
    rw [if_neg hdrive]
    split at hread
    · cases hread
    · next hempty =>
      rw [if_neg hempty]
      cases hhost : Host.parse s with
      | error f =>
        rw [hhost] at hread
        cases hread
      | ok g =>
        rw [hhost] at hread
        dsimp only at hread ⊢
        split at hread
        · cases hread
        · next hlocal =>
          cases hread
          exact ⟨rfl, by rw [if_neg hlocal]⟩

/-- Whether a path starts with a drive does not depend on a slash at its end. -/
theorem hasDrive_closed (hpath : path ≠ []) : hasDrive (closed path) = hasDrive path := by
  obtain ⟨c, path, rfl⟩ := List.exists_cons_of_ne_nil hpath
  unfold closed
  split
  · rfl
  · unfold hasDrive
    rw [List.cons_append, List.drop_one, List.drop_one, List.tail_cons, List.tail_cons,
      List.takeWhile_append]
    split
    · next hlength =>
      simp [(List.takeWhile_prefix _).eq_of_length hlength]
    · rfl

/-- Two slashes announce the host of a file. -/
theorem readLocal_host {c d : Char} (hc : Kind.isSlash .file c = true)
    (hd : Kind.isSlash .file d = true) {h : Host} (hread : fileHost? s = .ok (some h, r))
    (hdrive : hasDrive (startPath .file r).1 = false) :
    readLocal none (c :: d :: s) = .ok (located "file".toList { host := h } r) := by
  rw [isSlash_file] at hc hd
  unfold readLocal
  dsimp only
  rw [if_pos (by rw [hc, hd]; rfl), hread]
  dsimp only [bind, Except.bind]
  rw [if_neg (ne_true_of_eq_false hdrive)]
  rfl

/-- A file that no slashes announce has no host. -/
theorem not_isSome_relative (s : List Char) (isSlash : Char → Bool) :
    ¬(readLocal.relative none s file isSlash).host?.isSome = true := by
  have hnone (path rest : List Char) : ¬(file noHost path rest).host?.isSome = true := by
    rw [file, host?_withRest]
    exact Bool.false_ne_true
  cases s with
  | nil => exact hnone _ _
  | cons c r =>
    unfold readLocal.relative
    dsimp only
    split <;> exact hnone _ _

/-- **A file with a host** was announced by two slashes. -/
theorem exists_of_readLocal (hread : readLocal none s = .ok u) (hhost : u.host?.isSome = true) :
    ∃ c d t h rest, s = c :: d :: t ∧ Kind.isSlash .file c = true ∧ Kind.isSlash .file d = true ∧
      fileHost? t = .ok (some h, rest) ∧ hasDrive (startPath .file rest).1 = false ∧
      u = located "file".toList { host := h } rest := by
  unfold readLocal at hread
  dsimp only at hread
  split at hread
  · next c d t =>
    split at hread
    · next hslashes =>
      obtain ⟨⟨host, rest⟩, hfile, hread⟩ := Except.bind_eq_ok.1 hread
      cases host with
      | none =>
        cases hread
        rw [host?_withRest] at hhost
        cases hhost
      | some h =>
        cases hread
        dsimp only at hhost ⊢
        rw [host?_withRest] at hhost
        have hdrive : ¬hasDrive (startPath .file rest).1 = true := fun hdrive => by
          rw [if_pos hdrive] at hhost
          cases hhost
        rw [if_neg hdrive]
        rw [Bool.and_eq_true, ← isSlash_file, ← isSlash_file] at hslashes
        exact ⟨c, d, t, h, rest, rfl, hslashes.1, hslashes.2, hfile, by simpa using hdrive, rfl⟩
    · cases hread
      exact absurd hhost (not_isSome_relative _ _)
  · cases hread
    exact absurd hhost (not_isSome_relative _ _)

/-! ## Schemes -/

/-- A text that is cut at the end of a path, and somewhere within the path, has three parts. -/
theorem exists_append_of_stop {p q : List Char} (h : p ++ s = q ++ b)
    (hp : ∀ c ∈ p, endsPath c = false) (hb : ∀ c ∈ b.head?, endsPath c = true) :
    ∃ t, q = p ++ t ∧ s = t ++ b := by
  rcases List.append_eq_append_iff.1 h with ⟨t, hq, hs⟩ | ⟨t, hpt, hbt⟩
  · exact ⟨t, hq, hs⟩
  · cases t with
    | nil => exact ⟨[], by simpa using hpt.symm, by simpa using hbt.symm⟩
    | cons c t =>
      have hends := hp c (by simp [hpt])
      rw [hb c (by simp [hbt])] at hends
      cases hends

/-- **A URL with a host** that is no file: slashes announce its authority. -/
theorem exists_lead (hfile : kindOf scheme ≠ .file) (h : readScheme none scheme s = .ok u)
    (hhost : u.host?.isSome = true) :
    ∃ lead t, s = lead ++ t ∧ (∀ c ∈ lead, (kindOf scheme).isSlash c = true) ∧
      readAuthority scheme t = .ok u ∧
      ∀ t', t'.head? = t.head? → readScheme none scheme (lead ++ t') = readAuthority scheme t' := by
  cases hk : kindOf scheme with
  | file => exact absurd hk hfile
  | other =>
    rw [readScheme_other hk] at h
    unfold readPlain at h
    split at h
    · next t =>
      exact ⟨['/', '/'], t, rfl, by decide, h, fun t' _ => readScheme_other hk _⟩
    · cases h
      rw [host?_withRest] at hhost
      cases hhost
    · cases h
      rw [host?_withRest] at hhost
      cases hhost
  | special =>
    have hread (s : List Char) : readScheme none scheme s =
        readAuthority scheme (s.drop (s.takeWhile fun c => c == '/' || c == '\\').length) := by
      rw [readScheme, hk]
    obtain ⟨lead, t, rfl, hlead, ht⟩ := exists_append_stop (fun c => !(c == '/' || c == '\\')) s
    have hslashes : ∀ c ∈ lead, (c == '/' || c == '\\') = true := fun c hc => by
      simpa only [Bool.not_eq_false'] using hlead c hc
    have hskip {t' : List Char} (hhead : t'.head? = t.head?) :
        readScheme none scheme (lead ++ t') = readAuthority scheme t' := by
      rw [hread, takeWhile_append_stop hslashes (by rw [hhead]; simpa using ht), List.drop_left]
    exact ⟨lead, t, rfl, by simpa [Kind.isSlash] using hslashes, (hskip rfl).symm.trans h,
      fun t' => hskip⟩

/-- What follows an authority ends it, whether or not a slash stands behind the path. -/
theorem endsAuthority_append {q : List Char} (hq : ∀ c ∈ q.head?, endsAuthority k c = true)
    (hb : ∀ c ∈ b.head?, endsPath c = true) :
    (∀ c ∈ (q ++ b).head?, endsAuthority k c = true) ∧
      ∀ c ∈ (q ++ '/' :: b).head?, endsAuthority k c = true := by
  cases q with
  | nil =>
    refine ⟨fun c hc => ?_, fun c hc => ?_⟩
    · rw [endsAuthority, hb c hc, Bool.or_true]
    · cases hc
      rfl
  | cons d q => exact ⟨hq, hq⟩

/-- The path of a file starts with a slash. -/
theorem startPath_file_ne_nil (s : List Char) : (startPath .file s).1 ≠ [] := by
  rcases startPath_fst .file s with hrooted | ⟨hother, -⟩
  · intro hnil
    have hhead := hrooted.head
    rw [hnil] at hhead
    cases hhead
  · cases hother

/-- **A URL with a host is read up to its path**, and so it is with a slash behind the path. -/
theorem exists_located (hs : IsUnclosed (kindOf scheme) s) (hb : ∀ c ∈ b.head?, endsPath c = true)
    (h : readScheme none scheme (s ++ b) = .ok u) (hhost : u.host?.isSome = true) :
    ∃ a t, t <:+ s ∧ u = located scheme a (t ++ b) ∧
      readScheme none scheme (s ++ '/' :: b) = .ok (located scheme a (t ++ '/' :: b)) := by
  by_cases hfile : kindOf scheme = .file
  · obtain rfl := eq_of_kindOf_file hfile
    obtain ⟨c, d, t, g, rest, hcut, hc, hd, hread, hdrive, rfl⟩ := exists_of_readLocal h hhost
    obtain ⟨t, rfl, rfl⟩ : ∃ t', s = [c, d] ++ t' ∧ t = t' ++ b :=
      exists_append_of_stop hcut.symm
        (by simp [not_endsPath_of_isSlash hc, not_endsPath_of_isSlash hd]) hb
    obtain ⟨name, q, rfl, hname, hq⟩ := exists_append_stop (endsAuthority .file) t
    obtain ⟨hq, hq'⟩ := endsAuthority_append hq hb
    rw [List.append_assoc] at hread
    obtain ⟨rfl, hread'⟩ := fileHost?_append_stop hname hq hq' hread
    -- What is left of the text is still unclosed, so a slash behind it closes the path.
    have hsuffix : q <:+ [c, d] ++ (name ++ q) :=
      (List.suffix_append name q).trans (List.suffix_append _ _)
    have hdrive' : hasDrive (startPath .file (q ++ '/' :: b)).1 = false := by
      rw [startPath_slash (show IsUnclosed .file q from hs.of_suffix hsuffix) hb,
        hasDrive_closed (startPath_file_ne_nil _), hdrive]
    refine ⟨{ host := g }, q, hsuffix, rfl, ?_⟩
    rw [List.append_assoc, List.append_assoc]
    exact readLocal_host hc hd hread' hdrive'
  · obtain ⟨lead, t, hcut, hlead, hread, hskip⟩ := exists_lead hfile h hhost
    obtain ⟨t, rfl, rfl⟩ := exists_append_of_stop hcut.symm
      (fun c hc => not_endsPath_of_isSlash (hlead c hc)) hb
    obtain ⟨auth, q, rfl, hauth, hq⟩ := exists_append_stop (endsAuthority (kindOf scheme)) t
    obtain ⟨hq, hq'⟩ := endsAuthority_append hq hb
    rw [List.append_assoc] at hread
    obtain ⟨hne, a, y, hy, rfl, hread'⟩ := readAuthority_append hauth hq hq' hread hhost
    obtain ⟨p, rfl⟩ := hy
    refine ⟨a, y ++ q, ⟨lead ++ p, by simp⟩, by rw [List.append_assoc], ?_⟩
    -- The slashes end at the same character, since there is one in front of the end.
    have hhead : (p ++ y ++ q ++ '/' :: b).head? = (p ++ y ++ q ++ b).head? := by
      obtain ⟨c, r, hcons⟩ := List.exists_cons_of_ne_nil hne
      rw [hcons]
      rfl
    rw [List.append_assoc lead, hskip _ hhead, List.append_assoc, List.append_assoc y, hread']

end

/-- **A URL with a host has an authority**, and a path that was read behind it. -/
theorem exists_eq_located (h : readScheme none scheme s = .ok u) (hhost : u.host?.isSome = true) :
    ∃ a t, u = located scheme a t := by
  by_cases hfile : kindOf scheme = .file
  · obtain rfl := eq_of_kindOf_file hfile
    obtain ⟨-, -, -, g, rest, -, -, -, -, -, rfl⟩ := exists_of_readLocal h hhost
    exact ⟨{ host := g }, rest, rfl⟩
  · obtain ⟨-, t, -, -, hread, -⟩ := exists_lead hfile h hhost
    obtain ⟨user, -, host, port, after, -, -, -, rfl⟩ := readAuthority_eq_ok.1 hread
    exact ⟨⟨user.1, user.2, host, port⟩, after, rfl⟩

/-! ## Texts of URLs -/

/-- No scheme holds what ends a path. -/
theorem not_endsPath_of_isSchemeChar {c : Char} (h : isSchemeChar c = true) :
    endsPath c = false := by
  by_contra hends
  simp only [endsPath, Bool.not_eq_false, Bool.or_eq_true, beq_iff_eq] at hends
  rcases hends with rfl | rfl <;> exact absurd h (by decide)

/-- **A slash is put behind a path** that ends with none: in front of the query, of the fragment or
of the end. -/
def AddsSlash (k : Kind) (s t : List Char) : Prop :=
  ∃ front rest, s = front ++ rest ∧ t = front ++ '/' :: rest ∧ IsUnclosed k front ∧
    ∀ c ∈ rest.head?, endsPath c = true

/-- **A slash behind the path of a URL** with a host closes the path and changes nothing else. -/
theorem parse_slash {text text' : String} (h : parse text = .ok u) (hhost : u.host?.isSome = true)
    (hadds : AddsSlash u.kind (cleaned text) (cleaned text')) :
    parse text' = .ok { u with path := closed u.path } := by
  obtain ⟨scheme, s, hscheme, hread⟩ := parse_eq_ok.1 h
  obtain ⟨name, hname, hchars, halpha, hlower⟩ := scheme?_eq_some.1 hscheme
  obtain ⟨front, rest, hfront, hfront', hunclosed, hrest⟩ := hadds
  have hkind : u.kind = kindOf scheme := by
    obtain ⟨a, t, rfl⟩ := exists_eq_located hread hhost
    exact kind_located scheme a t
  rw [hkind] at hunclosed
  -- The scheme and its colon stand in front of the slash.
  have hends : ∀ c ∈ name ++ [':'], endsPath c = false := by
    intro c hc
    rcases List.mem_append.1 hc with hc | hc
    · exact not_endsPath_of_isSchemeChar (hchars c hc)
    · rw [List.mem_singleton.1 hc]
      rfl
  obtain ⟨x, rfl, rfl⟩ : ∃ x, front = (name ++ [':']) ++ x ∧ s = x ++ rest := by
    refine exists_append_of_stop ?_ hends hrest
    rw [← hfront, hname, List.append_assoc, List.singleton_append]
  have hx : IsUnclosed (kindOf scheme) x := hunclosed.of_suffix (List.suffix_append _ _)
  obtain ⟨a, t, ht, rfl, hread'⟩ := exists_located hx hrest hread hhost
  rw [located_slash scheme a (hx.of_suffix ht) hrest] at hread'
  refine parse_eq_ok.2 ⟨scheme, x ++ '/' :: rest, scheme?_eq_some.2 ⟨name, ?_, hchars, halpha,
    hlower⟩, hread'⟩
  rw [hfront', List.append_assoc, List.append_assoc, List.singleton_append]

end TemplateShare.Url
