import TemplateShare.Error
import TemplateShare.Proofs.Url.Host
import TemplateShare.Url.Parser

/-! # Authorities are read back

An authority that has been read is written as a text that is read up to its path again, with the
same host.

* **`Authority.IsRead`** — the authorities that are read.
* **`readAuthority_eq_ok`** — what reading an authority and a path comes to.
* **`readAuthority_text`** — the text of an authority is read up to its path. -/

namespace TemplateShare.Url

/-! ## Characters of an authority -/

/-- A character that may stand within an authority. -/
def IsInner (c : Char) : Prop := controlSet c = false ∧ c ∉ ['/', '\\', '?', '#']

instance (c : Char) : Decidable (IsInner c) := by unfold IsInner; infer_instance

/-- Such a character does not end it. -/
theorem IsInner.not_endsAuthority {c : Char} (h : IsInner c) (k : Kind) :
    endsAuthority k c = false := by
  have hne := h.2
  simp only [List.mem_cons, List.not_mem_nil, or_false, not_or] at hne
  simp [endsAuthority, Kind.isSlash, endsPath, hne]

/-- What ends an authority is no part of a host or a port, and may follow a port. -/
theorem of_endsAuthority {k : Kind} {c : Char} (h : endsAuthority k c = true) :
    c ≠ ':' ∧ c.isDigit = false ∧ (c == '/' || c == '\\' || endsPath c) = true := by
  simp only [endsAuthority, Kind.isSlash, endsPath, Bool.or_eq_true, Bool.and_eq_true,
    beq_iff_eq] at h
  rcases h with (rfl | ⟨rfl, -⟩) | rfl | rfl <;> decide

/-- The characters of a host are such, and none of them is an `@`. -/
theorem Host.IsWritten.isInner {s : List Char} (h : Host.IsWritten s) {c : Char} (hc : c ∈ s) :
    IsInner c ∧ c ≠ '@' := by
  have hplain {c : Char} (h : IsPlain c) : IsInner c ∧ c ≠ '@' := by
    have hne := h.2
    simp only [List.mem_cons, List.not_mem_nil, or_false, not_or] at hne
    simp [IsInner, h.1, hne]
  cases h with
  | name h => exact hplain (h c hc)
  | bracketed h =>
    rcases List.mem_cons.1 hc with rfl | hc
    · decide
    · rcases List.mem_append.1 hc with hc | hc
      · rcases h c hc with rfl | hc
        · decide
        · exact hplain hc
      · rw [List.mem_singleton.1 hc]
        decide

/-- What a user encodes may not stand in an authority. -/
theorem isInner_of_userinfoSet {c : Char} (h : userinfoSet c = false) : IsInner c := by
  have hpath := pathSet_of_userinfoSet h
  have hends := not_endsPath_of_pathSet hpath
  have hcontrol := (controlSet_of_fragmentSet (fragmentSet_of_pathSet hpath)).1
  simp only [endsPath, Bool.or_eq_false_iff, beq_eq_false_iff_ne] at hends
  simp only [userinfoSet, Bool.or_eq_false_iff, beq_eq_false_iff_ne] at h
  simp [IsInner, hcontrol, hends, h]

/-! ## The user -/

variable {k : Kind} {s t r info : List Char}

/-- An authority goes as far as its characters do. -/
theorem takeWhile_authority (hs : ∀ c ∈ s, IsInner c)
    (hr : ∀ c ∈ r.head?, endsAuthority k c = true) :
    (s ++ r).takeWhile (!endsAuthority k ·) = s := by
  refine takeWhile_append_stop (fun c hc => ?_) fun c hc => ?_
  · rw [(hs c hc).not_endsAuthority]
    rfl
  · rw [hr c hc]
    rfl

/-- What follows an authority is left. -/
theorem dropWhile_authority (hs : ∀ c ∈ s, IsInner c)
    (hr : ∀ c ∈ r.head?, endsAuthority k c = true) :
    (s ++ r).dropWhile (!endsAuthority k ·) = r := by
  refine dropWhile_append_stop (fun c hc => ?_) fun c hc => ?_
  · rw [(hs c hc).not_endsAuthority]
    rfl
  · rw [hr c hc]
    rfl

/-- **Without an `@` there is no user.** -/
theorem userinfo?_of_notMem (ht : ∀ c ∈ t, IsInner c ∧ c ≠ '@')
    (hr : ∀ c ∈ r.head?, endsAuthority k c = true) :
    userinfo? k (t ++ r) = .ok (([], none), t ++ r) := by
  have hnone : t.contains '@' = false := by
    simpa using fun hmem => (ht '@' hmem).2 rfl
  unfold userinfo?
  dsimp only
  rw [takeWhile_authority (fun c hc => (ht c hc).1) hr, if_neg (ne_true_of_eq_false hnone)]

/-- **The user stands in front of the last `@`.** -/
theorem userinfo?_append (hne : info ≠ []) (hinfo : ∀ c ∈ info, IsInner c)
    (ht : ∀ c ∈ t, IsInner c ∧ c ≠ '@') (hr : ∀ c ∈ r.head?, endsAuthority k c = true) :
    userinfo? k (info ++ '@' :: (t ++ r)) = .ok (readUserinfo info, t ++ r) := by
  have hall : ∀ c ∈ info ++ '@' :: t, IsInner c := by
    intro c hc
    rcases List.mem_append.1 hc with hc | hc
    · exact hinfo c hc
    · rcases List.mem_cons.1 hc with rfl | hc
      · decide
      · exact (ht c hc).1
  have hwhole : (info ++ '@' :: (t ++ r)).takeWhile (!endsAuthority k ·) = info ++ '@' :: t := by
    rw [← takeWhile_authority hall hr]
    simp
  have hmem : (info ++ '@' :: t).contains '@' = true := by simp
  -- From the end, the host is passed over up to the first `@` that is met.
  have hlast : ((info ++ '@' :: t).reverse.dropWhile (· != '@')).reverse.dropLast = info := by
    rw [List.reverse_append, List.reverse_cons, List.append_assoc,
      List.dropWhile_append_of_pos fun c hc => by
        simpa using (ht c (List.mem_reverse.1 hc)).2]
    simp
  have hrest : (info ++ '@' :: (t ++ r)).drop (info.length + 1) = t ++ r := by
    rw [← List.drop_drop, List.drop_left, List.drop_one, List.tail_cons]
  unfold userinfo?
  dsimp only
  rw [hwhole, if_pos hmem, hlast, hrest, if_neg (by simpa using hne)]

/-! ## Host and port -/

/-- A host as the scheme has it. -/
def readHost (scheme s : List Char) : Except Fault Host :=
  if kindOf scheme = .other then Host.parseOpaque s
  else if s.isEmpty then .error .emptyHost
  else Host.parse s

/-- A port in what follows a host, which may not be missing then. -/
def readPort (scheme : List Char) (host : Host) :
    List Char → Except Fault (Host × Option Nat × List Char)
  | ':' :: s =>
    if host.isEmpty then .error .emptyHost
    else port? s >>= fun x => .ok (host, if x.1 = usualPort? scheme then none else x.1, x.2)
  | s => .ok (host, none, s)

/-- **What reading a port comes to**, if there is one. -/
theorem readPort_eq_ok {scheme : List Char} {host h : Host} {port : Option Nat} :
    readPort scheme host s = .ok (h, port, r) ↔ h = host ∧
      ((∃ t p, s = ':' :: t ∧ host.isEmpty = false ∧ port? t = .ok (p, r) ∧
          port = if p = usualPort? scheme then none else p) ∨
        (s.head? ≠ some ':' ∧ port = none ∧ r = s)) := by
  unfold readPort
  constructor
  · intro hread
    split at hread
    · next t =>
      split at hread
      · cases hread
      · next hempty =>
        obtain ⟨⟨p, r'⟩, hport, heq⟩ := Except.bind_eq_ok.1 hread
        cases heq
        exact ⟨rfl, .inl ⟨t, p, rfl, by simpa using hempty, hport, rfl⟩⟩
    · next hcolon =>
      cases hread
      refine ⟨rfl, .inr ⟨fun hhead => ?_, rfl, rfl⟩⟩
      obtain ⟨t, rfl⟩ := List.head?_eq_some_iff.1 hhead
      exact hcolon t rfl
  · rintro ⟨rfl, ⟨t, p, rfl, hempty, hport, rfl⟩ | ⟨hhead, rfl, rfl⟩⟩
    · exact (if_neg (ne_true_of_eq_false hempty)).trans
        (Except.bind_eq_ok.2 ⟨(p, r), hport, rfl⟩)
    · split
      · exact absurd rfl hhead
      · rfl

/-- The host is read in one of two ways, the port after it in one. -/
theorem readHostPort_eq (scheme s : List Char) : readHostPort scheme s =
    readHost scheme (hostText (kindOf scheme) false s).1 >>= fun host =>
      readPort scheme host (hostText (kindOf scheme) false s).2 := by
  unfold readHostPort readHost
  dsimp only
  split
  · rfl
  · split <;> rfl

/-- **What reading a host and a port comes to.** -/
theorem readHostPort_eq_ok {scheme : List Char} {host : Host} {port : Option Nat} :
    readHostPort scheme s = .ok (host, port, r) ↔
      readHost scheme (hostText (kindOf scheme) false s).1 = .ok host ∧
        readPort scheme host (hostText (kindOf scheme) false s).2 = .ok (host, port, r) := by
  rw [readHostPort_eq, Except.bind_eq_ok]
  constructor
  · rintro ⟨h, hhost, hport⟩
    obtain rfl := (readPort_eq_ok.1 hport).1
    exact ⟨hhost, hport⟩
  · exact fun ⟨hhost, hport⟩ => ⟨host, hhost, hport⟩

/-- A port has sixteen bits. -/
theorem le_of_port? {p : Option Nat} (h : port? s = .ok (p, r)) : ∀ n ∈ p, n ≤ 0xFFFF := by
  unfold port? at h
  dsimp only at h
  split at h
  · split at h
    · cases h
    · next hbound =>
      cases h
      rintro n ⟨⟩
      exact Nat.not_lt.1 fun hlt => hbound (.inl hlt)
  · split at h
    · cases h
      simp
    · cases h

/-- **A port is read back.** -/
theorem port?_digits {n : Nat} (hn : n ≤ 0xFFFF) (hr : ∀ c ∈ r.head?, endsAuthority k c = true) :
    port? (Nat.toDigits 10 n ++ r) = .ok (some n, r) := by
  have hstop : ∀ c ∈ r.head?, c.isDigit = false ∧
      (c == '/' || c == '\\' || endsPath c) = true := fun c hc =>
    (of_endsAuthority (hr c hc)).2
  have hdigits : ∀ c ∈ Nat.toDigits 10 n, c.isDigit = true := fun c =>
    Decimal.isDigit_of_mem_digits
  have htake := takeWhile_append_stop hdigits fun c hc => (hstop c hc).1
  have hdrop := dropWhile_append_stop hdigits fun c hc => (hstop c hc).1
  have hfollow : (r.head?.all fun c => c == '/' || c == '\\' || endsPath c) = true := by
    cases r with
    | nil => rfl
    | cons c r => exact (hstop c rfl).2
  unfold port?
  dsimp only
  rw [htake, hdrop, Decimal.natural?_digits]
  dsimp only
  rw [hfollow, if_neg (by simpa using hn)]

/-! ## Authorities -/

/-- **The authorities that are read**: their host is found again, and only a host has a user and a
port. -/
structure Authority.IsRead (scheme : List Char) (a : Authority) : Prop where
  user : ∀ c ∈ a.userinfo, IsInner c
  host : readHost scheme a.host.text = .ok a.host
  written : Host.IsWritten a.host.text
  needed : a.host.isEmpty = true → a.userinfo = [] ∧ a.port = none
  port : ∀ n ∈ a.port, n ≤ 0xFFFF

/-- A port behind its colon. -/
def portText : Option Nat → List Char
  | some n => ':' :: Nat.toDigits 10 n
  | none => []

/-- What an authority consists of. -/
theorem Authority.text_eq (a : Authority) :
    a.text = a.userinfo ++ a.host.text ++ portText a.port := by
  unfold Authority.text portText
  cases a.port <;> rfl

/-- What stands in front of a host ends with an `@`. -/
theorem Authority.userinfo_cases (a : Authority) :
    a.userinfo = [] ∨ ∃ info, info ≠ [] ∧ a.userinfo = info ++ ['@'] := by
  unfold Authority.userinfo
  dsimp only
  split
  · exact .inl rfl
  · next hsome =>
    refine .inr ⟨_, ?_, rfl⟩
    cases hp : a.password with
    | none => simpa [hp] using hsome
    | some p => simp

/-- **What reading an authority and a path comes to.** -/
theorem readAuthority_eq_ok {scheme : List Char} {u : Url} : readAuthority scheme s = .ok u ↔
    ∃ user rest host port after, userinfo? (kindOf scheme) s = .ok (user, rest) ∧
      readHostPort scheme rest = .ok (host, port, after) ∧
      (host.isEmpty = true → Authority.userinfo ⟨user.1, user.2, host, port⟩ = []) ∧
      u = withRest
        { scheme
          authority := some ⟨user.1, user.2, host, port⟩
          path := (startPath (kindOf scheme) after).1 }
        (startPath (kindOf scheme) after).2 := by
  unfold readAuthority
  dsimp only
  rw [Except.bind_eq_ok]
  constructor
  · rintro ⟨⟨user, rest⟩, huser, h⟩
    obtain ⟨⟨host, port, after⟩, hhost, h⟩ := Except.bind_eq_ok.1 h
    split at h
    · cases h
    · next hneeded =>
      cases h
      refine ⟨user, rest, host, port, after, huser, hhost, fun hempty => ?_, rfl⟩
      simpa [hempty] using hneeded
  · rintro ⟨user, rest, host, port, after, huser, hhost, hneeded, rfl⟩
    refine ⟨⟨user, rest⟩, huser, Except.bind_eq_ok.2 ⟨⟨host, port, after⟩, hhost, ?_⟩⟩
    dsimp only
    rw [if_neg]
    · rfl
    · simpa using hneeded

/-- A user is encoded. -/
theorem userinfoSet_of_userinfo? {user : List Char × Option (List Char)}
    (h : userinfo? k s = .ok (user, r)) :
    (∀ c ∈ user.1, userinfoSet c = false) ∧ ∀ p ∈ user.2, ∀ c ∈ p, userinfoSet c = false := by
  have hnone : (∀ c ∈ ([] : List Char), userinfoSet c = false) ∧
      ∀ p ∈ (none : Option (List Char)), ∀ c ∈ p, userinfoSet c = false :=
    ⟨fun _ hc => (nomatch hc), fun _ hp => (nomatch hp)⟩
  have hencoded (t : List Char) : ∀ c ∈ encodeWith userinfoSet t, userinfoSet c = false :=
    fun c => not_mem_encodeWith fun _ => userinfoSet_of_isFormed
  unfold userinfo? at h
  dsimp only at h
  split at h
  · split at h
    · split at h
      · cases h
      · cases h
        exact hnone
    · cases h
      refine ⟨hencoded _, fun p hp => ?_⟩
      unfold readUserinfo at hp
      dsimp only at hp
      split at hp
      · cases hp
      · cases hp
        exact hencoded _
  · cases h
    exact hnone

/-- What stands in front of a host stays within the authority. -/
theorem Authority.isInner_of_mem_userinfo {a : Authority}
    (hname : ∀ c ∈ a.username, userinfoSet c = false)
    (hpassword : ∀ p ∈ a.password, ∀ c ∈ p, userinfoSet c = false) :
    ∀ c ∈ a.userinfo, IsInner c := by
  unfold Authority.userinfo
  dsimp only
  split
  · exact fun _ hc => nomatch hc
  · intro c hc
    rcases List.mem_append.1 hc with hc | hc
    · rcases List.mem_append.1 hc with hc | hc
      · exact isInner_of_userinfoSet (hname c hc)
      · cases hp : a.password with
        | none =>
          rw [hp] at hc
          cases hc
        | some p =>
          rw [hp] at hc
          rcases List.mem_cons.1 hc with rfl | hc
          · decide
          · exact isInner_of_userinfoSet (hpassword p hp c hc)
    · rw [List.mem_singleton.1 hc]
      decide

/-- **A host is read back** as its scheme has it. -/
theorem readHost_text {scheme : List Char} {host : Host} (h : readHost scheme s = .ok host) :
    readHost scheme host.text = .ok host ∧ Host.IsWritten host.text ∧
      (kindOf scheme ≠ .other → host.text ≠ []) := by
  unfold readHost at h ⊢
  split at h
  · next hother =>
    obtain ⟨hread, hwritten⟩ := Host.parseOpaque_text h
    exact ⟨by rw [if_pos hother, hread], hwritten, fun hne => absurd hother hne⟩
  · next hother =>
    split at h
    · cases h
    · obtain ⟨hread, hwritten, hne⟩ := Host.parse_text h
      exact ⟨by rw [if_neg hother, if_neg (by simpa using hne), hread], hwritten, fun _ => hne⟩

/-- **What has been read of an authority** is such an authority, in front of a path that is rooted
unless it is empty. -/
theorem isRead_of_readAuthority {scheme : List Char} {u : Url}
    (h : readAuthority scheme s = .ok u) :
    ∃ a path rest, Authority.IsRead scheme a ∧ (kindOf scheme ≠ .other → a.host.text ≠ []) ∧
      (IsRooted path ∨ (kindOf scheme = .other ∧ path = [])) ∧
      u = withRest { scheme, authority := some a, path } rest := by
  obtain ⟨user, rest, host, port, after, huser, hhost, hneeded, rfl⟩ := readAuthority_eq_ok.1 h
  obtain ⟨hname, hpassword⟩ := userinfoSet_of_userinfo? huser
  obtain ⟨hread, hport⟩ := readHostPort_eq_ok.1 hhost
  obtain ⟨-, hport⟩ := readPort_eq_ok.1 hport
  obtain ⟨hagain, hwritten, hne⟩ := readHost_text hread
  refine ⟨⟨user.1, user.2, host, port⟩, _, _, ⟨?_, hagain, hwritten, fun hempty => ?_, ?_⟩, hne,
    startPath_fst _ after, rfl⟩
  · exact Authority.isInner_of_mem_userinfo hname hpassword
  · refine ⟨hneeded hempty, ?_⟩
    rcases hport with ⟨-, -, -, hnonempty, -⟩ | ⟨-, hnone, -⟩
    · rw [hempty] at hnonempty
      cases hnonempty
    · exact hnone
  · rcases hport with ⟨t, p, -, -, hp, rfl⟩ | ⟨-, rfl, -⟩
    · dsimp only
      split
      · exact fun _ hn => nomatch hn
      · exact le_of_port? hp
    · exact fun _ hn => nomatch hn

/-- The characters of a port stay within the authority. -/
theorem isInner_of_mem_portText {port : Option Nat} {c : Char} (hc : c ∈ portText port) :
    IsInner c ∧ c ≠ '@' := by
  cases port with
  | none => cases hc
  | some n =>
    rcases List.mem_cons.1 hc with rfl | hc
    · decide
    · have hdigit := Decimal.isDigit_of_mem_digits hc
      have hascii := toNat_of_isAlphanum (c := c) (by simp [Char.isAlphanum, hdigit])
      exact Text.forall_of_codes (p := fun c => c.isDigit = true → IsInner c ∧ c ≠ '@')
        (by decide) (Nat.lt_succ_of_le hascii.2) hdigit

namespace Authority.IsRead

variable {scheme : List Char} {a : Authority}

/-- Host and port stay within the authority. -/
theorem isInner_of_mem (ha : a.IsRead scheme) :
    ∀ c ∈ a.host.text ++ portText a.port, IsInner c ∧ c ≠ '@' :=
  fun _ hc => (List.mem_append.1 hc).elim ha.written.isInner isInner_of_mem_portText

/-- All of the text stays within the authority. -/
theorem isInner_of_mem_text (ha : a.IsRead scheme) : ∀ c ∈ a.text, IsInner c := by
  intro c hc
  rw [a.text_eq, List.append_assoc] at hc
  exact (List.mem_append.1 hc).elim (ha.user c) fun hc => (ha.isInner_of_mem c hc).1

/-- **Host and port are found again.** -/
theorem readHostPort_text (ha : a.IsRead scheme)
    (hr : ∀ c ∈ r.head?, endsAuthority (kindOf scheme) c = true) :
    ∃ port, readHostPort scheme (a.host.text ++ portText a.port ++ r) = .ok (a.host, port, r) := by
  have hhost : hostText (kindOf scheme) false (a.host.text ++ portText a.port ++ r) =
      (a.host.text, portText a.port ++ r) := by
    rw [List.append_assoc]
    refine hostText_append ha.written fun c hc => ?_
    cases hport : a.port with
    | none =>
      rw [hport] at hc
      exact .inr (hr c hc)
    | some n =>
      rw [hport] at hc
      cases hc
      exact .inl rfl
  suffices hread : ∃ port, readPort scheme a.host (portText a.port ++ r) = .ok (a.host, port, r) by
    obtain ⟨port, hport⟩ := hread
    exact ⟨port, readHostPort_eq_ok.2 (by rw [hhost]; exact ⟨ha.host, hport⟩)⟩
  have hneeded := ha.needed
  cases hport : a.port with
  | none =>
    refine ⟨none, readPort_eq_ok.2 ⟨rfl, .inr ⟨fun hcolon => ?_, rfl, rfl⟩⟩⟩
    -- A colon does not end an authority, so the text behind the host starts with none.
    have hends := hr ':' hcolon
    cases hk : kindOf scheme <;> rw [hk] at hends <;> cases hends
  | some n =>
    rw [hport] at hneeded
    exact ⟨_, readPort_eq_ok.2 ⟨rfl, .inl ⟨Nat.toDigits 10 n ++ r, some n, rfl,
      by simpa using hneeded, port?_digits (ha.port n hport) hr, rfl⟩⟩⟩

end Authority.IsRead

/-- **The text of an authority is read up to its path**, and the path up to the query. -/
theorem readAuthority_text {scheme : List Char} {a : Authority} (ha : a.IsRead scheme)
    (hr : ∀ c ∈ r.head?, endsAuthority (kindOf scheme) c = true) :
    ∃ v, readAuthority scheme (a.text ++ r) = .ok (withRest v (r.dropWhile (!endsPath ·))) := by
  obtain ⟨port, hhost⟩ := ha.readHostPort_text hr
  -- The user is as long as before; whether it is the same does not matter.
  obtain ⟨user, huser, hneeded⟩ : ∃ user, userinfo? (kindOf scheme) (a.text ++ r) =
      .ok (user, a.host.text ++ portText a.port ++ r) ∧
      (a.host.isEmpty = true → user = ([], none)) := by
    have hinner := ha.isInner_of_mem
    rw [a.text_eq, List.append_assoc a.userinfo]
    generalize a.host.text ++ portText a.port = t at hinner ⊢
    rw [List.append_assoc]
    rcases a.userinfo_cases with hnil | ⟨info, hne, hinfo⟩
    · rw [hnil, List.nil_append]
      exact ⟨_, userinfo?_of_notMem hinner hr, fun _ => rfl⟩
    · have huser := ha.user
      rw [hinfo] at huser
      rw [hinfo, List.append_assoc, List.singleton_append]
      refine ⟨_, userinfo?_append hne (fun c hc => huser c (List.mem_append_left _ hc))
        hinner hr, fun hempty => ?_⟩
      have hnil := (ha.needed hempty).1
      rw [hinfo] at hnil
      simp at hnil
  have huserless (hempty : a.host.isEmpty = true) :
      Authority.userinfo ⟨user.1, user.2, a.host, port⟩ = [] := by
    rw [hneeded hempty]
    rfl
  rw [← startPath_snd (kindOf scheme)]
  exact ⟨_, readAuthority_eq_ok.2 ⟨user, _, a.host, port, r, huser, hhost, huserless, rfl⟩⟩

end TemplateShare.Url
