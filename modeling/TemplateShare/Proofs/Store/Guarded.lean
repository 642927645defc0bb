import TemplateShare.Proofs.Session.WellFormed
import TemplateShare.Proofs.Store.Gate

/-! # Guarded documents

What given passwords let pass at a document that has them: the store keeps only their hashes, but as
long as these tell passwords apart, it makes no difference. A request of anyone to change the
document or to fetch it is judged by the password that it presents; and an accepted update that sets
passwords leaves the document with them.

* **`Store.Document.IsGuardedBy`** — a document with given passwords, and what it lets pass.
* **`Store.status_of_isUpdate`**, **`Store.status_of_get`** — what anyone is answered.
* **`Store.exists_isGuardedBy`** — what an update leaves that sets passwords. -/

namespace TemplateShare

/-! ## Passwords of a document -/

/-- **Passwords are told apart** from another one by the hashes that the store keeps. -/
def Protection.TellsApart (p : Protection) (id q : String) : Prop :=
  ∀ v ∈ p.passwords, Store.passwordHash id q = Store.passwordHash id v → q = v

namespace Store

variable {env : Setting} {r : Request} {s s' : Store} {id q : String} {d : Document}
  {p : Protection}

namespace Document

/-- **A document with given passwords**, of which the store keeps the hashes. -/
structure IsGuardedBy (id : String) (p : Protection) (d : Document) : Prop where
  openHash : d.openHash = p.openPassword.map (passwordHash id)
  modifyHash : d.modifyHash = p.modifyPassword.map (passwordHash id)

namespace IsGuardedBy

variable (h : d.IsGuardedBy id p)

include h

/-- It has a password. -/
theorem isProtected_eq : d.isProtected = true := by
  rw [isProtected, h.openHash, h.modifyHash, Option.isSome_map, Option.isSome_map]
  simpa using p.isSet

/-- Changes are guarded by the password that is to guard them. -/
theorem guard?_eq : d.guard? = p.guard?.map (passwordHash id) := by
  rw [guard?, h.openHash, h.modifyHash, Protection.guard?]
  cases p.modifyPassword <;> rfl

/-- **Without a password nothing is changed.** -/
theorem not_admits_none : d.admits id none = false := by
  obtain ⟨g, hg⟩ := Option.isSome_iff_exists.1 p.isSome_guard?
  exact Document.not_admits_none (h.guard?_eq.trans (by rw [hg]; rfl))

/-- **Changes need the password that guards them.** -/
theorem admits_iff (hq : p.TellsApart id q) :
    d.admits id (some q) = true ↔ p.guard? = some q := by
  obtain ⟨g, hg⟩ := Option.isSome_iff_exists.1 p.isSome_guard?
  have hmem : g ∈ p.passwords := by
    rw [Protection.guard?] at hg
    rw [Protection.passwords, List.mem_append, Option.mem_toList, Option.mem_toList]
    cases hmodify : p.modifyPassword with
    | none => rw [hmodify] at hg; exact .inl hg
    | some m => rw [hmodify] at hg; exact .inr hg
  have hadmits : d.admits id (some q) = true ↔ passwordHash id q = passwordHash id g := by
    rw [admits, h.guard?_eq, hg]
    simp
  rw [hadmits, hg, Option.some.injEq]
  exact ⟨fun hhash => (hq g hmem hhash).symm, fun hsame => by rw [hsame]⟩

/-- The password that guards changes allows them. -/
theorem admits_guard? : d.admits id p.guard? = true := by
  obtain ⟨g, hg⟩ := Option.isSome_iff_exists.1 p.isSome_guard?
  rw [admits, h.guard?_eq, hg]
  simp

/-- **The document opens to either of its passwords**, and to anything where none is for opening. -/
theorem opens_iff (hq : p.TellsApart id q) : d.opens id (some q) = true ↔
    p.openPassword = none ∨ p.openPassword = some q ∨ p.modifyPassword = some q := by
  have hsame {v : Option String} (hv : ∀ x, v = some x → x ∈ p.passwords) :
      v.map (passwordHash id) = some (passwordHash id q) ↔ v = some q := by
    cases v with
    | none => simp
    | some x =>
      rw [Option.map_some, Option.some.injEq, Option.some.injEq]
      exact ⟨fun hhash => (hq x (hv x rfl) hhash.symm).symm, fun hx => by rw [hx]⟩
  have hopen := hsame fun x hx => List.mem_append_left _ (Option.mem_toList.2 hx)
  have hmodify := hsame fun x hx => List.mem_append_right _ (Option.mem_toList.2 hx)
  rw [← hopen, ← hmodify, opens, h.openHash, h.modifyHash]
  cases p.openPassword with
  | none => exact iff_of_true rfl (.inl rfl)
  | some v => simp [eq_comm (a := passwordHash id q)]

/-- The document opens to the password for opening, or without one to the other. -/
theorem opens_own : d.opens id (p.openPassword <|> p.modifyPassword) = true := by
  rw [opens, h.openHash]
  cases p.openPassword <;> simp

end IsGuardedBy

end Document

/-! ## Updates of anyone -/

/-- **A correctly numbered update** of a document: a write whose body is a document, to a revision
after the one that is there. -/
structure IsUpdate (s : Store) (id : String) (r : Request) : Prop where
  method : r.method = .post
  target : target? r.path = some (.document id)
  body : ∃ dt, bodyDocument? r = some dt
  later : ∃ d revision, s.get? id = some d ∧ requestedRevision? r = some revision ∧
    d.revision < revision

/-- **A correctly numbered update is accepted or refused for its password.** -/
theorem status_of_isUpdate (hfaults : s.faults = []) (hd : s.get? id = some d)
    (h : s.IsUpdate id r) (env : Setting) : ∃ x, (s.send env r).1 = .ok x ∧
      x.status = if d.admits id (r.header? Header.password) then 200 else 401 := by
  obtain ⟨dt, hbody⟩ := h.body
  obtain ⟨d', revision, hd', hrequested, hlater⟩ := h.later
  obtain rfl := Option.some.inj (hd'.symm.trans hd)
  rw [send_of_faults hfaults, handle, h.target, h.method]
  dsimp only
  rw [write, hbody, hrequested]
  dsimp only
  rw [writeAt, get?_noted, hd, Option.all_some, mayModify_eq]
  cases d'.admits id (r.header? Header.password) with
  | false => exact ⟨_, rfl, rfl⟩
  | true =>
    rw [Option.any_some, decide_eq_false (Nat.not_le.2 hlater)]
    exact ⟨_, rfl, rfl⟩

/-- **A fetch is let in or refused for its password.** -/
theorem status_of_get (hfaults : s.faults = []) (hd : s.get? id = some d)
    (hmethod : r.method = .get) (htarget : target? r.path = some (.document id)) (env : Setting) :
    ∃ x, (s.send env r).1 = .ok x ∧
      (x.status = 200 ↔ d.opens id (r.header? Header.password) = true) := by
  rw [send_of_faults hfaults, handle, htarget, hmethod]
  dsimp only
  rw [fetch_eq_opens ((get?_noted r s id).trans hd)]
  refine ⟨_, rfl, ?_⟩
  cases d.opens id (r.header? Header.password) with
  | true => exact iff_of_true rfl rfl
  | false =>
    refine iff_of_false ?_ Bool.false_ne_true
    cases (r.header? Header.password).isSome <;> rintro ⟨⟩

/-- A store without faults gets none. -/
theorem faults_send (hfaults : s.faults = []) (env : Setting) (r : Request) :
    (s.send env r).2.faults = [] := by
  have hwriteAt (x : Store) (id : String) (dt : DataTemplate) (revision : Nat)
      (answer : Document → String) :
      (writeAt env id r dt revision answer x).2.faults = x.faults := by
    unfold writeAt
    dsimp only
    split
    · rfl
    · split <;> rfl
  have hwrite (x : Store) (t : Target) : (write env t r x).2.faults = x.faults := by
    unfold write
    split
    · cases t with
      | document id => exact hwriteAt _ _ _ _ _
      | collection => exact hwriteAt _ _ _ _ _
    · rfl
  rw [send_of_faults hfaults]
  dsimp only
  unfold handle
  split
  · exact hfaults
  · exact hfaults
  · exact hfaults
  · exact (hwrite _ _).trans hfaults

/-! ## What an update leaves -/

/-- **An update that sets passwords leaves a document with them**, whatever was there before. -/
theorem passwordsAfter_of_protection {x : Session} (hpending : x.pendingProtection = some p)
    (id : String) (o : Sync.Options) (revision : Nat) (presented : Option String)
    (before : Option Document) :
    passwordsAfter id (Sync.updateRequest o x id revision presented) before =
      (p.openPassword.map (passwordHash id), p.modifyPassword.map (passwordHash id)) := by
  obtain ⟨hopen, hmodify⟩ := Sync.header?_updateRequest_protection o x id revision presented
  have hset : (p.openPassword.isSome || p.modifyPassword.isSome) = true := by simpa using p.isSet
  rw [passwordsAfter, hopen, hmodify, hpending]
  exact if_pos hset

/-- **An accepted update that sets passwords leaves a document with them**, at the revision of the
update. -/
theorem exists_isGuardedBy {x : Session} (hpending : x.pendingProtection = some p)
    {o : Sync.Options} {revision : Nat} {presented : Option String} {answer : Response}
    {named : String × Option String}
    (hsend : s.send env (Sync.updateRequest o x id revision presented) = (.ok answer, s'))
    (success : answer.status = 200) (read : Sync.parseAnswer answer.body = .ok named) :
    DocumentId.isValid id = true ∧ s'.faults = [] ∧ ∃ d, s'.get? id = some d ∧
      d.IsGuardedBy id p ∧ d.Sound ∧ d.revision = revision ∧ revision < Nat.pow 2 64 := by
  obtain ⟨haccepted, hid, hbound, dt, hdt, hstored⟩ := stored_of_read hsend success read
  rw [passwordsAfter_of_protection hpending] at hstored
  have hfaults : s.faults = [] := by
    unfold acceptedId? at haccepted
    split at haccepted
    · next hfaults _ _ => exact hfaults
    · cases haccepted
  have hkept := faults_send hfaults env (Sync.updateRequest o x id revision presented)
  rw [hsend] at hkept
  exact ⟨hid, hkept, _, hstored, ⟨rfl, rfl⟩,
    Document.sound_write hdt env revision (isHashText_map id _) (isHashText_map id _), rfl, hbound⟩

/-- An update that sets no passwords leaves those of the document. -/
theorem Document.IsGuardedBy.update {x : Session} (h : d.IsGuardedBy id p)
    (hpending : x.pendingProtection = none) (env : Setting) (revision : Nat) :
    (updatedDocument env id x revision d).IsGuardedBy id p := by
  rw [updatedDocument, hpending]
  exact ⟨h.openHash, h.modifyHash⟩

/-- **An update leaves the session's document** at its revision. -/
theorem Document.Sound.holds_update {x : Session} (h : d.Sound) (hx : x.WellFormed) (env : Setting)
    (id : String) (revision : Nat) : (updatedDocument env id x revision d).Holds x.snapshot.sent ∧
      (updatedDocument env id x revision d).revision = revision := by
  obtain ⟨dt, hd⟩ := h
  have hsent := wellFormed_sent hx
  unfold updatedDocument
  cases x.pendingProtection with
  | none => exact ⟨holds_write hsent env revision hd.openHash hd.modifyHash, rfl⟩
  | some p =>
    exact ⟨holds_write hsent env revision (isHashText_map id _) (isHashText_map id _), rfl⟩

end Store

end TemplateShare
