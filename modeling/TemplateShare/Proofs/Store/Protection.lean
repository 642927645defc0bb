import TemplateShare.Proofs.Session.Exchange
import TemplateShare.Proofs.Store.Gate

/-! # Documents with passwords

No request takes the passwords of a document away, and only an update that is to set some adds any.
What is new has none.

* **`Store.isProtected`** — whether a document has a password.
* **`Store.isProtected_send`** — what a request does to that.
* **`Store.stored_of_created`** — what a creation has left whose answer is read.
* **`Sync.setsPasswords_updateRequest`**, **`Session.setsPasswords_of_step`** — which requests of a
  session set passwords. -/

namespace TemplateShare

/-! ## Requests and documents -/

/-- **A request that sets passwords.** -/
def Request.setsPasswords (r : Request) : Bool :=
  (r.header? Header.openPassword).isSome || (r.header? Header.modifyPassword).isSome

namespace Store

variable {env : Setting} {r : Request} {s s' : Store} {id : String} {d : Document}

/-- **Whether a document of the store has a password.** -/
def isProtected (s : Store) (id : String) : Bool := (s.get? id).any Document.isProtected

/-- A document that is there has the passwords that it has. -/
theorem isProtected_of_get? (h : s.get? id = some d) : s.isProtected id = d.isProtected := by
  rw [isProtected, h, Option.any_some]

/-- The same documents have the same passwords. -/
theorem isProtected_congr (h : s'.documents = s.documents) (id : String) :
    s'.isProtected id = s.isProtected id := by
  rw [isProtected, isProtected, get?_congr h]

/-- A document has a password if one guards changes to it. -/
theorem Document.isProtected_eq (d : Document) : d.isProtected = d.guard?.isSome := by
  unfold isProtected guard?
  cases d.openHash <;> cases d.modifyHash <;> rfl

/-- **What may be changed without a password has none.** -/
theorem Document.isProtected_of_admits_none (h : d.admits id none = true) :
    d.isProtected = false := by
  rw [isProtected_eq]
  cases hguard : d.guard? with
  | none => rfl
  | some g => cases (not_admits_none hguard).symm.trans h

/-- **What is written has passwords** if the request sets some, or if there were some before. -/
theorem isProtected_passwordsAfter (env : Setting) (id : String) (r : Request)
    (before : Option Document) (dt : DataTemplate) (revision : Nat) :
    (Document.write env dt revision (passwordsAfter id r before).1
      (passwordsAfter id r before).2).isProtected =
        (r.setsPasswords || before.any Document.isProtected) := by
  unfold passwordsAfter Request.setsPasswords
  dsimp only
  generalize r.header? Header.openPassword = o
  generalize r.header? Header.modifyPassword = m
  by_cases hset : (o.isSome || m.isSome) = true
  · rw [if_pos hset, hset, Bool.true_or]
    simpa [Document.isProtected, Document.write] using hset
  · rw [if_neg hset, Bool.eq_false_iff.2 hset, Bool.false_or]
    cases before <;> rfl

/-- **No request takes passwords away**, and only one that sets passwords and is accepted adds
some. -/
theorem isProtected_send (env : Setting) (r : Request) (s : Store) (id : String) :
    (s.send env r).2.isProtected id =
      (s.isProtected id || r.setsPasswords && decide (acceptedId? env r s = some id)) := by
  have hanswered := answered_send env r s
  generalize s.send env r = answer at hanswered
  cases hanswered with
  | bare documents accepted =>
    rw [isProtected_congr documents, accepted]
    simp
  | fetched _ _ _ documents accepted =>
    rw [isProtected_congr documents, accepted]
    simp
  | @written t dt revision s' _ _ _ _ _ documents accepted =>
    obtain ⟨hself, hother⟩ := get?_of_written documents
    by_cases hid : id = t.id env s
    · rw [hid, isProtected_of_get? hself, isProtected_passwordsAfter, accepted, isProtected]
      simp [Bool.or_comm]
    · have hne : ¬ acceptedId? env r s = some id := fun h =>
        hid (Option.some.inj (h.symm.trans accepted))
      rw [isProtected, hother id hid, decide_eq_false hne, isProtected]
      simp

/-- A revision that is raised changes no passwords. -/
theorem isProtected_bump (s : Store) (id x : String) :
    (s.bump id).2.isProtected x = s.isProtected x := by
  unfold bump
  cases hd : s.get? id with
  | none => rfl
  | some d =>
    by_cases hx : x = id
    · subst hx
      rw [isProtected_of_get? (get?_put_self _ _ _), isProtected_of_get? hd]
      rfl
    · rw [isProtected, get?_put_of_ne hx]
      rfl

/-- **A creation whose answer is read has been accepted**, and has left a document under its id. -/
theorem stored_of_created {answer : Response} {hash : Option String} (hmethod : r.method = .post)
    (htarget : target? r.path = some .collection) (hsend : s.send env r = (.ok answer, s'))
    (hvalid : ∀ id, acceptedId? env r s = some id → DocumentId.isValid id = true)
    (success : answer.status = 200) (read : Sync.parseAnswer answer.body = .ok (id, hash)) :
    acceptedId? env r s = some id ∧ ∃ dt revision, s'.get? id = some (.write env dt revision
      (passwordsAfter id r (s.get? id)).1 (passwordsAfter id r (s.get? id)).2) := by
  have hanswered := answered_send env r s
  rw [hsend] at hanswered
  obtain ⟨t, dt, revision, target, -, -, documents, accepted, rfl⟩ :=
    hanswered.written_of_read hmethod success read
  obtain rfl := Option.some.inj (htarget.symm.trans target)
  -- The answer names the id that was drawn.
  obtain ⟨hid, -⟩ := Prod.mk.inj
    (Except.ok.inj (read.symm.trans (Sync.parseAnswer_id (hvalid _ accepted))))
  obtain rfl : id = Target.collection.id env s := hid
  exact ⟨accepted, dt, revision, (get?_of_written documents).1⟩

end Store

/-! ## Requests of sessions -/

namespace Sync

variable (o : Options) (s : Session)

/-- A fetch sets no passwords. -/
theorem setsPasswords_fetchRequest (id : String) (password : Option String) :
    (fetchRequest id password).setsPasswords = false := by
  have hopen : Header.same Header.password Header.openPassword = false := by decide
  have hmodify : Header.same Header.password Header.modifyPassword = false := by decide
  unfold Request.setsPasswords fetchRequest
  rw [Request.header?_withOptionalHeader_of_not_same _ _ hopen,
    Request.header?_withOptionalHeader_of_not_same _ _ hmodify]
  rfl

/-- A new document is sent without passwords. -/
theorem setsPasswords_writeRequest (id : Option String) :
    (writeRequest o s id).setsPasswords = false := by
  have hwrite := secrets_writeRequest o s id
  rw [Request.setsPasswords, header?_secrets hwrite (by simp [Header.secrets]),
    header?_secrets hwrite (by simp [Header.secrets])]
  rfl

/-- **An update sets the passwords that the session is to set**, if any. -/
theorem setsPasswords_updateRequest (id : String) (revision : Nat) (password : Option String) :
    (updateRequest o s id revision password).setsPasswords = s.pendingProtection.isSome := by
  obtain ⟨hopen, hmodify⟩ := header?_updateRequest_protection o s id revision password
  rw [Request.setsPasswords, hopen, hmodify]
  cases s.pendingProtection with
  | none => rfl
  | some p =>
    have hset : (p.openPassword.isSome || p.modifyPassword.isSome) = true := by simpa using p.isSet
    simpa using hset

end Sync

namespace Session

variable {s s' : Session} {op : Operation} {es : List (Request × Reply)} {result : Result}

/-- **A session without passwords to set sets none.** -/
theorem setsPasswords_of_step (h : Step s op es result s') (hpending : s.pendingProtection = none) :
    ∀ e ∈ es, e.1.setsPasswords = false := by
  intro e he
  have hrequested := requested_of_step h e he
  generalize e.1 = r at hrequested ⊢
  cases hrequested with
  | fetch id password => exact Sync.setsPasswords_fetchRequest id password
  | write o => exact Sync.setsPasswords_writeRequest o s none
  | update o id revision password =>
    rw [Sync.setsPasswords_updateRequest, hpending]
    rfl

end Session

end TemplateShare
