import TemplateShare.Proofs.Store.Protection

/-! # The rules of the store

Whoever sends requests to a store, and whatever they look like, it keeps to rules of its own. Only a
write that the store itself accepts changes anything, and only the document that it is to; documents
stay, their revisions rise, and their passwords are changed by nobody who does not know them.

* **`Store.Event`**, **`Store.after`** — what can happen to a store: requests and faults.
* **`Store.acceptedId?_eq_some_iff`** — what it takes to be accepted.
* **`Store.get?_send_of_ne`**, **`Store.exists_get?_send`** — what one request does to a document.
* **`Store.Obeys`** — the rules for one request; **`Store.obeys`** — they always hold.
* **`Store.acceptances`**, **`Store.exists_get?_after`** — what becomes of a document in the end.
* **`Store.obeys_throughout`** — the rules for all that can happen. -/

namespace TemplateShare.Store

variable {env : Setting} {r : Request} {s : Store} {id : String} {d : Document} {es : List Event}

/-! ## What happens to a store -/

/-- **What can happen to a store**: a request is sent, at a time and with ids to draw of its own, or a
fault is to meet a later request. -/
inductive Event where
  | request (env : Setting) (r : Request)
  | inject (f : Fault)

/-- The store after an event. -/
def next (s : Store) : Event → Store
  | .request env r => (s.send env r).2
  | .inject f => s.inject f

/-- **The store after events**, one after the other. -/
def after (s : Store) : List Event → Store
  | [] => s
  | e :: es => (s.next e).after es

@[simp] theorem after_nil (s : Store) : s.after [] = s := rfl

@[simp] theorem after_cons (s : Store) (e : Event) (es : List Event) :
    s.after (e :: es) = (s.next e).after es := rfl

/-! ## One request -/

/-- **What it takes to be accepted**: no fault is in the way, it is a write, it is answered with
success, and its path names the document or draws its id. -/
theorem acceptedId?_eq_some_iff : acceptedId? env r s = some id ↔
    s.faults = [] ∧ r.method = .post ∧ (∃ x, (s.send env r).1 = .ok x ∧ x.status = 200) ∧
      ∃ t, target? r.path = some t ∧ t.id env s = id := by
  unfold acceptedId?
  split
  · next x hfaults hmethod hanswer =>
    rw [hanswer]
    by_cases hstatus : x.status = 200
    · simp [hfaults, hmethod, hstatus]
    · simp [hstatus]
  · next hother =>
    simp only [reduceCtorEq, false_iff]
    rintro ⟨hfaults, hmethod, ⟨x, hanswer, -⟩, -⟩
    exact hother x hfaults hmethod hanswer

/-- **What is not accepted changes nothing.** -/
theorem documents_send (h : acceptedId? env r s = none) :
    (s.send env r).2.documents = s.documents := by
  have hanswered := answered_send env r s
  generalize s.send env r = answer at hanswered
  cases hanswered with
  | bare documents => exact documents
  | fetched _ _ _ documents => exact documents
  | written _ _ _ _ _ _ accepted => cases accepted.symm.trans h

/-- **A document that nothing is accepted for stays as it is.** -/
theorem get?_send_of_ne (h : acceptedId? env r s ≠ some id) :
    (s.send env r).2.get? id = s.get? id := by
  have hanswered := answered_send env r s
  generalize s.send env r = answer at hanswered
  cases hanswered with
  | bare documents => exact get?_congr documents id
  | fetched _ _ _ documents => exact get?_congr documents id
  | written _ _ _ _ _ documents accepted =>
    refine (get?_of_written documents).2 id ?_
    rintro rfl
    exact h accepted

/-- The hashes of the passwords of a document, for opening and for modifying. -/
def Document.hashes (d : Document) : Option String × Option String := (d.openHash, d.modifyHash)

/-- **A request that may change the passwords of a document.** The store itself accepts it as a write
to the document; it presents the password that guards changes to the document (the one for modifying,
or the one for opening where there is no other), unless there is none; and it sets passwords. -/
structure Resets (env : Setting) (r : Request) (s : Store) (id : String) (d : Document) : Prop where
  accepted : acceptedId? env r s = some id
  admitted : d.admits id (r.header? Header.password) = true
  sets : r.setsPasswords = true

/-- **What becomes of a document when a request is sent.** It stays under its id. An accepted write to
it raises its revision; and only one that may change its passwords does. -/
theorem exists_get?_send (env : Setting) (r : Request) (hd : s.get? id = some d) :
    ∃ d', (s.send env r).2.get? id = some d' ∧
      (acceptedId? env r s = some id → d.revision < d'.revision) ∧
      (acceptedId? env r s ≠ some id → d' = d) ∧ (d'.hashes ≠ d.hashes → Resets env r s id d) := by
  by_cases haccepted : acceptedId? env r s = some id
  · have hadmits := admits_of_accepted haccepted hd
    have hanswered := answered_send env r s
    generalize s.send env r = answer at hanswered
    cases hanswered with
    | bare _ none => cases none.symm.trans haccepted
    | fetched _ _ _ _ none => cases none.symm.trans haccepted
    | @written t dt revision s' _ _ _ _ later documents accepted =>
      obtain rfl := Option.some.inj (accepted.symm.trans haccepted)
      refine ⟨_, (get?_of_written documents).1, fun _ => later d hd, absurd accepted, ?_⟩
      intro hchanged
      refine ⟨accepted, hadmits, ?_⟩
      cases hsets : r.setsPasswords with
      | true => rfl
      | false =>
        -- A request that sets no passwords leaves those from before.
        refine absurd ?_ hchanged
        obtain ⟨ho, hm⟩ := Bool.or_eq_false_iff.1 hsets
        simp [passwordsAfter, ho, hm, hd, Document.hashes, Document.write]
  · exact ⟨d, (get?_send_of_ne haccepted).trans hd, fun h => absurd h haccepted, fun _ => rfl,
      fun hchanged => absurd rfl hchanged⟩

/-- **The rules for one request.** -/
structure Obeys (env : Setting) (r : Request) (s : Store) : Prop where
  /-- Nothing is changed by a fetch. -/
  get : r.method = .get → (s.send env r).2.documents = s.documents
  /-- Nothing is changed by what is not answered with success. -/
  refused : (∀ x, (s.send env r).1 = .ok x → x.status ≠ 200) →
    (s.send env r).2.documents = s.documents
  /-- Nothing is changed by what is met by a fault, even one that is taken for success. -/
  faulty : s.faults ≠ [] → (s.send env r).2.documents = s.documents
  /-- At most one document is changed, the one that a write is accepted for. -/
  single : ∀ x, acceptedId? env r s ≠ some x → (s.send env r).2.get? x = s.get? x
  /-- No document disappears. -/
  kept : ∀ x, s.contains x = true → (s.send env r).2.contains x = true
  /-- A write is accepted for a document only at a later revision. -/
  later : ∀ x d, acceptedId? env r s = some x → s.get? x = some d →
    ∃ d', (s.send env r).2.get? x = some d' ∧ d.revision < d'.revision
  /-- The passwords of a document are changed only by a request that may change them. -/
  passwords : ∀ x d d', s.get? x = some d → (s.send env r).2.get? x = some d' →
    d'.hashes ≠ d.hashes → Resets env r s x d

/-- **Every request is answered by the rules.** -/
theorem obeys (env : Setting) (r : Request) (s : Store) : Obeys env r s where
  get hget := by
    refine documents_send (Option.eq_none_iff_forall_ne_some.2 fun x hx => ?_)
    obtain ⟨-, hpost, -⟩ := acceptedId?_eq_some_iff.1 hx
    cases hget.symm.trans hpost
  refused hrefused := by
    refine documents_send (Option.eq_none_iff_forall_ne_some.2 fun x hx => ?_)
    obtain ⟨-, -, ⟨y, hy, hstatus⟩, -⟩ := acceptedId?_eq_some_iff.1 hx
    exact hrefused y hy hstatus
  faulty hfaults := by
    refine documents_send (Option.eq_none_iff_forall_ne_some.2 fun x hx => ?_)
    exact hfaults (acceptedId?_eq_some_iff.1 hx).1
  single x hx := get?_send_of_ne hx
  kept x hx := by
    obtain ⟨d, hd⟩ := Option.isSome_iff_exists.1 hx
    obtain ⟨d', hd', -⟩ := exists_get?_send env r hd
    exact Option.isSome_iff_exists.2 ⟨d', hd'⟩
  later x d hx hd := by
    obtain ⟨d', hd', hlater, -⟩ := exists_get?_send env r hd
    exact ⟨d', hd', hlater hx⟩
  passwords x d d' hd hd' hchanged := by
    obtain ⟨d'', hd'', -, -, hresets⟩ := exists_get?_send env r hd
    obtain rfl := Option.some.inj (hd''.symm.trans hd')
    exact hresets hchanged

/-! ## Requests and faults in turn -/

/-- The document that an event changes, if it is a request that the store accepts. -/
def Event.accepted? (s : Store) : Event → Option String
  | .request env r => acceptedId? env r s
  | .inject _ => none

/-- **How often a write to a document is accepted** while events happen to a store. -/
def acceptances (id : String) (s : Store) : List Event → Nat
  | [] => 0
  | e :: es => (if e.accepted? s = some id then 1 else 0) + acceptances id (s.next e) es

/-- **A request among events** that is sent to a store which the earlier ones have left. -/
def Sends (s : Store) (es : List Event) (env : Setting) (r : Request) (s' : Store) : Prop :=
  ∃ earlier later, es = earlier ++ .request env r :: later ∧ s' = s.after earlier

/-- A request is among more events as well. -/
theorem Sends.cons {s' : Store} (e : Event) (h : (s.next e).Sends es env r s') :
    s.Sends (e :: es) env r s' := by
  obtain ⟨earlier, later, rfl, rfl⟩ := h
  exact ⟨e :: earlier, later, rfl, rfl⟩

/-- The first event may be the request. -/
theorem sends_head (s : Store) (env : Setting) (r : Request) (es : List Event) :
    s.Sends (.request env r :: es) env r s := ⟨[], es, rfl, rfl⟩

/-- **What becomes of a document in the end.** It stays under its id, its revision has risen with each
write that was accepted for it, without such writes it is what it was, and its passwords are the same
unless some request has been sent that may change them. -/
theorem exists_get?_after (es : List Event) (hd : s.get? id = some d) :
    ∃ d', (s.after es).get? id = some d' ∧ d.revision + acceptances id s es ≤ d'.revision ∧
      (acceptances id s es = 0 → d' = d) ∧
      (d'.hashes ≠ d.hashes → ∃ env r s₁ d₁, s.Sends es env r s₁ ∧ s₁.get? id = some d₁ ∧
        Resets env r s₁ id d₁) := by
  induction es generalizing s d with
  | nil => exact ⟨d, hd, Nat.le_refl _, fun _ => rfl, fun h => absurd rfl h⟩
  | cons e es ih =>
    cases e with
    | inject f =>
      obtain ⟨d', hd', hrevision, hsame, hresets⟩ := ih (s := s.next (.inject f)) hd
      refine ⟨d', hd', by simpa [acceptances, Event.accepted?] using hrevision, ?_, ?_⟩
      · simpa [acceptances, Event.accepted?] using hsame
      · intro hchanged
        obtain ⟨env, r, s₁, d₁, hsends, hrest⟩ := hresets hchanged
        exact ⟨env, r, s₁, d₁, hsends.cons (.inject f), hrest⟩
    | request env r =>
      obtain ⟨d₁, hd₁, hlater, hkept, hreset⟩ := exists_get?_send env r hd
      obtain ⟨d', hd', hrevision, hsame, hresets⟩ := ih (s := s.next (.request env r)) hd₁
      refine ⟨d', hd', ?_, ?_, ?_⟩
      · -- The first request may be one of the accepted ones.
        by_cases haccepted : acceptedId? env r s = some id
        · have hlater := hlater haccepted
          simp only [acceptances, Event.accepted?, haccepted, if_true]
          omega
        · obtain rfl := hkept haccepted
          simpa [acceptances, Event.accepted?, haccepted] using hrevision
      · intro hnone
        by_cases haccepted : acceptedId? env r s = some id
        · simp [acceptances, Event.accepted?, haccepted] at hnone
        · rw [← hkept haccepted]
          apply hsame
          simpa [acceptances, Event.accepted?, haccepted] using hnone
      · intro hchanged
        -- The passwords change with the first request or with a later one.
        by_cases hfirst : d₁.hashes = d.hashes
        · obtain ⟨env', r', s₂, d₂, hsends, hrest⟩ := hresets (hfirst ▸ hchanged)
          exact ⟨env', r', s₂, d₂, hsends.cons (.request env r), hrest⟩
        · exact ⟨env, r, s, d, sends_head s env r es, hd, hreset hfirst⟩

/-- **The rules hold against any client.** Whatever requests are sent to a store, with whatever faults
between them, each is answered by the rules. In the end every document is still under its id, at a
revision that has risen with each write accepted for it, and with the passwords that it had unless some
request that may change them has been sent. -/
theorem obeys_throughout (s : Store) (es : List Event) :
    (∀ env r s₁, s.Sends es env r s₁ → Obeys env r s₁) ∧
      ∀ id d, s.get? id = some d →
        ∃ d', (s.after es).get? id = some d' ∧ d.revision + acceptances id s es ≤ d'.revision ∧
          (acceptances id s es = 0 → d' = d) ∧
          (d'.hashes ≠ d.hashes → ∃ env r s₁ d₁, s.Sends es env r s₁ ∧ s₁.get? id = some d₁ ∧
            Resets env r s₁ id d₁) :=
  ⟨fun env r s₁ _ => obeys env r s₁, fun _ _ hd => exists_get?_after es hd⟩

end TemplateShare.Store
