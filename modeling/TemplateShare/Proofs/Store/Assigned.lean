import TemplateShare.Proofs.Sharing.Protected
import TemplateShare.Proofs.Store.Rules

/-! # Where ids come from

The store gives out ids, one for each new document. But it does not ask whether it has: a readable write
to an id that it does not hold is taken as if the document had been there, and from then on it is. So
the store holds what it held, what it has given an id, and what it has taken over from its clients; a
session that updates a document which does not exist is not told so.

* **`Store.Misses`** — requests that name an id which the store does not hold, and what they are
  answered.
* **`Store.Assigns`**, **`Store.Adopts`** — requests that add a document, under an id of the store or
  under one of the client.
* **`Store.contains_send_iff`**, **`Store.contains_after_of_sends`** — what one request adds, and all
  of them.
* **`Solo.update_missing`** — what a session is told that updates a document which does not exist.
* **`Store.contains_after_iff`** — which documents there are in the end. -/

namespace TemplateShare

namespace Store

variable {env : Setting} {r : Request} {s : Store} {id : String} {es : List Event}

/-! ## Ids that the store does not hold -/

/-- **A request for a document that the store does not hold**, and which no fault meets. -/
structure Misses (r : Request) (s : Store) (id : String) : Prop where
  faults : s.faults = []
  target : target? r.path = some (.document id)
  missing : s.get? id = none

/-- A write whose body is a document, to a revision. -/
def IsReadable (r : Request) : Prop :=
  (bodyDocument? r).isSome = true ∧ (requestedRevision? r).isSome = true

/-- A document that is written under an id which the store does not hold. -/
def newDocument (env : Setting) (id : String) (r : Request) (dt : DataTemplate) (revision : Nat) :
    Document :=
  .write env dt revision (passwordsAfter id r none).1 (passwordsAfter id r none).2

/-- Its text names a hash. -/
theorem isHashText_newDocument {dt : DataTemplate} (hdt : dt.registry.WellFormed) (env : Setting)
    (id : String) (r : Request) (revision : Nat) :
    IsHashText (newDocument env id r dt revision).hash := by
  rw [newDocument, Document.hash_write hdt]
  exact Sha256.isHashText_hex _

/-- Where there is no document, nothing stands against a write. -/
theorem writeAt_missing (hmissing : s.get? id = none) (env : Setting) (r : Request)
    (dt : DataTemplate) (revision : Nat) (answer : Document → String) :
    writeAt env id r dt revision answer s =
      (okResponse (answer (newDocument env id r dt revision)),
        s.put id (newDocument env id r dt revision)) := by
  rw [writeAt, hmissing]
  rfl

namespace Misses

variable (h : s.Misses r id)

include h

/-- The store handles the request. -/
theorem send_eq (env : Setting) :
    s.send env r = (.ok (handle env r (s.noted r)).1, (handle env r (s.noted r)).2) :=
  send_of_faults h.faults env r

/-- **A fetch is not found.** -/
theorem fetch (hmethod : r.method = .get) (env : Setting) :
    s.send env r = (.ok (statusResponse 404), s.noted r) := by
  rw [h.send_eq, handle, h.target, hmethod]
  dsimp only
  rw [Store.fetch, get?_noted, h.missing]

/-- **A write that cannot be read is refused.** -/
theorem refuse (hmethod : r.method = .post) (hread : ¬IsReadable r) (env : Setting) :
    s.send env r = (.ok (statusResponse 400), s.noted r) := by
  rw [h.send_eq, handle, h.target, hmethod]
  dsimp only
  unfold write
  split
  · next dt revision hbody hrevision =>
    refine absurd ⟨?_, ?_⟩ hread
    · rw [hbody]; rfl
    · rw [hrevision]; rfl
  · rfl

/-- **A write that can be read is carried out**, as if the document had been there. -/
theorem adopt (hmethod : r.method = .post) (hread : IsReadable r) (env : Setting) :
    ∃ d, IsHashText d.hash ∧ s.send env r = (.ok (updateAnswer id d), (s.noted r).put id d) := by
  obtain ⟨dt, hbody⟩ := Option.isSome_iff_exists.1 hread.1
  obtain ⟨revision, hrevision⟩ := Option.isSome_iff_exists.1 hread.2
  rw [h.send_eq, handle, h.target, hmethod]
  dsimp only
  rw [write, hbody, hrevision]
  dsimp only
  rw [writeAt_missing ((get?_noted r s id).trans h.missing)]
  refine ⟨newDocument env id r dt revision, ?_, rfl⟩
  exact isHashText_newDocument (wellFormed_of_bodyDocument? hbody) env id r revision

end Misses

/-! ## What adds a document -/

/-- **An id is assigned**: the store accepts a write to the place for new documents, and this is the id
that it draws for it. -/
structure Assigns (env : Setting) (r : Request) (s : Store) (id : String) : Prop where
  target : target? r.path = some .collection
  accepted : acceptedId? env r s = some id

/-- **An id is taken over**: a readable write names it, and the store does not hold it. -/
structure Adopts (r : Request) (s : Store) (id : String) : Prop extends s.Misses r id where
  method : r.method = .post
  readable : IsReadable r

/-- What is taken over has been accepted. -/
theorem Adopts.accepted (h : Adopts r s id) (env : Setting) : acceptedId? env r s = some id := by
  obtain ⟨d, -, hsend⟩ := h.toMisses.adopt h.method h.readable env
  exact acceptedId?_eq_some_iff.2
    ⟨h.faults, h.method, ⟨_, congrArg Prod.fst hsend, rfl⟩, _, h.target, rfl⟩

/-- A write that is accepted leaves its document. -/
theorem contains_of_accepted (h : acceptedId? env r s = some id) :
    (s.send env r).2.contains id = true := by
  have hanswered := answered_send env r s
  generalize s.send env r = answer at hanswered
  cases hanswered with
  | bare _ none => cases none.symm.trans h
  | fetched _ _ _ _ none => cases none.symm.trans h
  | written _ _ _ _ _ documents accepted =>
    obtain rfl := Option.some.inj (accepted.symm.trans h)
    rw [contains, (get?_of_written documents).1]
    rfl

/-- **What an accepted write does to ids**: it is to a document that there was, or an id is assigned or
taken over. -/
theorem contains_or_of_accepted (h : acceptedId? env r s = some id) :
    s.contains id = true ∨ Assigns env r s id ∨ Adopts r s id := by
  obtain ⟨hfaults, -⟩ := acceptedId?_eq_some_iff.1 h
  have hanswered := answered_send env r s
  generalize s.send env r = answer at hanswered
  cases hanswered with
  | bare _ none => cases none.symm.trans h
  | fetched _ _ _ _ none => cases none.symm.trans h
  | @written t _ _ _ method target sent requested _ _ accepted =>
    obtain rfl := Option.some.inj (accepted.symm.trans h)
    cases t with
    | collection => exact .inr (.inl ⟨target, h⟩)
    | document id =>
      rcases hd : s.get? id with - | d
      · refine .inr (.inr ⟨⟨hfaults, target, hd⟩, method, ?_, ?_⟩)
        · rw [sent]; rfl
        · rw [requested]; rfl
      · left
        show (s.get? id).isSome = true
        rw [hd]
        rfl

/-- **What one request adds.** -/
theorem contains_send_iff : (s.send env r).2.contains id = true ↔
    s.contains id = true ∨ Assigns env r s id ∨ Adopts r s id := by
  constructor
  · intro hafter
    by_cases haccepted : acceptedId? env r s = some id
    · exact contains_or_of_accepted haccepted
    · left
      rwa [contains, get?_send_of_ne haccepted] at hafter
  · rintro (hbefore | hassigns | hadopts)
    · exact (obeys env r s).kept id hbefore
    · exact contains_of_accepted hassigns.accepted
    · exact contains_of_accepted (hadopts.accepted env)

/-- **What all that happens adds.** -/
theorem contains_after_of_sends : (s.after es).contains id = true ↔ s.contains id = true ∨
    ∃ env r s₁, s.Sends es env r s₁ ∧ (Assigns env r s₁ id ∨ Adopts r s₁ id) := by
  induction es generalizing s with
  | nil =>
    simp only [after_nil, iff_self_or]
    rintro ⟨env, r, s₁, ⟨earlier, later, hnil, -⟩, -⟩
    simp at hnil
  | cons e es ih =>
    rw [after_cons, ih]
    constructor
    · rintro (hnext | ⟨env, r, s₁, hsends, hadds⟩)
      · cases e with
        | inject f => exact .inl hnext
        | request env r =>
          rcases contains_send_iff.1 hnext with hbefore | hadds
          · exact .inl hbefore
          · exact .inr ⟨env, r, s, sends_head s env r es, hadds⟩
      · exact .inr ⟨env, r, s₁, hsends.cons e, hadds⟩
    · rintro (hbefore | ⟨env, r, s₁, ⟨earlier, later, hes, rfl⟩, hadds⟩)
      · left
        cases e with
        | inject f => exact hbefore
        | request env r => exact contains_send_iff.2 (.inl hbefore)
      · -- The request is the first event or a later one.
        cases earlier with
        | nil =>
          obtain ⟨rfl, rfl⟩ := List.cons.inj hes
          exact .inl (contains_send_iff.2 (.inr hadds))
        | cons e' earlier =>
          obtain ⟨rfl, rfl⟩ := List.cons.inj hes
          exact .inr ⟨env, r, _, ⟨earlier, later, rfl, rfl⟩, hadds⟩

end Store

/-! ## A session whose document does not exist -/

namespace Solo

variable {w : Solo} {id : String}

/-- **A session whose document does not exist**: it is linked to an id that the store does not hold. It
has changes, and no fault is in the way. -/
structure Strayed (w : Solo) (id : String) : Prop where
  linked : w.session.remoteId = some id
  valid : DocumentId.isValid id = true
  wellFormed : w.session.WellFormed
  dirty : w.session.dirty = true
  bound : w.session.revision + 1 < Nat.pow 2 64
  faults : w.store.faults = []
  missing : w.store.get? id = none

/-- Its update is a readable write to an id that the store does not hold. -/
theorem Strayed.adopts (h : w.Strayed id) (o : Sync.Options) :
    Store.Adopts (Sync.updateRequest o w.session.beginSave.2 id (w.session.revision + 1)
      w.session.updateCredential) w.store id := by
  have hbody := Store.bodyDocument?_updateRequest (s := w.session.beginSave.2) h.wellFormed o id
    (w.session.revision + 1) w.session.updateCredential
  have hrevision := Store.requestedRevision?_updateRequest o w.session.beginSave.2 id
    (w.session.revision + 1) w.session.updateCredential
  rw [if_pos h.bound] at hrevision
  refine ⟨⟨h.faults, ?_, h.missing⟩, Sync.method_updateRequest .., ?_, ?_⟩
  · rw [Sync.path_updateRequest, Store.target?_documentPath, if_pos h.valid]
  · rw [hbody]
    rfl
  · rw [hrevision]
    rfl

/-- **It is told that its document has been updated**, and from then on the document is there, under
an id that has not been drawn. -/
theorem update_missing (h : w.Strayed id) (envs : Nat → Store.Setting) (u : User)
    (o : Sync.Options) : ∃ w', w.update envs u o = (.ok (.updated id (w.session.revision + 1)), w') ∧
      w'.store.contains id = true ∧ w'.store.drawn = w.store.drawn := by
  have hadopts := h.adopts o
  obtain ⟨d, hhash, hsend⟩ := hadopts.toMisses.adopt hadopts.method hadopts.readable
    (envs w.store.requests.length)
  have hread : Sync.parseAnswer (Store.updateAnswer id d).body = .ok (id, some d.hash) :=
    Sync.parseAnswer_id_hash h.valid hhash
  rw [update, Sync.update_eq_sendUpdate h.linked h.dirty,
    Sync.run_sendUpdate (s := w.session.beginSave.2) h.linked hsend,
    Sync.applyUpdate_accepted (beq_self_eq_true _) rfl hread]
  refine ⟨_, rfl, ?_, rfl⟩
  show (Store.get? _ id).isSome = true
  rw [Store.get?_put_self]
  rfl

end Solo

namespace Store

/-! ## Where documents come from -/

/-- **Which documents there are**, whatever has been requested and whatever faults there have been:
those from before, those that an id was assigned to, and those whose ids were taken over. An id that
the store does not hold is not found by a fetch, and a write to it that cannot be read is refused; but
a write that can be read is carried out, and a session that updates a document which does not exist is
told that it has been updated. -/
theorem contains_after_iff (s : Store) (es : List Event) :
    (∀ id, (s.after es).contains id = true ↔ s.contains id = true ∨
      ∃ env r s₁, s.Sends es env r s₁ ∧ (Assigns env r s₁ id ∨ Adopts r s₁ id)) ∧
    (∀ env r s₁ id, s.Sends es env r s₁ → s₁.Misses r id →
      (r.method = .get → s₁.send env r = (.ok (statusResponse 404), s₁.noted r)) ∧
      (r.method = .post → ¬IsReadable r →
        s₁.send env r = (.ok (statusResponse 400), s₁.noted r)) ∧
      (r.method = .post → IsReadable r →
        ∃ d, s₁.send env r = (.ok (updateAnswer id d), (s₁.noted r).put id d))) ∧
    ∀ (w : Solo) (id : String), w.store = s.after es → w.Strayed id →
      ∀ envs u o, ∃ w', w.update envs u o = (.ok (.updated id (w.session.revision + 1)), w') ∧
        w'.store.contains id = true := by
  refine ⟨fun id => contains_after_of_sends, ?_, ?_⟩
  · intro env r s₁ id _ hmisses
    refine ⟨fun hget => hmisses.fetch hget env, fun hpost hread => hmisses.refuse hpost hread env, ?_⟩
    intro hpost hread
    obtain ⟨d, -, hsend⟩ := hmisses.adopt hpost hread env
    exact ⟨d, hsend⟩
  · intro w id _ hstrayed envs u o
    obtain ⟨w', hupdate, hcontains, -⟩ := Solo.update_missing hstrayed envs u o
    exact ⟨w', hupdate, hcontains⟩

end Store

namespace Solo

open Sharing (plainDocument stillSetting plainOptions)

/-! ### A session that has strayed -/

/-- A session with changes to a document that an empty store knows nothing of. -/
def stray : Solo where
  session := .linked plainDocument ⟨"doc1", 1, none, false, none⟩ true
  surroundings := { files := {}, store := {} }

/-- Its document does not exist. -/
theorem strayed_stray : stray.Strayed "doc1" where
  linked := rfl
  valid := by decide
  wellFormed := DataTemplate.wellFormed_single "" "" "t"
  dirty := rfl
  bound := by decide
  faults := rfl
  missing := rfl

/-- **An id that the store has not given out.** It has drawn none, and yet it holds the document after
the update, which the session takes for one of a document that exists. -/
theorem exists_adopted : ∃ w, stray.update stillSettings silentUser plainOptions =
      (.ok (.updated "doc1" 2), w) ∧
    stray.store.contains "doc1" = false ∧ w.store.drawn = 0 ∧ w.store.contains "doc1" = true := by
  obtain ⟨w, hupdate, hcontains, hdrawn⟩ :=
    update_missing strayed_stray stillSettings silentUser plainOptions
  exact ⟨w, hupdate, rfl, hdrawn, hcontains⟩

end Solo

end TemplateShare
