import TemplateShare.Proofs.Store.Guarded
import TemplateShare.Proofs.Store.Rules

/-! # Locked documents

A document with a password for opening is locked to whoever has none of its passwords: the store
decides on the password before it looks at anything else of the document. Two stores that differ only
in a locked document are therefore the same to such a client, however long the client asks, and
whatever; the document, its revision and its hash are never shown, not even by how a write is refused.

* **`Store.Reaches`**, **`Protection.Withheld`** — requests that come to a document without its
  passwords.
* **`Store.DifferAt`** — two stores that differ only in one document.
* **`Store.DifferAt.send`** — one request to both.
* **`Store.DifferAt.after`** — all that happens to both.
* **`Store.DifferAt.replies_eq`** — both give the same replies and keep the document. -/

namespace TemplateShare

/-- **A request withholds passwords**: the password that it presents, if any, is none of them, and is
told apart from them. -/
def Protection.Withheld (p : Protection) (id : String) (r : Request) : Prop :=
  ∀ q, r.header? Header.password = some q → q ∉ p.passwords ∧ p.TellsApart id q

namespace Store

variable {env : Setting} {r : Request} {s s' : Store} {id : String} {d d' : Document}
  {p : Protection} {es : List Event}

/-- **A request comes to a document**: its path names the document, or it is to write a new one for
which the store draws the id of the document. -/
def Reaches (env : Setting) (r : Request) (s : Store) (id : String) : Prop :=
  target? r.path = some (.document id) ∨
    r.method = .post ∧ target? r.path = some .collection ∧ env.idAt s.drawn = id

/-! ## What a lock lets pass -/

/-- **A document is locked** to whoever has none of its passwords, of which one is for opening. -/
structure Document.IsLockedBy (id : String) (p : Protection) (d : Document) : Prop
    extends d.IsGuardedBy id p where
  hasOpen : p.openPassword.isSome = true

namespace Document.IsLockedBy

variable (h : d.IsLockedBy id p) (hr : p.Withheld id r)

include h hr

/-- **It does not open** without its passwords. -/
theorem not_opens : d.opens id (r.header? Header.password) = false := by
  obtain ⟨o, ho⟩ := Option.isSome_iff_exists.1 h.hasOpen
  cases hpassword : r.header? Header.password with
  | none => rw [opens, h.openHash, ho]; rfl
  | some q =>
    obtain ⟨hother, hapart⟩ := hr q hpassword
    rw [Bool.eq_false_iff, Ne, h.toIsGuardedBy.opens_iff hapart]
    rintro (hnone | hopen | hmodify)
    · rw [hnone] at ho
      cases ho
    · apply hother
      simp [Protection.passwords, hopen]
    · apply hother
      simp [Protection.passwords, hmodify]

/-- **It does not let itself be changed** without its passwords. -/
theorem not_admits : d.admits id (r.header? Header.password) = false := by
  rw [Bool.eq_false_iff]
  intro hadmits
  have hopens := opens_of_admits hadmits
  rw [h.not_opens hr] at hopens
  cases hopens

end Document.IsLockedBy

/-! ## Refusals -/

/-- **A write is refused for its password** before its revision counts. -/
theorem writeAt_refused (hd : s.get? id = some d)
    (hadmits : d.admits id (r.header? Header.password) = false) (env : Setting) (dt : DataTemplate)
    (revision : Nat) (answer : Document → String) :
    writeAt env id r dt revision answer s = (statusResponse 401, s) := by
  rw [writeAt, hd, Option.all_some, mayModify_eq, hadmits]
  rfl

/-- **Every readable write is refused alike** where the password is missing, be its revision stale or
fresh. -/
theorem write_refused {t : Target} (hd : s.get? (t.id env s) = some d)
    (hadmits : d.admits (t.id env s) (r.header? Header.password) = false)
    (hbody : (bodyDocument? r).isSome = true) (hrevision : (requestedRevision? r).isSome = true) :
    (write env t r s).1 = statusResponse 401 := by
  obtain ⟨dt, hdt⟩ := Option.isSome_iff_exists.1 hbody
  obtain ⟨revision, hn⟩ := Option.isSome_iff_exists.1 hrevision
  rw [write, hdt, hn]
  cases t with
  | document x => exact congrArg Prod.fst (writeAt_refused hd hadmits env dt revision _)
  | collection =>
    exact congrArg Prod.fst
      (writeAt_refused (s := { s with drawn := s.drawn + 1 }) hd hadmits env dt revision _)

/-! ## Two stores -/

/-- **Two stores that differ only in one document.** They also agree in the ids drawn and in the faults
to come; the requests that they have taken so far do not matter. -/
structure DifferAt (id : String) (d d' : Document) (s s' : Store) : Prop where
  left : s.get? id = some d
  right : s'.get? id = some d'
  others : ∀ x, x ≠ id → s'.get? x = s.get? x
  drawn : s'.drawn = s.drawn
  faults : s'.faults = s.faults

/-- The same answer, after which the stores still differ only in the document. -/
abbrev AnswerAlike (id : String) (d d' : Document) (x x' : Response × Store) : Prop :=
  x'.1 = x.1 ∧ DifferAt id d d' x.2 x'.2

namespace DifferAt

variable (h : DifferAt id d d' s s')

include h

/-- A document is put into both under another id. -/
theorem put {x : String} (hx : x ≠ id) (d₁ : Document) :
    DifferAt id d d' (s.put x d₁) (s'.put x d₁) where
  left := (get?_put_of_ne hx.symm s d₁).trans h.left
  right := (get?_put_of_ne hx.symm s' d₁).trans h.right
  others y hy := by
    by_cases hsame : y = x
    · rw [hsame, get?_put_self, get?_put_self]
    · rw [get?_put_of_ne hsame, get?_put_of_ne hsame, h.others y hy]
  drawn := h.drawn
  faults := h.faults

/-- **A write** under any id. Under that of the document it is refused for its password before its
revision counts. -/
theorem writeAt {x : String}
    (hlocked : x = id → d.admits id (r.header? Header.password) = false ∧
      d'.admits id (r.header? Header.password) = false)
    (dt : DataTemplate) (revision : Nat) (answer : Document → String) :
    AnswerAlike id d d' (writeAt env x r dt revision answer s)
      (writeAt env x r dt revision answer s') := by
  by_cases hx : x = id
  · obtain ⟨hleft, hright⟩ := hlocked hx
    subst hx
    rw [writeAt_refused h.left hleft, writeAt_refused h.right hright]
    exact ⟨rfl, h⟩
  · unfold Store.writeAt
    rw [h.others x hx]
    dsimp only
    split
    · exact ⟨rfl, h⟩
    · split
      · exact ⟨rfl, h⟩
      · exact ⟨rfl, h.put hx _⟩

/-- **A write** to any place. -/
theorem write {t : Target}
    (hlocked : t.id env s = id → d.admits id (r.header? Header.password) = false ∧
      d'.admits id (r.header? Header.password) = false) :
    AnswerAlike id d d' (write env t r s) (write env t r s') := by
  unfold Store.write
  split
  · next dt revision _ _ =>
    cases t with
    | document x => exact h.writeAt hlocked dt revision _
    | collection =>
      -- The same id is drawn in both.
      have hdrawn : DifferAt id d d' { s with drawn := s.drawn + 1 }
          { s' with drawn := s.drawn + 1 } := ⟨h.left, h.right, h.others, rfl, h.faults⟩
      dsimp only
      rw [h.drawn]
      exact hdrawn.writeAt hlocked dt revision _
  · exact ⟨rfl, h⟩

/-- **A fetch** of any document. -/
theorem fetch {x : String}
    (hlocked : x = id → d.opens id (r.header? Header.password) = false ∧
      d'.opens id (r.header? Header.password) = false) :
    fetch x r s' = fetch x r s := by
  by_cases hx : x = id
  · obtain ⟨hleft, hright⟩ := hlocked hx
    subst hx
    rw [fetch_eq_opens h.left, fetch_eq_opens h.right, hleft, hright, if_neg Bool.false_ne_true,
      if_neg Bool.false_ne_true]
  · rw [Store.fetch, Store.fetch, h.others x hx]

/-- **A request that is handled.** -/
theorem handle (hd : d.IsLockedBy id p) (hd' : d'.IsLockedBy id p)
    (hr : Reaches env r s id → p.Withheld id r) :
    AnswerAlike id d d' (handle env r s) (handle env r s') := by
  unfold Store.handle
  split
  · exact ⟨rfl, h⟩
  · next x htarget _ =>
    refine ⟨h.fetch fun hx => ?_, h⟩
    have hwithheld := hr (.inl (hx ▸ htarget))
    exact ⟨hd.not_opens hwithheld, hd'.not_opens hwithheld⟩
  · exact ⟨rfl, h⟩
  · next t htarget hmethod =>
    refine h.write fun hid => ?_
    have hreaches : Reaches env r s id := by
      cases t with
      | document x => exact .inl (hid ▸ htarget)
      | collection => exact .inr ⟨hmethod, htarget, hid⟩
    exact ⟨hd.not_admits (hr hreaches), hd'.not_admits (hr hreaches)⟩

/-- **A request that is sent** gets the same reply from both, and leaves the document as it is. -/
theorem send (hd : d.IsLockedBy id p) (hd' : d'.IsLockedBy id p)
    (hr : Reaches env r s id → p.Withheld id r) :
    (s'.send env r).1 = (s.send env r).1 ∧
      DifferAt id d d' (s.send env r).2 (s'.send env r).2 := by
  cases hfaults : s.faults with
  | cons f fs =>
    have hfaults' : s'.faults = f :: fs := h.faults.trans hfaults
    rw [Store.send, Store.send, hfaults, hfaults']
    exact ⟨rfl, h.left, h.right, h.others, h.drawn, rfl⟩
  | nil =>
    have hnoted : DifferAt id d d' (s.noted r) (s'.noted r) :=
      ⟨h.left, h.right, h.others, h.drawn, h.faults⟩
    obtain ⟨hanswer, hstores⟩ := hnoted.handle hd hd' hr
    rw [send_of_faults hfaults, send_of_faults (h.faults.trans hfaults), hanswer]
    exact ⟨rfl, hstores⟩

end DifferAt

/-! ## All that happens -/

/-- **The replies** to the requests among events, in order. -/
def replies : Store → List Event → List Reply
  | _, [] => []
  | s, .request env r :: es => (s.send env r).1 :: replies (s.send env r).2 es
  | s, .inject f :: es => replies (s.inject f) es

/-- **Whoever has none of the passwords**: every request among events that comes to a document
withholds its passwords. -/
def Withholds (s : Store) (id : String) (p : Protection) (es : List Event) : Prop :=
  ∀ env r s₁, s.Sends es env r s₁ → Reaches env r s₁ id → p.Withheld id r

/-- It is enough that all requests withhold the passwords. -/
theorem withholds_of_forall (h : ∀ env r, .request env r ∈ es → p.Withheld id r) :
    s.Withholds id p es := by
  rintro env r s₁ ⟨earlier, later, rfl, -⟩ -
  exact h env r (by simp)

/-- What holds of all events holds of the later ones. -/
theorem Withholds.tail {e : Event} (h : s.Withholds id p (e :: es)) :
    (s.next e).Withholds id p es :=
  fun env r s₁ hsends => h env r s₁ (hsends.cons e)

/-- **Without the passwords two stores with different documents give the same replies**, and keep the
documents. -/
theorem DifferAt.after (h : DifferAt id d d' s s') (hd : d.IsLockedBy id p)
    (hd' : d'.IsLockedBy id p) (hes : s.Withholds id p es) :
    s'.replies es = s.replies es ∧ DifferAt id d d' (s.after es) (s'.after es) := by
  induction es generalizing s s' with
  | nil => exact ⟨rfl, h⟩
  | cons e es ih =>
    cases e with
    | inject f =>
      have hinject : DifferAt id d d' (s.inject f) (s'.inject f) :=
        ⟨h.left, h.right, h.others, h.drawn, congrArg (· ++ [f]) h.faults⟩
      exact ih hinject hes.tail
    | request env r =>
      obtain ⟨hreply, hstores⟩ := h.send hd hd' (hes env r s (sends_head s env r es))
      obtain ⟨hreplies, hafter⟩ := ih hstores hes.tail
      refine ⟨?_, hafter⟩
      rw [replies, replies, hreply, hreplies]

/-- A readable write that comes to a locked document is refused. -/
theorem send_of_locked (hd : s.get? id = some d) (hlocked : d.IsLockedBy id p)
    (hr : p.Withheld id r) (hreaches : Reaches env r s id) (hfaults : s.faults = [])
    (hmethod : r.method = .post) (hbody : (bodyDocument? r).isSome = true)
    (hrevision : (requestedRevision? r).isSome = true) :
    (s.send env r).1 = .ok (statusResponse 401) := by
  have hadmits := hlocked.not_admits hr
  rw [send_of_faults hfaults, Store.handle]
  rcases hreaches with htarget | ⟨-, htarget, rfl⟩
  · rw [htarget, hmethod]
    exact congrArg Except.ok (write_refused (t := .document id) hd hadmits hbody hrevision)
  · rw [htarget, hmethod]
    exact congrArg Except.ok (write_refused (s := s.noted r) hd hadmits hbody hrevision)

/-- **A locked document leaks nothing.** Two stores differ only in a document, which has the same
passwords in both, one of them for opening. To whoever has none of them, both stores give the same
replies, whatever is requested, and neither document changes; every readable write that comes to the
document is refused with the same answer, be its revision stale or fresh. -/
theorem DifferAt.replies_eq (h : DifferAt id d d' s s') (hd : d.IsLockedBy id p)
    (hd' : d'.IsLockedBy id p) (hes : s.Withholds id p es) :
    s'.replies es = s.replies es ∧ (s.after es).get? id = some d ∧ (s'.after es).get? id = some d' ∧
      ∀ env r s₁, s.Sends es env r s₁ → Reaches env r s₁ id → s₁.faults = [] →
        r.method = .post → (bodyDocument? r).isSome = true →
        (requestedRevision? r).isSome = true → (s₁.send env r).1 = .ok (statusResponse 401) := by
  obtain ⟨hreplies, hafter⟩ := h.after hd hd' hes
  refine ⟨hreplies, hafter.left, hafter.right, ?_⟩
  intro env r s₁ hsends hreaches hfaults hmethod hbody hrevision
  -- The store has the document still when the write is sent.
  have hwithheld := hes env r s₁ hsends hreaches
  obtain ⟨earlier, later, rfl, rfl⟩ := hsends
  have hearlier : s.Withholds id p earlier := by
    rintro env' r' s₂ ⟨first, rest, rfl, rfl⟩
    exact hes env' r' _ ⟨first, rest ++ .request env r :: later, by simp, rfl⟩
  obtain ⟨-, hbefore⟩ := h.after hd hd' hearlier
  exact send_of_locked hbefore.left hd hwithheld hreaches hfaults hmethod hbody hrevision

/-! ### A client that guesses -/

/-- A password for opening and another one for modifying. -/
def sealedBy : Protection := ⟨some "secret", some "alter", .inl rfl⟩

/-- A document that is sealed. -/
def sealedDocument (template : String) (revision : Nat) : Document :=
  .write ⟨fun _ => "", revision⟩ (.single "" "" template) revision
    (some (passwordHash "doc1" "secret")) (some (passwordHash "doc1" "alter"))

/-- A store with nothing but a sealed document. -/
def sealedStore (template : String) (revision : Nat) : Store :=
  ({} : Store).put "doc1" (sealedDocument template revision)

/-- Fetches without a password and with a guess, and a write to a revision. -/
def guesses (env : Setting) : List Event := [
  .request env ⟨.get, "/document/doc1", [], [], []⟩,
  .request env ⟨.get, "/document/doc1", [], [("x-dt-password", "guess")], []⟩,
  .request env ⟨.post, "/document/doc1", [], [("X-Dt-Revision", "3")], Utf8.encode "\x7b\x7d"⟩]

/-- A guess is not a password. -/
theorem withheld_guess {r : Request} (h : r.header? Header.password = some "guess") :
    sealedBy.Withheld "doc1" r := by
  have hsecret : passwordHash "doc1" "guess" ≠ passwordHash "doc1" "secret" := by decide +kernel
  have hchange : passwordHash "doc1" "guess" ≠ passwordHash "doc1" "alter" := by decide +kernel
  intro q hq
  obtain rfl : "guess" = q := Option.some.inj (h.symm.trans hq)
  refine ⟨by decide, ?_⟩
  intro v hv hhash
  obtain rfl | rfl : v = "secret" ∨ v = "alter" := by
    simpa [Protection.passwords, sealedBy] using hv
  · exact absurd hhash hsecret
  · exact absurd hhash hchange

/-- A guessing client does not learn which document it is, nor whether its revision is the later
one. -/
theorem replies_eq_guesses :
    DifferAt "doc1" (sealedDocument "ours" 1) (sealedDocument "theirs" 5) (sealedStore "ours" 1)
      (sealedStore "theirs" 5) ∧
    (sealedStore "ours" 1).Withholds "doc1" sealedBy (guesses ⟨fun _ => "doc2", 0⟩) ∧
    (sealedStore "theirs" 5).replies (guesses ⟨fun _ => "doc2", 0⟩) =
      (sealedStore "ours" 1).replies (guesses ⟨fun _ => "doc2", 0⟩) := by
  have hdiffer : DifferAt "doc1" (sealedDocument "ours" 1) (sealedDocument "theirs" 5)
      (sealedStore "ours" 1) (sealedStore "theirs" 5) := by
    refine ⟨get?_put_self _ _ _, get?_put_self _ _ _, ?_, rfl, rfl⟩
    intro x hx
    rw [sealedStore, sealedStore, get?_put_of_ne hx, get?_put_of_ne hx]
  have hwithholds : (sealedStore "ours" 1).Withholds "doc1" sealedBy
      (guesses ⟨fun _ => "doc2", 0⟩) := by
    refine withholds_of_forall fun env r hr => ?_
    simp only [guesses, List.mem_cons, Event.request.injEq, List.not_mem_nil, or_false] at hr
    rcases hr with ⟨-, rfl⟩ | ⟨-, rfl⟩ | ⟨-, rfl⟩
    · rintro q ⟨⟩
    · exact withheld_guess rfl
    · rintro q ⟨⟩
  exact ⟨hdiffer, hwithholds,
    (hdiffer.replies_eq ⟨⟨rfl, rfl⟩, rfl⟩ ⟨⟨rfl, rfl⟩, rfl⟩ hwithholds).1⟩

end Store

end TemplateShare
