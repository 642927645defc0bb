import TemplateShare.Proofs.Store.Answer
import TemplateShare.Proofs.WorkingCopy

/-! # What replies tell

What a client may conclude from a reply, without knowing what the store keeps: which revision of which
document there is, and which hash it has. No reply of a sound store misleads it, nor does a fault that
takes the place of the store.

* **`Sync.Tells`** — a reply that tells of a revision, as loaded or as written.
* **`Sync.content?`** — the document that such a reply is about.
* **`Sync.Honest`** — a reply whose hashes are hashes, and that accepts only what can be asked for.
* **`Store.Answered.holds`**, **`Store.Answered.honest`** — what a store replies is so.
* **`Store.Answered.revision_le`** — no request lowers a revision. -/

namespace TemplateShare

/-- Visible characters are no white space. -/
theorem Yaml.Scalar.IsVisible.not_space {x : Char} (h : IsVisible x) : Text.isSpace x = false := by
  obtain ⟨hlow, hhigh, -⟩ := h
  simp [Text.isSpace]
  omega

namespace Sync

/-! ## Answers to writes -/

/-- An id has no colon. -/
theorem ne_colon_of_isValid {id : String} (h : DocumentId.isValid id = true) :
    ∀ x ∈ id.toList, (x != ':') = true := by
  intro x hx
  simp only [DocumentId.isValid, Bool.and_eq_true, List.all_eq_true] at h
  have hchar := h.2 x hx
  rw [bne_iff_ne]
  rintro rfl
  exact absurd hchar (by decide)

/-- **The answer to a creation is read**: the id. -/
theorem parseAnswer_id {id : String} (h : DocumentId.isValid id = true) :
    parseAnswer (id ++ "\r\n") = .ok (id, none) := by
  have htrim : Text.trim (id ++ "\r\n") = id :=
    Text.trim_append (fun x hx => ((DocumentId.isVisible h).2 x hx).not_space) (by decide)
  have hcolon := ne_colon_of_isValid h
  have htake : id.toList.takeWhile (· != ':') = id.toList := by
    rw [← List.append_nil id.toList, List.takeWhile_append_of_pos hcolon, List.takeWhile_nil]
  have hdrop : id.toList.dropWhile (· != ':') = [] := by
    rw [← List.append_nil id.toList, List.dropWhile_append_of_pos hcolon, List.dropWhile_nil]
  rw [parseAnswer, htrim]
  rw [htake, hdrop, String.ofList_toList, if_pos h]
  rfl

/-- **The answer to an update is read**: the id and the hash. -/
theorem parseAnswer_id_hash {id hash : String} (h : DocumentId.isValid id = true)
    (hhash : IsHashText hash) : parseAnswer (id ++ ":" ++ hash ++ "\r\n") = .ok (id, some hash) := by
  have hspace : ∀ x ∈ (id ++ ":" ++ hash).toList, Text.isSpace x = false := by
    intro x hx
    simp only [String.toList_append, List.mem_append] at hx
    rcases hx with (hx | hx) | hx
    · exact ((DocumentId.isVisible h).2 x hx).not_space
    · obtain rfl := List.mem_singleton.1 hx
      decide
    · exact (hhash.isVisible x hx).not_space
  -- No character of id and hash is white space, so only the line end is trimmed.
  have htrim : Text.trim (id ++ ":" ++ hash ++ "\r\n") = id ++ ":" ++ hash :=
    Text.trim_append hspace (by decide)
  have hcolon := ne_colon_of_isValid h
  have hchars : (id ++ ":" ++ hash).toList = id.toList ++ ':' :: hash.toList := by simp
  -- Ids have no colons, so the first colon is the one between them.
  have htake : (id ++ ":" ++ hash).toList.takeWhile (· != ':') = id.toList := by
    rw [hchars, List.takeWhile_append_of_pos hcolon]
    simp
  have hdrop : (id ++ ":" ++ hash).toList.dropWhile (· != ':') = ':' :: hash.toList := by
    rw [hchars, List.dropWhile_append_of_pos hcolon]
    simp
  have hne : hash.toList.isEmpty = false := List.isEmpty_eq_false_iff.2 hhash.1
  rw [parseAnswer, htrim]
  rw [htake, hdrop, String.ofList_toList, if_pos h, List.drop_succ_cons, List.drop_zero, hne,
    String.ofList_toList]
  rfl

/-- A status alone is no answer to a write. -/
theorem parseAnswer_statusResponse :
    ∃ e, parseAnswer (Store.statusResponse 200).body = .error e := by
  have htrim : Text.trim (Store.statusResponse 200).body = "200 OK" := by decide
  rw [parseAnswer, htrim]
  exact ⟨_, if_neg (by decide)⟩

/-! ## Revisions and hashes in replies -/

/-- **A reply that tells of a revision** of a document: one that has been loaded, or one that has been
written, as a new document or as a new revision. -/
inductive Tells (r : Request) : Reply → String → Nat → Prop
  | loaded {x : Response} {id : String} {d : RemoteDocument} (method : r.method = .get)
      (path : r.path = documentPath (some id)) (status : x.status = 200)
      (read : RemoteDocument.parse x.body = .ok d) : Tells r (.ok x) id (d.revision.getD 1)
  | created {x : Response} {id : String} {hash : Option String} {n : Nat} (method : r.method = .post)
      (path : r.path = documentPath none) (status : x.status = 200)
      (read : parseAnswer x.body = .ok (id, hash)) (requested : Store.requestedRevision? r = some n) :
      Tells r (.ok x) id n
  | updated {x : Response} {id : String} {answer : String × Option String} {n : Nat}
      (method : r.method = .post) (path : r.path = documentPath (some id)) (status : x.status = 200)
      (read : parseAnswer x.body = .ok answer) (requested : Store.requestedRevision? r = some n) :
      Tells r (.ok x) id n

/-- **The document that a reply is about**: the one that it brings, or the one that it accepts. -/
def content? (r : Request) : Reply → Option DataTemplate
  | .error _ => none
  | .ok x =>
    match r.method with
    | .get => (RemoteDocument.parse x.body).toOption.map (·.template)
    | .post => Store.bodyDocument? r

/-- A document that has been brought. -/
theorem content?_get {r : Request} {x : Response} {d : RemoteDocument} (method : r.method = .get)
    (read : RemoteDocument.parse x.body = .ok d) : content? r (.ok x) = some d.template := by
  simp only [content?, method, read]
  rfl

/-- A document that has been accepted. -/
theorem content?_post {r : Request} {x : Response} {dt : DataTemplate} (method : r.method = .post)
    (sent : Store.bodyDocument? r = some dt) : content? r (.ok x) = some dt := by
  simp only [content?, method, sent]

/-- **A reply that can be relied on**: hashes in it are hashes, and it accepts a write only to a
revision that can be asked for. -/
structure Honest (r : Request) (reply : Reply) : Prop where
  document : ∀ x d, reply = .ok x → x.status = 200 → r.method = .get →
    RemoteDocument.parse x.body = .ok d → IsHashText d.hash ∧ d.revision.getD 1 < Nat.pow 2 64
  answer : ∀ x id hash, reply = .ok x → x.status = 200 → r.method = .post →
    parseAnswer x.body = .ok (id, hash) →
      (∀ h ∈ hash, IsHashText h) ∧ (Store.requestedRevision? r).isSome = true

end Sync

namespace Store.Answered

variable {env : Setting} {r : Request} {s s' : Store} {reply : Reply}

/-- **No request lowers a revision** or takes a document away. -/
theorem revision_le (h : Answered env r s (reply, s')) {id : String} {d : Document}
    (hd : s.get? id = some d) : ∃ d', s'.get? id = some d' ∧ d.revision ≤ d'.revision := by
  cases h with
  | bare documents => exact ⟨d, by rw [get?_congr documents, hd], Nat.le_refl _⟩
  | fetched _ _ _ documents => exact ⟨d, by rw [get?_congr documents, hd], Nat.le_refl _⟩
  | @written t dt revision _ _ _ _ _ later documents _ =>
    obtain ⟨hself, hother⟩ := get?_of_written documents
    by_cases hid : id = t.id env s
    · subst hid
      exact ⟨_, hself, Nat.le_of_lt (later d hd)⟩
    · exact ⟨d, by rw [hother id hid, hd], Nat.le_refl _⟩

/-- What a path of a document names. -/
theorem target_of_path {path id : String} {t : Target} (h : target? path = some t)
    (hpath : path = documentPath (some id)) : t = .document id := by
  rw [hpath, target?_documentPath] at h
  split at h
  · exact (Option.some.inj h).symm
  · cases h

/-- A status alone is neither a document nor an answer to a write. -/
theorem unread_of_status {x : Response} (h : x = statusResponse x.status) (success : x.status = 200) :
    (∀ d, RemoteDocument.parse x.body ≠ .ok d) ∧ ∀ answer, Sync.parseAnswer x.body ≠ .ok answer := by
  have hx : x = statusResponse 200 := by rw [h, success]
  subst hx
  obtain ⟨e, hanswer⟩ := Sync.parseAnswer_statusResponse
  constructor
  · intro d read
    rw [parse_statusResponse] at read
    cases read
  · intro answer read
    rw [hanswer] at read
    cases read

/-- **A write whose answer is read has been carried out**, and is answered as such. -/
theorem written_of_read {x : Response} (h : Answered env r s (.ok x, s')) (hmethod : r.method = .post)
    (success : x.status = 200) {answer : String × Option String}
    (read : Sync.parseAnswer x.body = .ok answer) :
    ∃ t dt revision, target? r.path = some t ∧ bodyDocument? r = some dt ∧
      requestedRevision? r = some revision ∧
      s'.documents = Store.written env (t.id env s) r dt revision s ∧
      acceptedId? env r s = some (t.id env s) ∧
      x = okResponse (t.answer env s (RemoteDocument.hashOf dt revision)) := by
  cases h with
  | bare _ _ status => exact absurd read ((unread_of_status (status x rfl) success).2 answer)
  | fetched method => cases method.symm.trans hmethod
  | written _ target sent requested _ documents accepted =>
    exact ⟨_, _, _, target, sent, requested, documents, accepted, rfl⟩

/-- **What a reply tells of is in the store**, at that revision, and its document is the one that the
reply is about, as it is kept or as it is read. -/
theorem holds (h : Answered env r s (reply, s')) (hs : s.Sound)
    (henv : ∀ n, DocumentId.isValid (env.idAt n) = true) {id : String} {n : Nat}
    (htells : Sync.Tells r reply id n) : ∃ d kept, s'.get? id = some d ∧ d.revision = n ∧
      d.Holds kept ∧ ∃ dt, Sync.content? r reply = some dt ∧ (dt = kept ∨ dt = kept.reloaded) := by
  cases h with
  | bare _ _ status =>
    cases htells with
    | loaded _ _ success read => exact absurd read ((unread_of_status (status _ rfl) success).1 _)
    | created _ _ success read => exact absurd read ((unread_of_status (status _ rfl) success).2 _)
    | updated _ _ success read => exact absurd read ((unread_of_status (status _ rfl) success).2 _)
  | @fetched id' d _ method target stored documents _ =>
    cases htells with
    | @loaded _ _ x _ path _ read =>
      obtain rfl := Target.document.inj (target_of_path target path)
      obtain ⟨kept, hd⟩ := hs _ d stored
      obtain ⟨htemplate, -, hrevision, -⟩ := hd.parse_text read
      rw [hrevision]
      exact ⟨d, kept, by rw [get?_congr documents, stored], rfl, hd, _,
        Sync.content?_get method read, .inr htemplate⟩
    | created hpost => cases method.symm.trans hpost
    | updated hpost => cases method.symm.trans hpost
  | @written t dt revision _ method target sent hrequested _ documents _ =>
    have hself := (get?_of_written documents).1
    obtain ⟨hopen, hmodify⟩ := isHashText_passwordsAfter
      (fun d hd => hs (t.id env s) d hd) (t.id env s) r
    have hholds := Document.holds_write (wellFormed_of_bodyDocument? sent) env revision hopen hmodify
    cases htells with
    | loaded hget => cases method.symm.trans hget
    | created _ path _ read requested =>
      rw [path, target?_documentPath_none] at target
      obtain rfl := Option.some.inj target
      obtain rfl := Option.some.inj (hrequested.symm.trans requested)
      have hid := read.symm.trans (Sync.parseAnswer_id (henv s.drawn))
      obtain ⟨rfl, -⟩ := Prod.mk.inj (Except.ok.inj hid)
      exact ⟨_, dt, hself, rfl, hholds, dt, Sync.content?_post method sent, .inl rfl⟩
    | updated _ path _ _ requested =>
      obtain rfl := target_of_path target path
      obtain rfl := Option.some.inj (hrequested.symm.trans requested)
      exact ⟨_, dt, hself, rfl, hholds, dt, Sync.content?_post method sent, .inl rfl⟩

/-- What a reply tells of is in the store, or a later revision of it. -/
theorem tells (h : Answered env r s (reply, s')) (hs : s.Sound)
    (henv : ∀ n, DocumentId.isValid (env.idAt n) = true) {id : String} {n : Nat}
    (htells : Sync.Tells r reply id n) : ∃ d, s'.get? id = some d ∧ n ≤ d.revision := by
  obtain ⟨d, -, hd, hrevision, -⟩ := h.holds hs henv htells
  exact ⟨d, hd, Nat.le_of_eq hrevision.symm⟩

/-- **What a store replies can be relied on.** -/
theorem honest (h : Answered env r s (reply, s')) (hs : s.Sound)
    (henv : ∀ n, DocumentId.isValid (env.idAt n) = true) : Sync.Honest r reply := by
  cases h with
  | bare _ _ status =>
    constructor
    · intro x d hx success _ read
      exact absurd read ((unread_of_status (status x hx) success).1 d)
    · intro x id hash hx success _ read
      exact absurd read ((unread_of_status (status x hx) success).2 (id, hash))
  | @fetched id d _ method target stored _ _ =>
    constructor
    · intro y x hy _ _ read
      obtain rfl := Except.ok.inj hy
      obtain ⟨kept, hd⟩ := hs _ d stored
      obtain ⟨-, hhash, hrevision, -⟩ := hd.parse_text read
      rw [hhash, hrevision]
      exact ⟨hd.hash, (hd.exists_parse_text.1 ⟨x, read⟩).2⟩
    · intro _ _ _ _ _ hpost
      cases method.symm.trans hpost
  | @written t dt revision _ method target _ requested _ _ _ =>
    constructor
    · intro _ _ _ _ hget
      cases method.symm.trans hget
    · intro y id hash hy _ _ read
      obtain rfl := Except.ok.inj hy
      refine ⟨?_, by rw [requested]; rfl⟩
      -- The answer to an update names the hash of the document as it is written.
      have hhash : IsHashText (RemoteDocument.hashOf dt revision) := Sha256.isHashText_hex _
      cases t with
      | collection =>
        have hid := read.symm.trans (Sync.parseAnswer_id (henv s.drawn))
        obtain ⟨-, rfl⟩ := Prod.mk.inj (Except.ok.inj hid)
        exact fun h hmem => (nomatch hmem)
      | document id' =>
        have hvalid := (target?_eq_document target).2
        have hid := read.symm.trans (Sync.parseAnswer_id_hash hvalid hhash)
        obtain ⟨-, rfl⟩ := Prod.mk.inj (Except.ok.inj hid)
        intro h hmem
        obtain rfl := Option.some.inj hmem
        exact hhash

end Store.Answered

end TemplateShare
