import TemplateShare.Proofs.Store.Request
import TemplateShare.Proofs.Store.Text

/-! # What the store answers

Everything that the store can do with a request: hand out a document, write one, or answer nothing
but a status. What it keeps is well-formed, and what it hands out is read as what it keeps.

* **`Store.Answered`**, **`Store.answered_send`** — the cases.
* **`Store.acceptedId?`** — the document that a request changes, if the store accepts it.
* **`Store.Sound`** — documents that are well-formed; no request leaves others.
* **`Store.Document.Holds.parse_text`** — what is handed out is read as what is kept.
* **`Store.parse_statusResponse`** — a status alone is not read as a document. -/

namespace TemplateShare.Store

variable {env : Setting} {r : Request} {s s' : Store} {reply : Reply}

/-! ## Answers -/

/-- The document that a path names, or that comes into being there. -/
def Target.id (env : Setting) (s : Store) : Target → String
  | .document id => id
  | .collection => env.idAt s.drawn

/-- What the store says once it has written a document. -/
def Target.answer (env : Setting) (s : Store) (hash : String) : Target → String
  | .document id => id ++ ":" ++ hash ++ "\r\n"
  | .collection => env.idAt s.drawn ++ "\r\n"

/-- **The document that a request changes**, if the store itself takes the request, and accepts
it. -/
def acceptedId? (env : Setting) (r : Request) (s : Store) : Option String :=
  match s.faults, r.method, (s.send env r).1 with
  | [], .post, .ok x => if x.status = 200 then (target? r.path).map (·.id env s) else none
  | _, _, _ => none

/-- **An accepted write changes some document**: a path that names nothing is not accepted. -/
theorem isSome_acceptedId? {x : Response} (hfaults : s.faults = []) (hmethod : r.method = .post)
    (hanswer : (s.send env r).1 = .ok x) (hstatus : x.status = 200) :
    (acceptedId? env r s).isSome = true := by
  rw [acceptedId?, hfaults, hmethod, hanswer]
  dsimp only
  rw [if_pos hstatus, Option.isSome_map]
  cases htarget : target? r.path with
  | some t => rfl
  | none =>
    rw [send, hfaults] at hanswer
    dsimp only at hanswer
    rw [handle, htarget] at hanswer
    obtain rfl := Except.ok.inj hanswer
    cases hstatus

/-- The store in which a request has been carried out that writes a document. -/
def written (env : Setting) (id : String) (r : Request) (dt : DataTemplate) (revision : Nat)
    (s : Store) : List (String × Document) :=
  let after := passwordsAfter id r (s.get? id)
  Assoc.insert id (Document.write env dt revision after.1 after.2) s.documents

/-- **All that the store can do with a request**, up to its bookkeeping of requests and faults. -/
inductive Answered (env : Setting) (r : Request) (s : Store) : Reply × Store → Prop
  | bare {reply : Reply} {s' : Store} (documents : s'.documents = s.documents)
      (accepted : acceptedId? env r s = none)
      (status : ∀ x, reply = .ok x → x = statusResponse x.status) : Answered env r s (reply, s')
  | fetched {id : String} {d : Document} {s' : Store} (method : r.method = .get)
      (target : target? r.path = some (.document id)) (stored : s.get? id = some d)
      (documents : s'.documents = s.documents) (accepted : acceptedId? env r s = none) :
      Answered env r s (.ok (okResponse d.text), s')
  | written {t : Target} {dt : DataTemplate} {revision : Nat} {s' : Store}
      (method : r.method = .post) (target : target? r.path = some t)
      (sent : bodyDocument? r = some dt) (requested : requestedRevision? r = some revision)
      (later : ∀ d, s.get? (t.id env s) = some d → d.revision < revision)
      (documents : s'.documents = written env (t.id env s) r dt revision s)
      (accepted : acceptedId? env r s = some (t.id env s)) :
      Answered env r s (.ok (okResponse (t.answer env s (RemoteDocument.hashOf dt revision))), s')

/-- A fetch is answered with the document or with a status. -/
theorem fetch_eq (id : String) (r : Request) (s : Store) :
    (∃ d, s.get? id = some d ∧ fetch id r s = okResponse d.text) ∨
      ∃ code, fetch id r s = statusResponse code := by
  unfold fetch
  split
  · exact .inr ⟨_, rfl⟩
  · next d hd =>
    split
    · exact .inl ⟨d, hd, rfl⟩
    · split
      · exact .inr ⟨_, rfl⟩
      · dsimp only
        split
        · exact .inl ⟨d, hd, rfl⟩
        · exact .inr ⟨_, rfl⟩

/-- **A write is carried out or refused.** One that is carried out is to a later revision than the
one that is there. -/
theorem writeAt_eq (env : Setting) (id : String) (r : Request) {dt : DataTemplate}
    (hdt : dt.registry.WellFormed) (revision : Nat) (answer : Document → String) (s : Store) :
    (∃ code, code ≠ 200 ∧ writeAt env id r dt revision answer s = (statusResponse code, s)) ∨
      (∀ d, s.get? id = some d → d.revision < revision) ∧
        ∃ d s', writeAt env id r dt revision answer s = (okResponse (answer d), s') ∧
          d.hash = RemoteDocument.hashOf dt revision ∧
          s'.documents = written env id r dt revision s := by
  unfold writeAt
  dsimp only
  split
  · exact .inl ⟨401, by decide, rfl⟩
  · split
    · exact .inl ⟨409, by decide, rfl⟩
    · next hlater =>
      refine .inr ⟨fun d hd => ?_, _, _, rfl, Document.hash_write hdt env revision _ _, rfl⟩
      rw [hd] at hlater
      simpa using hlater

/-- **Every request that meets no fault** is answered with a status, or with a document, or is a
write that is carried out. -/
theorem handle_eq (env : Setting) (r : Request) (s : Store) :
    (∃ code s', handle env r s = (statusResponse code, s') ∧ s'.documents = s.documents ∧
        (r.method = .post → code ≠ 200)) ∨
      (∃ id d, r.method = .get ∧ target? r.path = some (.document id) ∧ s.get? id = some d ∧
        handle env r s = (okResponse d.text, s)) ∨
      ∃ t dt revision s', r.method = .post ∧ target? r.path = some t ∧
        bodyDocument? r = some dt ∧ requestedRevision? r = some revision ∧
        (∀ d, s.get? (t.id env s) = some d → d.revision < revision) ∧
        handle env r s = (okResponse (t.answer env s (RemoteDocument.hashOf dt revision)), s') ∧
        s'.documents = written env (t.id env s) r dt revision s := by
  -- A place that is none is not found, whatever is asked of it.
  cases htarget : target? r.path with
  | none =>
    have hhandle : handle env r s = (statusResponse 404, s) := by rw [handle, htarget]
    exact .inl ⟨404, s, hhandle, rfl, fun _ => by decide⟩
  | some t =>
    cases hmethod : r.method with
    | get =>
      cases t with
      | collection =>
        have hhandle : handle env r s = (statusResponse 404, s) := by rw [handle, htarget, hmethod]
        exact .inl ⟨404, s, hhandle, rfl, fun h => (nomatch h)⟩
      | document id =>
        have hhandle : handle env r s = (fetch id r s, s) := by rw [handle, htarget, hmethod]
        obtain ⟨d, hd, hfetch⟩ | ⟨code, hfetch⟩ := fetch_eq id r s
        · exact .inr (.inl ⟨id, d, rfl, rfl, hd, hfetch ▸ hhandle⟩)
        · exact .inl ⟨code, s, hfetch ▸ hhandle, rfl, fun h => (nomatch h)⟩
    | post =>
      have hhandle : handle env r s = write env t r s := by
        rw [handle, htarget, hmethod]
        cases t <;> rfl
      rw [hhandle]
      -- Without a document or a revision nothing is written.
      unfold write
      split
      · next dt revision hsent hrequested =>
        have hdt := wellFormed_of_bodyDocument? hsent
        cases t with
        | document id =>
          obtain ⟨code, hcode, hwrite⟩ | ⟨hlater, d, s', hwrite, hhash, hdocuments⟩ :=
            writeAt_eq env id r hdt revision (fun d => id ++ ":" ++ d.hash ++ "\r\n") s
          · exact .inl ⟨code, s, hwrite, rfl, fun _ => hcode⟩
          · rw [hhash] at hwrite
            exact .inr (.inr ⟨.document id, dt, revision, s', rfl, rfl, hsent, hrequested, hlater,
              hwrite, hdocuments⟩)
        | collection =>
          obtain ⟨code, hcode, hwrite⟩ | ⟨hlater, d, s', hwrite, -, hdocuments⟩ :=
            writeAt_eq env (env.idAt s.drawn) r hdt revision (fun _ => env.idAt s.drawn ++ "\r\n")
              { s with drawn := s.drawn + 1 }
          · exact .inl ⟨code, _, hwrite, rfl, fun _ => hcode⟩
          · exact .inr (.inr ⟨.collection, dt, revision, s', rfl, rfl, hsent, hrequested, hlater,
              hwrite, hdocuments⟩)
      · exact .inl ⟨400, s, rfl, rfl, fun _ => by decide⟩

/-- **Every request meets one of the cases.** -/
theorem answered_send (env : Setting) (r : Request) (s : Store) :
    Answered env r s (s.send env r) := by
  -- A fault takes the place of the answer; otherwise the request is handled.
  cases hfaults : s.faults with
  | cons f fs =>
    have hsend : s.send env r =
        (f.reply, { s with requests := s.requests ++ [r], faults := fs }) := by
      rw [send, hfaults]
    rw [hsend]
    refine .bare rfl (by rw [acceptedId?, hfaults]) fun x hx => ?_
    cases f with
    | timeout => cases hx
    | network => cases hx
    | status code => exact Except.ok.inj hx ▸ rfl
  | nil =>
    have hsend : s.send env r =
        (.ok (handle env r { s with requests := s.requests ++ [r] }).1,
          (handle env r { s with requests := s.requests ++ [r] }).2) := by
      rw [send, hfaults]
    obtain ⟨code, s', hhandle, hdocuments, hcode⟩ | ⟨id, d, hget, htarget, hd, hhandle⟩ |
      ⟨t, dt, revision, s', hpost, htarget, hsent, hrequested, hlater, hhandle, hdocuments⟩ :=
        handle_eq env r { s with requests := s.requests ++ [r] }
    · rw [hhandle] at hsend
      have haccepted : acceptedId? env r s = none := by
        rw [acceptedId?, hfaults, hsend]
        cases hmethod : r.method with
        | get => rfl
        | post => exact if_neg (hcode hmethod)
      rw [hsend]
      exact .bare hdocuments haccepted fun x hx => Except.ok.inj hx ▸ rfl
    · rw [hhandle] at hsend
      have haccepted : acceptedId? env r s = none := by rw [acceptedId?, hfaults, hget, hsend]
      rw [hsend]
      exact .fetched hget htarget hd rfl haccepted
    · rw [hhandle] at hsend
      have haccepted : acceptedId? env r s = some (t.id env s) := by
        rw [acceptedId?, hfaults, hpost, hsend, htarget]
        cases t <;> rfl
      have hid : t.id env { s with requests := s.requests ++ [r] } = t.id env s := by cases t <;> rfl
      have hanswer (hash : String) :
          t.answer env { s with requests := s.requests ++ [r] } hash = t.answer env s hash := by
        cases t <;> rfl
      -- What has been noted of the request changes no place and no answer.
      rw [hid] at hlater hdocuments
      rw [hsend, hanswer]
      exact .written hpost htarget hsent hrequested hlater hdocuments haccepted

/-- **A later revision of a document without passwords is accepted.** -/
theorem send_later (env : Setting) {id : String} {d : Document} {dt : DataTemplate} {revision : Nat}
    (hfaults : s.faults = []) (hmethod : r.method = .post)
    (htarget : target? r.path = some (.document id))
    (hd : s.get? id = some d) (hguard : d.guard? = none) (hsent : bodyDocument? r = some dt)
    (hrequested : requestedRevision? r = some revision) (hlater : d.revision < revision) :
    ∃ x, (s.send env r).1 = .ok x ∧ x.status = 200 := by
  have hmay : mayModify id r d = true := by rw [mayModify, hguard]
  -- What is noted of faults and requests changes no document.
  have hget : Store.get? { s with faults := [], requests := s.requests ++ [r] } id = some d := hd
  rw [send, hfaults]
  dsimp only
  rw [handle, htarget, hmethod]
  dsimp only
  rw [write, hsent, hrequested]
  dsimp only
  rw [writeAt, hget, Option.all_some, hmay, Option.any_some, decide_eq_false (Nat.not_le.2 hlater)]
  exact ⟨_, rfl, rfl⟩

/-! ## What the store keeps -/

/-- **A document that is well-formed**: it holds a template. -/
def Document.Sound (d : Document) : Prop := ∃ dt, d.Holds dt

/-- **A store of well-formed documents.** -/
def Sound (s : Store) : Prop := ∀ id d, s.get? id = some d → d.Sound

/-- The hash of a password is a hash. -/
theorem isHashText_passwordHash (id password : String) :
    IsHashText (passwordHash id password) := Sha256.isHashText_hex _

/-- The hash of an optional password is a hash. -/
theorem isHashText_map (id : String) (password : Option String) :
    ∀ h ∈ password.map (passwordHash id), IsHashText h := by
  intro h hmem
  obtain ⟨p, -, rfl⟩ := Option.map_eq_some_iff.1 hmem
  exact isHashText_passwordHash id p

/-- A document is well-formed as it is written. -/
theorem Document.sound_write {dt : DataTemplate} (hdt : dt.registry.WellFormed) (env : Setting)
    (revision : Nat) {openHash modifyHash : Option String}
    (hopen : ∀ h ∈ openHash, IsHashText h)
    (hmodify : ∀ h ∈ modifyHash, IsHashText h) :
    (Document.write env dt revision openHash modifyHash).Sound :=
  ⟨dt, holds_write hdt env revision hopen hmodify⟩

/-- **The passwords of a document are kept as hashes**, those that are set and those from before. -/
theorem isHashText_passwordsAfter {before : Option Document} (hbefore : ∀ d ∈ before, d.Sound)
    (id : String) (r : Request) :
    (∀ h ∈ (passwordsAfter id r before).1, IsHashText h) ∧
      ∀ h ∈ (passwordsAfter id r before).2, IsHashText h := by
  unfold passwordsAfter
  dsimp only
  split
  · exact ⟨isHashText_map id _, isHashText_map id _⟩
  · cases before with
    | none => exact ⟨fun h hmem => (nomatch hmem), fun h hmem => (nomatch hmem)⟩
    | some d =>
      obtain ⟨dt, hd⟩ := hbefore d rfl
      exact ⟨hd.openHash, hd.modifyHash⟩

/-- A store with another well-formed document. -/
theorem Sound.put (hs : s.Sound) {d : Document} (hd : d.Sound) (id : String) :
    (s.put id d).Sound := by
  intro id' d' hget
  by_cases hid : id' = id
  · rw [hid, get?_put_self] at hget
    obtain rfl := Option.some.inj hget
    exact hd
  · rw [get?_put_of_ne hid] at hget
    exact hs id' d' hget

/-- A store with the same documents. -/
theorem get?_congr (h : s'.documents = s.documents) (id : String) : s'.get? id = s.get? id := by
  rw [get?, h, get?]

/-- **What is there under an id after a write.** -/
theorem get?_of_written {id : String} {dt : DataTemplate} {revision : Nat}
    (h : s'.documents = written env id r dt revision s) :
    (s'.get? id = some (Document.write env dt revision (passwordsAfter id r (s.get? id)).1
        (passwordsAfter id r (s.get? id)).2)) ∧ ∀ id' ≠ id, s'.get? id' = s.get? id' := by
  have hput : ∀ id', s'.get? id' = (s.put id (Document.write env dt revision
      (passwordsAfter id r (s.get? id)).1 (passwordsAfter id r (s.get? id)).2)).get? id' :=
    fun id' => by rw [get?, h]; rfl
  exact ⟨by rw [hput, get?_put_self], fun id' hne => by rw [hput, get?_put_of_ne hne]⟩

/-- **No request leaves an ill-formed document.** -/
theorem Sound.answered (hs : s.Sound) (h : Answered env r s (reply, s')) : s'.Sound := by
  cases h with
  | bare documents =>
    intro id d hget
    exact hs id d (by rw [← get?_congr documents]; exact hget)
  | fetched _ _ _ documents =>
    intro id d hget
    exact hs id d (by rw [← get?_congr documents]; exact hget)
  | @written t dt revision _ _ _ sent _ _ documents _ =>
    obtain ⟨hself, hother⟩ := get?_of_written documents
    obtain ⟨hopen, hmodify⟩ := isHashText_passwordsAfter
      (fun d hd => hs (t.id env s) d hd) (t.id env s) r
    intro id d hget
    by_cases hid : id = t.id env s
    · rw [hid, hself] at hget
      obtain rfl := Option.some.inj hget
      exact Document.sound_write (wellFormed_of_bodyDocument? sent) env revision hopen hmodify
    · rw [hother id hid] at hget
      exact hs id d hget

/-! ## Reading answers -/

/-- **What is handed out is read as what is kept**, without the white space at the ends of its
texts. -/
theorem Document.Holds.parse_text {d : Document} {dt : DataTemplate} (hd : d.Holds dt)
    {x : RemoteDocument} (h : RemoteDocument.parse d.text = .ok x) :
    x.template = dt.reloaded ∧ x.hash = d.hash ∧ x.revision = some d.revision ∧
      x.isProtected = d.isProtected := by
  obtain ⟨clock, htext⟩ := hd.text
  rw [htext] at h
  obtain ⟨-, rfl⟩ := (RemoteDocument.parse_print hd.template hd.hash hd.openHash hd.modifyHash x).1 h
  exact ⟨rfl, rfl, rfl, rfl⟩

/-- **What is handed out can be read** if and only if the document can, and its revision has 64
bits. -/
theorem Document.Holds.exists_parse_text {d : Document} {dt : DataTemplate} (hd : d.Holds dt) :
    (∃ x, RemoteDocument.parse d.text = .ok x) ↔
      Portable.IsReadable dt ∧ d.revision < Nat.pow 2 64 := by
  obtain ⟨clock, htext⟩ := hd.text
  rw [htext]
  constructor
  · rintro ⟨x, hx⟩
    exact ((RemoteDocument.parse_print hd.template hd.hash hd.openHash hd.modifyHash x).1 hx).1
  · intro h
    exact ⟨_, (RemoteDocument.parse_print hd.template hd.hash hd.openHash hd.modifyHash _).2 ⟨h, rfl⟩⟩

/-- **A status alone is not read as a document**, not even one that means success. -/
theorem parse_statusResponse : RemoteDocument.parse (statusResponse 200).body =
    .error (.malformed .unreadable) := by
  have hscan : Yaml.Token.scan (statusResponse 200).body.toList =
      .ok [.scalar .plain "200 OK".toList] := rfl
  have hdocument : Yaml.Document.parse (statusResponse 200).body.toList =
      .ok ⟨.scalar none .plain "200 OK".toList, [], 1⟩ := by
    rw [Yaml.Document.parse, hscan]
    rfl
  unfold RemoteDocument.parse
  rw [hdocument]
  rfl

end TemplateShare.Store
