import TemplateShare.Proofs.Store.Gate

/-! # Passwords under other names

Two stores that hold the same documents under passwords which are called differently. As long as the
hashes that a store keeps tell passwords apart, both take a request and its renamed copy alike: a write
gets the same answer, a fetch a document that is read as the same, and afterwards the stores still
differ only in what the passwords are called.

* **`Renaming`** — the passwords in play, and what else each is to be called.
* **`Renaming.request`** — a request with its passwords renamed; all but these is read from it as
  before.
* **`Renaming.Documents`**, **`Renaming.Stores`** — documents and stores that differ only by a
  renaming.
* **`Store.RepliesAlike`** — replies that tell the same.
* **`Renaming.Stores.send`** — both stores take a request alike. -/

namespace TemplateShare

/-- **A renaming of passwords**: those that are in play, and what each is to be called instead. No two
become one, and none becomes blank. -/
structure Renaming where
  InPlay : String → Prop
  name : String → String
  injective : ∀ p q, InPlay p → InPlay q → name p = name q → p = q
  notBlank : ∀ p, InPlay p → Text.isBlank p = false → Text.isBlank (name p) = false

/-- **Replies that tell the same**: the same reply, or two documents that are read alike. -/
def Store.RepliesAlike (r : Request) (x x' : Reply) : Prop :=
  x' = x ∨ r.method = .get ∧ ∃ b b', x = .ok (Store.okResponse b) ∧
    x' = .ok (Store.okResponse b') ∧
      ∀ d, RemoteDocument.parse b' = .ok d ↔ RemoteDocument.parse b = .ok d

namespace Renaming

variable (ρ : Renaming)

/-- Passwords that are all in play. -/
def Covers (passwords : List String) : Prop := ∀ p ∈ passwords, ρ.InPlay p

/-- Where there are no passwords, all are in play. -/
theorem covers_nil (ρ : Renaming) : ρ.Covers [] := fun _ hp => absurd hp List.not_mem_nil

/-- Passwords among those in play are in play. -/
theorem Covers.subset {ρ : Renaming} {ps qs : List String} (h : ρ.Covers qs) (hps : ps ⊆ qs) :
    ρ.Covers ps := fun p hp => h p (hps hp)

/-- Optional passwords are the same if they are the same under their other names. -/
theorem name_eq_iff {a b : Option String} (ha : ρ.Covers a.toList) (hb : ρ.Covers b.toList) :
    a.map ρ.name = b.map ρ.name ↔ a = b := by
  constructor
  · intro h
    cases a with
    | none => cases b with
      | none => rfl
      | some q => cases h
    | some p => cases b with
      | none => cases h
      | some q =>
        have hname : ρ.name p = ρ.name q := Option.some.inj h
        rw [ρ.injective p q (ha p (by simp)) (hb q (by simp)) hname]
  · rintro rfl
    rfl

/-- **The store tells passwords apart** at a document: those in play have different hashes there, and
so have they under their other names. -/
structure TellsApart (id : String) : Prop where
  before : ∀ p q, ρ.InPlay p → ρ.InPlay q →
    Store.passwordHash id p = Store.passwordHash id q → p = q
  after : ∀ p q, ρ.InPlay p → ρ.InPlay q →
    Store.passwordHash id (ρ.name p) = Store.passwordHash id (ρ.name q) → ρ.name p = ρ.name q

/-! ## Requests -/

/-- A header with its password renamed, if it is for one. -/
def header (h : String × String) : String × String :=
  if Header.secrets.any (Header.same h.1) then (h.1, ρ.name h.2) else h

/-- **A request with its passwords renamed.** -/
def request (r : Request) : Request := { r with headers := r.headers.map ρ.header }

section Request

variable {ρ} {r : Request} {name : String}

@[simp] theorem method_request (r : Request) : (ρ.request r).method = r.method := rfl

@[simp] theorem path_request (r : Request) : (ρ.request r).path = r.path := rfl

@[simp] theorem fst_header (h : String × String) : (ρ.header h).1 = h.1 := by
  unfold header
  split <;> rfl

/-- Headers are found in the same place. -/
theorem header?_request (r : Request) (name : String) : (ρ.request r).header? name =
    (r.headers.find? fun h => Header.same h.1 name).map fun h => (ρ.header h).2 := by
  have hsame : (fun h => Header.same (ρ.header h).1 name) = fun h => Header.same h.1 name := by
    funext h
    rw [fst_header]
  have hcomp : (fun h => Header.same h.1 name) ∘ ρ.header = fun h => Header.same h.1 name := hsame
  rw [Request.header?, request, List.find?_map, Option.map_map, hcomp]
  rfl

/-- A header that is found by the name of a secret one is secret. -/
theorem isSecret_of_found {found : String × String} (h : name ∈ Header.secrets)
    (hfound : r.headers.find? (fun h => Header.same h.1 name) = some found) :
    Header.secrets.any (Header.same found.1) = true := by
  have hsame : Header.same found.1 name = true := by simpa using List.find?_some hfound
  exact List.any_eq_true.2 ⟨name, h, hsame⟩

/-- **A password is found under its other name.** -/
theorem header?_request_secret (h : name ∈ Header.secrets) :
    (ρ.request r).header? name = (r.header? name).map ρ.name := by
  rw [header?_request, Request.header?]
  cases hfound : r.headers.find? fun h => Header.same h.1 name with
  | none => rfl
  | some found =>
    rw [Option.map_some, Option.map_some, Option.map_some, header, if_pos (isSecret_of_found h hfound)]

/-- **Anything else is found as it is.** -/
theorem header?_request_other (h : Header.secrets.any (Header.same name) = false) :
    (ρ.request r).header? name = r.header? name := by
  rw [header?_request, Request.header?]
  cases hfound : r.headers.find? fun h => Header.same h.1 name with
  | none => rfl
  | some found =>
    have hsame : Header.same found.1 name = true := by simpa using List.find?_some hfound
    -- A header of this name is called like it, up to the case of its letters.
    have hother : Header.secrets.any (Header.same found.1) = false := by
      rw [← h]
      unfold Header.same at hsame ⊢
      rw [eq_of_beq hsame]
    rw [Option.map_some, Option.map_some, header, if_neg (Bool.eq_false_iff.1 hother)]

/-- A password that is found is one that the request carries. -/
theorem mem_secrets {p : String} (h : name ∈ Header.secrets) (hp : r.header? name = some p) :
    p ∈ r.secrets := by
  obtain ⟨found, hfound, rfl⟩ := Option.map_eq_some_iff.1 hp
  have hsecret := isSecret_of_found h hfound
  exact List.mem_map.2
    ⟨found, List.mem_filter.2 ⟨List.mem_of_find?_eq_some hfound, hsecret⟩, rfl⟩

/-- The passwords found in a request are in play if all are that it carries. -/
theorem covers_header? (hr : ρ.Covers r.secrets) (h : name ∈ Header.secrets) :
    ρ.Covers (r.header? name).toList := by
  intro p hp
  exact hr p (mem_secrets h (Option.mem_toList.1 hp))

/-- The body is read as before. -/
theorem bodyDocument?_request (r : Request) :
    Store.bodyDocument? (ρ.request r) = Store.bodyDocument? r := by
  have hencoding : (ρ.request r).header? Header.contentEncoding = r.header? Header.contentEncoding :=
    header?_request_other (by decide)
  have htext : Store.bodyText? (ρ.request r) = Store.bodyText? r := by
    unfold Store.bodyText?
    rw [hencoding]
    rfl
  rw [Store.bodyDocument?, htext, Store.bodyDocument?]

/-- The revision is read as before. -/
theorem requestedRevision?_request (r : Request) :
    Store.requestedRevision? (ρ.request r) = Store.requestedRevision? r := by
  rw [Store.requestedRevision?, header?_request_other (by decide), Store.requestedRevision?]

end Request

/-! ## Documents -/

/-- **Hashes of one password** under both its names, or no hashes. -/
def Hashes (id : String) (h h' : Option String) : Prop :=
  ∃ p : Option String, ρ.Covers p.toList ∧ h = p.map (Store.passwordHash id) ∧
    h' = (p.map ρ.name).map (Store.passwordHash id)

/-- **Documents that differ only by a renaming** of their passwords: they are texts of one template
with one hash, written at one time. -/
structure Documents (id : String) (d d' : Store.Document) : Prop where
  texts : ∃ dt clock, dt.registry.WellFormed ∧ IsHashText d.hash ∧
    d.text = RemoteDocument.print dt d.revision d.hash d.openHash d.modifyHash clock ∧
    d'.text = RemoteDocument.print dt d.revision d.hash d'.openHash d'.modifyHash clock
  revision : d'.revision = d.revision
  openHash : ρ.Hashes id d.openHash d'.openHash
  modifyHash : ρ.Hashes id d.modifyHash d'.modifyHash

section Documents

variable {ρ} {id q : String} {d d' : Store.Document} {h h' presented : Option String}

theorem hashes_none (id : String) : ρ.Hashes id none none := ⟨none, ρ.covers_nil, rfl, rfl⟩

/-- Hashes of a password are hashes. -/
theorem Hashes.isHashText (hh : ρ.Hashes id h h') :
    (∀ x ∈ h, IsHashText x) ∧ ∀ x ∈ h', IsHashText x := by
  obtain ⟨p, -, rfl, rfl⟩ := hh
  exact ⟨Store.isHashText_map id p, Store.isHashText_map id (p.map ρ.name)⟩

theorem Hashes.isSome (hh : ρ.Hashes id h h') : h'.isSome = h.isSome := by
  obtain ⟨p, -, rfl, rfl⟩ := hh
  rw [Option.isSome_map, Option.isSome_map, Option.isSome_map]

/-- **A password fits under one name as under the other.** -/
theorem Hashes.eq_some_iff (hh : ρ.Hashes id h h') (hid : ρ.TellsApart id) (hq : ρ.InPlay q) :
    h' = some (Store.passwordHash id (ρ.name q)) ↔ h = some (Store.passwordHash id q) := by
  obtain ⟨p, hp, rfl, rfl⟩ := hh
  cases p with
  | none => simp
  | some p =>
    have hp : ρ.InPlay p := hp p (by simp)
    simp only [Option.map_some, Option.some.injEq]
    constructor
    · intro hsame
      rw [ρ.injective p q hp hq (hid.after p q hp hq hsame)]
    · intro hsame
      rw [hid.before p q hp hq hsame]

namespace Documents

variable (hd : ρ.Documents id d d')

include hd

/-- The hash of the password that guards changes is that of the other name. -/
theorem guard? : ρ.Hashes id d.guard? d'.guard? := by
  unfold Store.Document.guard?
  obtain ⟨m, hm, hmodify, hmodify'⟩ := hd.modifyHash
  rw [hmodify, hmodify']
  cases m with
  | none => exact hd.openHash
  | some m => exact ⟨some m, hm, rfl, rfl⟩

/-- **The same is let open.** -/
theorem opens (hid : ρ.TellsApart id) (hp : ρ.Covers presented.toList) :
    d'.opens id (presented.map ρ.name) = d.opens id presented := by
  have hsome := hd.openHash.isSome
  cases presented with
  | none =>
    unfold Store.Document.opens
    cases hopen : d.openHash <;> cases hopen' : d'.openHash <;> simp_all
  | some q =>
    have hq : ρ.InPlay q := hp q (by simp)
    have hopen := hd.openHash.eq_some_iff hid hq
    have hmodify := hd.modifyHash.eq_some_iff hid hq
    unfold Store.Document.opens
    cases ho : d.openHash <;> cases ho' : d'.openHash <;>
      simp_all [eq_comm (a := Store.passwordHash id _)]

/-- **The same is let change.** -/
theorem admits (hid : ρ.TellsApart id) (hp : ρ.Covers presented.toList) :
    d'.admits id (presented.map ρ.name) = d.admits id presented := by
  have hguard := hd.guard?
  have hsome := hguard.isSome
  cases presented with
  | none =>
    unfold Store.Document.admits
    cases hg : d.guard? <;> cases hg' : d'.guard? <;> simp_all
  | some q =>
    have hfits := hguard.eq_some_iff hid (hp q (by simp))
    unfold Store.Document.admits
    cases hg : d.guard? <;> cases hg' : d'.guard? <;>
      simp_all [eq_comm (a := Store.passwordHash id _)]

/-- The other document names the same hash. -/
theorem hash : d'.hash = d.hash := by
  obtain ⟨dt, clock, hdt, hhash, -, htext'⟩ := hd.texts
  show RemoteDocument.namedHash d'.text = d.hash
  rw [htext']
  exact RemoteDocument.namedHash_print hdt hhash

/-- **Both are read as the same**: what is read tells only whether there is a password. -/
theorem parse_text (x : RemoteDocument) :
    RemoteDocument.parse d'.text = .ok x ↔ RemoteDocument.parse d.text = .ok x := by
  obtain ⟨dt, clock, hdt, hhash, htext, htext'⟩ := hd.texts
  obtain ⟨hopen, hopen'⟩ := hd.openHash.isHashText
  obtain ⟨hmodify, hmodify'⟩ := hd.modifyHash.isHashText
  rw [htext, htext', RemoteDocument.parse_print hdt hhash hopen hmodify,
    RemoteDocument.parse_print hdt hhash hopen' hmodify', hd.openHash.isSome, hd.modifyHash.isSome]

end Documents

/-- **A document that is written twice**, with passwords under both names. -/
theorem documents_write {dt : DataTemplate} (hdt : dt.registry.WellFormed) (env : Store.Setting)
    (revision : Nat) {o o' m m' : Option String} (hopen : ρ.Hashes id o o')
    (hmodify : ρ.Hashes id m m') :
    ρ.Documents id (.write env dt revision o m) (.write env dt revision o' m') := by
  have hhash := Store.Document.hash_write hdt env revision o m
  refine ⟨⟨dt, env.clock, hdt, ?_, ?_, ?_⟩, rfl, hopen, hmodify⟩
  · rw [hhash]
    exact Sha256.isHashText_hex _
  · rw [hhash]
    rfl
  · rw [hhash]
    rfl

end Documents

/-! ## Stores -/

/-- **Stores that differ only by a renaming** of the passwords in play. They have taken equally many
requests. -/
structure Stores (s s' : Store) : Prop where
  stored : ∀ id d, s.get? id = some d → ∃ d', s'.get? id = some d' ∧ ρ.Documents id d d'
  missing : ∀ id, s.get? id = none → s'.get? id = none
  sound : s.Sound
  drawn : s'.drawn = s.drawn
  faults : s'.faults = s.faults
  count : s'.requests.length = s.requests.length

section Stores

variable {ρ} {env : Store.Setting} {r : Request} {s s' : Store} {id : String}
  {d d' : Store.Document}

namespace Stores

open Store

/-- Empty stores. -/
theorem empty : ρ.Stores {} {} :=
  ⟨fun _ _ hd => (nomatch hd), fun _ _ => rfl, fun _ _ hd => (nomatch hd), rfl, rfl, rfl⟩

/-- A fault is to meet a later request to either. -/
theorem inject (h : ρ.Stores s s') (f : Fault) : ρ.Stores (s.inject f) (s'.inject f) :=
  ⟨h.stored, h.missing, h.sound, h.drawn, congrArg (· ++ [f]) h.faults, h.count⟩

/-- A document is put into both. -/
theorem put (h : ρ.Stores s s') (hd : ρ.Documents id d d') (hsound : d.Sound) :
    ρ.Stores (s.put id d) (s'.put id d') where
  stored x e he := by
    by_cases hx : x = id
    · subst hx
      rw [get?_put_self] at he
      obtain rfl := Option.some.inj he
      exact ⟨d', get?_put_self _ _ _, hd⟩
    · rw [get?_put_of_ne hx] at he ⊢
      exact h.stored x e he
  missing x hnone := by
    by_cases hx : x = id
    · subst hx
      rw [get?_put_self] at hnone
      cases hnone
    · rw [get?_put_of_ne hx] at hnone ⊢
      exact h.missing x hnone
  sound := h.sound.put hsound id
  drawn := h.drawn
  faults := h.faults
  count := h.count

/-- A document is put into both stores, with passwords that are in play. -/
theorem seed (h : ρ.Stores s s') (env : Setting) (id : String) {dt : DataTemplate}
    (hdt : dt.registry.WellFormed) (revision : Nat) {o m : Option String}
    (ho : ρ.Covers o.toList) (hm : ρ.Covers m.toList) :
    ρ.Stores (s.seed env id dt revision o m)
      (s'.seed env id dt revision (o.map ρ.name) (m.map ρ.name)) :=
  h.put (documents_write hdt env revision ⟨o, ho, rfl, rfl⟩ ⟨m, hm, rfl, rfl⟩)
    (Document.sound_write hdt env revision (isHashText_map id o) (isHashText_map id m))

variable (h : ρ.Stores s s') (hr : ρ.Covers r.secrets)

include h hr

/-- The passwords that a document gets are those that are set, or those from before, under both
names. -/
theorem passwordsAfter (id : String) :
    ρ.Hashes id (passwordsAfter id r (s.get? id)).1
        (passwordsAfter id (ρ.request r) (s'.get? id)).1 ∧
      ρ.Hashes id (passwordsAfter id r (s.get? id)).2
        (passwordsAfter id (ρ.request r) (s'.get? id)).2 := by
  have hopen : Header.openPassword ∈ Header.secrets := by simp [Header.secrets]
  have hmodify : Header.modifyPassword ∈ Header.secrets := by simp [Header.secrets]
  unfold Store.passwordsAfter
  dsimp only
  rw [header?_request_secret hopen, header?_request_secret hmodify, Option.isSome_map,
    Option.isSome_map]
  split
  · exact ⟨⟨_, covers_header? hr hopen, rfl, rfl⟩, ⟨_, covers_header? hr hmodify, rfl, rfl⟩⟩
  · cases hd : s.get? id with
    | none =>
      rw [h.missing id hd]
      exact ⟨hashes_none id, hashes_none id⟩
    | some d =>
      obtain ⟨d', hd', hdocuments⟩ := h.stored id d hd
      rw [hd']
      exact ⟨hdocuments.openHash, hdocuments.modifyHash⟩

/-- **A write** under any id. -/
theorem writeAt (hid : s.contains id = true → ρ.TellsApart id) (env : Setting) {dt : DataTemplate}
    (hdt : dt.registry.WellFormed) (revision : Nat) {answer : Document → String}
    (hanswer : ∀ d d', d'.hash = d.hash → answer d' = answer d) :
    (writeAt env id (ρ.request r) dt revision answer s').1 =
        (writeAt env id r dt revision answer s).1 ∧
      ρ.Stores (writeAt env id r dt revision answer s).2
        (writeAt env id (ρ.request r) dt revision answer s').2 := by
  obtain ⟨hopen, hmodify⟩ := h.passwordsAfter hr id
  obtain ⟨hopens, hmodifies⟩ := isHashText_passwordsAfter (fun d hd => h.sound id d hd) id r
  -- Both stores come to the same decision, on passwords and on the revision.
  have hadmits : (s'.get? id).all (mayModify id (ρ.request r)) = (s.get? id).all (mayModify id r) ∧
      (s'.get? id).any (revision ≤ ·.revision) = (s.get? id).any (revision ≤ ·.revision) := by
    cases hd : s.get? id with
    | none =>
      rw [h.missing id hd]
      exact ⟨rfl, rfl⟩
    | some d =>
      obtain ⟨d', hd', hdocuments⟩ := h.stored id d hd
      have hcontains : s.contains id = true := Option.isSome_iff_exists.2 ⟨d, hd⟩
      have hpassword : Header.password ∈ Header.secrets := by simp [Header.secrets]
      rw [hd', Option.all_some, Option.all_some, mayModify_eq, mayModify_eq,
        header?_request_secret hpassword,
        hdocuments.admits (hid hcontains) (covers_header? hr hpassword), Option.any_some,
        Option.any_some, hdocuments.revision]
      exact ⟨rfl, rfl⟩
  unfold Store.writeAt
  dsimp only
  rw [hadmits.1, hadmits.2]
  split
  · exact ⟨rfl, h⟩
  · split
    · exact ⟨rfl, h⟩
    · have hdocuments := documents_write hdt env revision hopen hmodify
      exact ⟨congrArg okResponse (hanswer _ _ hdocuments.hash),
        h.put hdocuments (Document.sound_write hdt env revision hopens hmodifies)⟩

variable (hids : ∀ id, s.contains id = true → ρ.TellsApart id)

include hids

/-- **A write** to any place. -/
theorem write (env : Setting) (t : Target) :
    (write env t (ρ.request r) s').1 = (write env t r s).1 ∧
      ρ.Stores (write env t r s).2 (write env t (ρ.request r) s').2 := by
  unfold Store.write
  rw [bodyDocument?_request, requestedRevision?_request]
  split
  · next dt revision hbody _ =>
    have hdt := wellFormed_of_bodyDocument? hbody
    cases t with
    | document id =>
      refine h.writeAt hr (hids id) env hdt revision fun d d' hhash => ?_
      rw [hhash]
    | collection =>
      have hdrawn : ρ.Stores { s with drawn := s.drawn + 1 } { s' with drawn := s.drawn + 1 } :=
        ⟨h.stored, h.missing, h.sound, rfl, h.faults, h.count⟩
      dsimp only
      rw [h.drawn]
      exact hdrawn.writeAt hr (hids _) env hdt revision fun _ _ _ => rfl
  · exact ⟨rfl, h⟩

/-- **A fetch** of any document. -/
theorem fetch (hget : r.method = .get) (id : String) :
    RepliesAlike r (.ok (fetch id r s)) (.ok (fetch id (ρ.request r) s')) := by
  cases hd : s.get? id with
  | none =>
    left
    rw [Store.fetch, Store.fetch, hd, h.missing id hd]
  | some d =>
    obtain ⟨d', hd', hdocuments⟩ := h.stored id d hd
    have hcontains : s.contains id = true := Option.isSome_iff_exists.2 ⟨d, hd⟩
    have hpassword : Header.password ∈ Header.secrets := by simp [Header.secrets]
    rw [fetch_eq_opens hd, fetch_eq_opens hd', header?_request_secret hpassword,
      hdocuments.opens (hids id hcontains) (covers_header? hr hpassword), Option.isSome_map]
    split
    · exact .inr ⟨hget, d.text, d'.text, rfl, rfl, hdocuments.parse_text⟩
    · exact .inl rfl

/-- **A request that is handled.** -/
theorem handle (env : Setting) :
    RepliesAlike r (.ok (handle env r s).1) (.ok (handle env (ρ.request r) s').1) ∧
      ρ.Stores (handle env r s).2 (handle env (ρ.request r) s').2 := by
  unfold Store.handle
  rw [path_request, method_request]
  split
  · exact ⟨.inl rfl, h⟩
  · next id _ hget => exact ⟨h.fetch hr hids hget id, h⟩
  · exact ⟨.inl rfl, h⟩
  · next t _ _ =>
    obtain ⟨hanswer, hstores⟩ := h.write hr hids env t
    exact ⟨.inl (congrArg Except.ok hanswer), hstores⟩

/-- **Both stores take a request alike**: the replies tell the same, and the stores still differ only
by the renaming. -/
theorem send (env : Setting) : RepliesAlike r (s.send env r).1 (s'.send env (ρ.request r)).1 ∧
    ρ.Stores (s.send env r).2 (s'.send env (ρ.request r)).2 := by
  have hcount : (s'.requests ++ [ρ.request r]).length = (s.requests ++ [r]).length := by
    rw [List.length_append, List.length_append, h.count, List.length_singleton,
      List.length_singleton]
  cases hfaults : s.faults with
  | cons f fs =>
    have hfaults' : s'.faults = f :: fs := h.faults.trans hfaults
    rw [Store.send, Store.send, hfaults, hfaults']
    exact ⟨.inl rfl, h.stored, h.missing, h.sound, h.drawn, rfl, hcount⟩
  | nil =>
    have hnoted : ρ.Stores (s.noted r) (s'.noted (ρ.request r)) :=
      ⟨h.stored, h.missing, h.sound, h.drawn, h.faults, hcount⟩
    rw [send_of_faults hfaults, send_of_faults (h.faults.trans hfaults)]
    exact hnoted.handle hr hids env

end Stores

end Stores

end Renaming

end TemplateShare
