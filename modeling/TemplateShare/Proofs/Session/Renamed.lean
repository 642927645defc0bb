import TemplateShare.Proofs.Store.Renamed

/-! # Sessions under renamed passwords

A session whose passwords are called differently goes on just as it would have: it sends the same
requests with the passwords renamed, takes the replies alike, and differs afterwards only in what the
passwords are called. That is a relation between dialogues, which holds of every load and every save.

* **`Renaming.session`** — a session with its passwords renamed; what it is asked for, it tells as
  before.
* **`Dialogue.Alike`** — two dialogues that differ only by a renaming, and end alike if they are
  answered alike.
* **`Renaming.Outcomes`** — what loads and saves come to, up to the renaming.
* **`Sync.alike_fetch`**, **`Sync.alike_save`**, … — loads and saves. -/

namespace TemplateShare

namespace Renaming

variable (ρ : Renaming)

/-! ## Sessions -/

/-- Passwords to set, under their other names. -/
def protection (p : Protection) : Protection :=
  ⟨p.openPassword.map ρ.name, p.modifyPassword.map ρ.name, by simpa using p.isSet⟩

/-- **A session with its passwords renamed.** -/
def session (s : Session) : Session :=
  { s with
    openPassword := s.openPassword.map ρ.name
    modifyPassword := s.modifyPassword.map ρ.name
    pendingProtection := s.pendingProtection.map ρ.protection }

section Session

open Session

variable {ρ} {s : Session} {password : Option String}

theorem pendingProtection_session (s : Session) :
    (ρ.session s).pendingProtection = s.pendingProtection.map ρ.protection := rfl

theorem fetchCredential_session (s : Session) :
    (ρ.session s).fetchCredential = s.fetchCredential.map ρ.name := by
  unfold fetchCredential session
  cases s.openPassword <;> rfl

theorem updateCredential_session (s : Session) :
    (ρ.session s).updateCredential = s.updateCredential.map ρ.name := by
  unfold updateCredential session
  cases s.modifyPassword <;> rfl

/-- The passwords that a session presents are in play if all are that it holds. -/
theorem covers_fetchCredential (hs : ρ.Covers s.held) : ρ.Covers s.fetchCredential.toList :=
  hs.subset s.fetchCredential_subset_held

theorem covers_updateCredential (hs : ρ.Covers s.held) : ρ.Covers s.updateCredential.toList :=
  hs.subset (List.append_subset.1 s.updateCredential_subset_held).1

/-- Giving up a load changes no password. -/
theorem abortLoad_session (s : Session) (t : LoadTicket) (state : SyncState) :
    (ρ.session s).abortLoad t state = ρ.session (s.abortLoad t state) ∧
      (s.abortLoad t state).held = s.held := by
  unfold abortLoad
  by_cases hg : s.generation ≠ t.generation
  · rw [if_pos hg, if_pos (show (ρ.session s).generation ≠ t.generation from hg)]
    exact ⟨rfl, rfl⟩
  · rw [if_neg hg, if_neg (show ¬(ρ.session s).generation ≠ t.generation from hg)]
    exact ⟨rfl, rfl⟩

/-- Marking a save changes no password. -/
theorem markState_session (s : Session) (t : SaveTicket) (state : SyncState) :
    (ρ.session s).markState t state = ρ.session (s.markState t state) ∧
      (s.markState t state).held = s.held := by
  unfold markState
  by_cases hg : s.isCurrent t.generation = true
  · rw [if_pos hg, if_pos (show (ρ.session s).isCurrent t.generation = true from hg)]
    exact ⟨rfl, rfl⟩
  · rw [if_neg hg, if_neg (show ¬(ρ.session s).isCurrent t.generation = true from hg)]
    exact ⟨rfl, rfl⟩

/-- A document that is loaded takes its password with it, under either name. -/
theorem completeLoad_session (current : s.generation = t.generation) (d : RemoteDocument)
    (password : Option String) :
    (ρ.session s).completeLoad t d (password.map ρ.name) =
        ρ.session (s.completeLoad t d password) ∧
      (s.completeLoad t d password).held = password.toList := by
  unfold completeLoad
  rw [if_neg (not_not_intro current),
    if_neg (not_not_intro (show (ρ.session s).generation = t.generation from current))]
  refine ⟨rfl, ?_⟩
  simp [held]

/-- **A password that has been accepted is noted** where it was not known, and that is so under either
name. -/
theorem settlePasswords_session (hs : ρ.Covers s.held) (hp : ρ.Covers password.toList) :
    (ρ.session s).settlePasswords (password.map ρ.name) =
      ρ.session (s.settlePasswords password) := by
  have hcredential := updateCredential_session (ρ := ρ) s
  have hsame := ρ.name_eq_iff (covers_updateCredential hs) hp
  have hnew : ((password.map ρ.name).isSome = true ∧
      (ρ.session s).updateCredential ≠ password.map ρ.name) ↔
        (password.isSome = true ∧ s.updateCredential ≠ password) := by
    rw [Option.isSome_map, hcredential, Ne, hsame]
  unfold settlePasswords
  rw [pendingProtection_session]
  cases s.pendingProtection with
  | some p => rfl
  | none =>
    dsimp only [Option.map_none]
    by_cases h : password.isSome = true ∧ s.updateCredential ≠ password
    · rw [if_pos h, if_pos (hnew.2 h)]
      rfl
    · rw [if_neg h, if_neg (mt hnew.1 h)]

/-- A session holds only passwords in play after it has been updated. -/
theorem covers_completeUpdate (hs : ρ.Covers s.held) (hp : ρ.Covers password.toList)
    (revision : Nat) (hash : Option String) (now : Instant) :
    ρ.Covers (s.completeUpdate revision hash password now).held := by
  refine Covers.subset ?_ (s.held_settlePasswords password)
  intro p hmem
  rcases List.mem_append.1 hmem with hmem | hmem
  · exact hp p hmem
  · exact hs p hmem

theorem completeUpdate_session (hs : ρ.Covers s.held) (hp : ρ.Covers password.toList)
    (revision : Nat) (hash : Option String) (now : Instant) :
    (ρ.session s).completeUpdate revision hash (password.map ρ.name) now =
      ρ.session (s.completeUpdate revision hash password now) := by
  unfold completeUpdate
  rw [settlePasswords_session hs hp]
  rfl

/-- Passwords can be set under their other names if and only if they can. -/
theorem protect_session (s : Session) (p : Protection) :
    (ρ.session s).protect (ρ.protection p) = (s.protect p).map ρ.session := by
  unfold protect
  by_cases hunsaved : s.isUnsaved = true
  · rw [if_pos hunsaved, if_pos (show (ρ.session s).isUnsaved = true from hunsaved)]
    rfl
  · rw [if_neg hunsaved, if_neg (show ¬(ρ.session s).isUnsaved = true from hunsaved)]
    by_cases hcan : (!s.capabilities.canProtect) = true
    · rw [if_pos hcan, if_pos (show (!(ρ.session s).capabilities.canProtect) = true from hcan)]
      rfl
    · rw [if_neg hcan, if_neg (show ¬(!(ρ.session s).capabilities.canProtect) = true from hcan)]
      rfl

/-- The session of a working copy holds no passwords, so it is as it is under any name. -/
theorem session_copy (copy : WorkingCopy) :
    ρ.session copy.session = copy.session ∧ ρ.Covers copy.session.held := by
  have hheld : copy.session.held = [] := by
    unfold WorkingCopy.session
    split <;> rfl
  refine ⟨?_, hheld ▸ ρ.covers_nil⟩
  unfold WorkingCopy.session
  split <;> rfl

end Session

/-! ## Requests -/

section Request

variable {ρ}

theorem request_withHeader (r : Request) {name : String} (value : String)
    (h : Header.secrets.any (Header.same name) = false) :
    ρ.request (r.withHeader name value) = (ρ.request r).withHeader name value := by
  have hheader : ρ.header (name, value) = (name, value) := if_neg (Bool.eq_false_iff.1 h)
  simp [request, Request.withHeader, hheader]

theorem request_withOptionalHeader (r : Request) {name : String} (value : Option String)
    (h : name ∈ Header.secrets) : ρ.request (r.withOptionalHeader name value) =
      (ρ.request r).withOptionalHeader name (value.map ρ.name) := by
  have hsecret : Header.secrets.any (Header.same name) = true :=
    List.any_eq_true.2 ⟨name, h, Header.same_self name⟩
  cases value with
  | none => rfl
  | some v =>
    have hheader : ρ.header (name, v) = (name, ρ.name v) := if_pos hsecret
    simp [request, Request.withOptionalHeader, Request.withHeader, hheader]

end Request

end Renaming

namespace Sync

variable (ρ : Renaming) (o : Options) (s : Session)

/-- A request for a document, with its password renamed. -/
theorem request_fetchRequest (id : String) (password : Option String) :
    ρ.request (fetchRequest id password) = fetchRequest id (password.map ρ.name) := by
  unfold fetchRequest
  rw [Renaming.request_withOptionalHeader _ _ (by simp [Header.secrets])]
  rfl

/-- **A session is written as it is**, whatever its passwords are called. -/
theorem request_writeRequest (id : Option String) :
    ρ.request (writeRequest o s id) = writeRequest o (ρ.session s) id := by
  have hsnapshot : (ρ.session s).snapshot = s.snapshot := rfl
  have htype : ρ.header (Header.contentType, "application/json") =
      (Header.contentType, "application/json") := if_neg (by decide)
  unfold writeRequest
  rw [hsnapshot]
  dsimp only
  split
  · simp only [Request.withHeader, Renaming.request, List.map_append, List.map_cons, List.map_nil,
      htype]
    rfl
  · simp only [Renaming.request, List.map_cons, List.map_nil, htype]

/-- **An update with the passwords renamed** that it presents and sets. -/
theorem request_updateRequest (id : String) (revision : Nat) (password : Option String) :
    ρ.request (updateRequest o s id revision password) =
      updateRequest o (ρ.session s) id revision (password.map ρ.name) := by
  have hpassword : Header.password ∈ Header.secrets := by simp [Header.secrets]
  have hopen : Header.openPassword ∈ Header.secrets := by simp [Header.secrets]
  have hmodify : Header.modifyPassword ∈ Header.secrets := by simp [Header.secrets]
  have hrevision : Header.secrets.any (Header.same Header.revision) = false := by decide
  have hquery (r : Request) (q : List (String × String)) :
      ρ.request { r with query := q } = { ρ.request r with query := q } := rfl
  unfold updateRequest
  rw [← request_writeRequest]
  generalize writeRequest o s (some id) = r
  rw [Renaming.pendingProtection_session]
  cases s.pendingProtection with
  | none =>
    dsimp only [Option.map_none]
    rw [Renaming.request_withOptionalHeader _ _ hpassword, Renaming.request_withHeader _ _ hrevision,
      hquery]
    rfl
  | some p =>
    dsimp only [Option.map_some]
    rw [Renaming.request_withOptionalHeader _ _ hmodify, Renaming.request_withOptionalHeader _ _ hopen,
      Renaming.request_withOptionalHeader _ _ hpassword, Renaming.request_withHeader _ _ hrevision,
      hquery]
    rfl

end Sync

/-! ## Dialogues -/

/-- **Answers that differ only by a renaming**, or are both none. -/
structure Renaming.Answers (ρ : Renaming) (a a' : Option String) : Prop where
  covers : ρ.Covers (Password.answer a).toList
  renamed : Password.answer a' = (Password.answer a).map ρ.name

namespace Dialogue

variable {ρ : Renaming} {α β : Type} {Q : α → α → Prop} {R : β → β → Prop} {d d' : Dialogue α}

/-- **Dialogues that differ only by a renaming** of passwords in play. If they are answered alike, they
end with values that `Q` relates. -/
inductive Alike (ρ : Renaming) (Q : α → α → Prop) : Dialogue α → Dialogue α → Prop
  | done {a a' : α} (ends : Q a a') : Alike ρ Q (.done a) (.done a')
  | exchange {r r' : Request} {next next' : Reply → Dialogue α} (covers : ρ.Covers r.secrets)
      (renamed : r' = ρ.request r)
      (more : ∀ x x', Store.RepliesAlike r x x' → Alike ρ Q (next x) (next' x')) :
      Alike ρ Q (.exchange r next) (.exchange r' next')
  | askPassword {q : String} {next next' : Option String → Dialogue α}
      (more : ∀ a a', ρ.Answers a a' → Alike ρ Q (next a) (next' a')) :
      Alike ρ Q (.askPassword q next) (.askPassword q next')
  | confirm {q : String} {next next' : Bool → Dialogue α}
      (more : ∀ x, Alike ρ Q (next x) (next' x)) : Alike ρ Q (.confirm q next) (.confirm q next')
  | loadFile {path : String} {next next' : Except FileError Bytes → Dialogue α}
      (more : ∀ x, Alike ρ Q (next x) (next' x)) :
      Alike ρ Q (.loadFile path next) (.loadFile path next')
  | saveFile {path : String} {content : Bytes} {next next' : Except FileError Unit → Dialogue α}
      (more : ∀ x, Alike ρ Q (next x) (next' x)) :
      Alike ρ Q (.saveFile path content next) (.saveFile path content next')

/-- Dialogues that are alike go on alike. -/
theorem Alike.bind (h : Alike ρ Q d d') {f f' : α → Dialogue β}
    (hf : ∀ a a', Q a a' → Alike ρ R (f a) (f' a')) : Alike ρ R (d.bind f) (d'.bind f') := by
  induction h with
  | done ends => exact hf _ _ ends
  | exchange covers renamed _ ih => exact .exchange covers renamed fun x x' hx => ih x x' hx
  | askPassword _ ih => exact .askPassword fun a a' ha => ih a a' ha
  | confirm _ ih => exact .confirm ih
  | loadFile _ ih => exact .loadFile ih
  | saveFile _ ih => exact .saveFile ih

end Dialogue

/-- **What loads and saves come to, up to a renaming**: the same, or a document that cannot be read
for whatever reason, and sessions that differ only in what their passwords are called. -/
structure Renaming.Outcomes (ρ : Renaming) {α : Type} (out out' : Sync.Outcome α) : Prop where
  result : out'.1 = out.1 ∨
    ∃ e e', out.1 = .error (.encoding e) ∧ out'.1 = .error (.encoding e')
  session : out'.2 = ρ.session out.2
  covers : ρ.Covers out.2.held

namespace Sync

open Session Dialogue

variable {ρ : Renaming} {o : Options} {s : Session} {r : Request} {x x' : Reply}
  {password : Option String} {id : String}

/-- A reply to a write is the same. -/
theorem eq_of_repliesAlike (h : Store.RepliesAlike r x x') (hmethod : r.method = .post) :
    x' = x := by
  rcases h with h | ⟨hget, -⟩
  · exact h
  · cases hmethod.symm.trans hget

/-- The same session, with the same result. -/
theorem outcomes_same {α : Type} (result : Except Error α) (hs : ρ.Covers s.held) :
    ρ.Outcomes (result, s) (result, ρ.session s) := ⟨.inl rfl, rfl, hs⟩

/-! ## Loading -/

/-- A load that is given up. -/
theorem outcomes_abortLoad {α : Type} (result : Except Error α) (hs : ρ.Covers s.held)
    (t : LoadTicket) (state : SyncState) : ρ.Outcomes (result, s.abortLoad t state)
      (result, (ρ.session s).abortLoad t state) := by
  obtain ⟨hsession, hheld⟩ := Renaming.abortLoad_session (ρ := ρ) s t state
  exact ⟨.inl rfl, hsession, hheld ▸ hs⟩

/-- **A load takes replies alike** that tell the same. -/
theorem outcomes_applyFetch (hs : ρ.Covers s.held) (t : LoadTicket) (hp : ρ.Covers password.toList)
    (h : Store.RepliesAlike r x x') : ρ.Outcomes (applyFetch s ⟨t, password⟩ x)
      (applyFetch (ρ.session s) ⟨t, password.map ρ.name⟩ x') := by
  have hgeneration : (ρ.session s).generation = s.generation := rfl
  unfold applyFetch
  dsimp only
  rw [hgeneration]
  by_cases hg : s.generation = t.generation
  · have hloaded (d : RemoteDocument) (result : Except Error FetchOutcome) :
        ρ.Outcomes (result, s.completeLoad t d password)
          (result, (ρ.session s).completeLoad t d (password.map ρ.name)) := by
      obtain ⟨hsession, hheld⟩ := Renaming.completeLoad_session (ρ := ρ) hg d password
      exact ⟨.inl rfl, hsession, hheld ▸ hp⟩
    rw [if_neg (not_not_intro hg), if_neg (not_not_intro hg)]
    rcases h with rfl | ⟨-, b, b', rfl, rfl, hread⟩
    · cases x' with
      | error e => exact outcomes_abortLoad _ hs t _
      | ok r =>
        dsimp only
        split
        · split
          · exact outcomes_abortLoad _ hs t _
          · exact hloaded _ _
        · cases password with
          | none => exact outcomes_same _ hs
          | some p => exact outcomes_abortLoad _ hs t _
        · exact outcomes_abortLoad _ hs t _
        · exact outcomes_abortLoad _ hs t _
        · exact outcomes_abortLoad _ hs t _
    · dsimp only [Store.okResponse]
      -- Both are read as the same document, or neither is read.
      cases hb : RemoteDocument.parse b with
      | ok d =>
        rw [(hread d).2 hb]
        exact hloaded d _
      | error e =>
        cases hb' : RemoteDocument.parse b' with
        | ok d =>
          rw [(hread d).1 hb'] at hb
          cases hb
        | error e' =>
          obtain ⟨hsession, hheld⟩ := Renaming.abortLoad_session (ρ := ρ) s t .failed
          exact ⟨.inr ⟨e, e', rfl, rfl⟩, hsession, hheld ▸ hs⟩
  · rw [if_pos hg, if_pos hg]
    exact outcomes_same _ hs

/-- A fetch is the same but for the renaming. -/
theorem alike_fetch (hs : ρ.Covers s.held) (id : String) :
    Alike ρ ρ.Outcomes (fetch s id) (fetch (ρ.session s) id) := by
  unfold fetch beginFetch
  by_cases hid : DocumentId.isValid id = true
  · rw [if_pos hid, if_pos hid]
    dsimp only
    have hpassword : ∃ password : Option String, ρ.Covers password.toList ∧
        (if s.remoteId = some id then s.fetchCredential else none) = password ∧
        (if (ρ.session s).remoteId = some id then (ρ.session s).fetchCredential else none) =
          password.map ρ.name := by
      by_cases hlinked : s.remoteId = some id
      · refine ⟨_, Renaming.covers_fetchCredential hs, if_pos hlinked, ?_⟩
        rw [if_pos (show (ρ.session s).remoteId = some id from hlinked),
          Renaming.fetchCredential_session]
      · exact ⟨none, ρ.covers_nil, if_neg hlinked, if_neg hlinked⟩
    obtain ⟨password, hp, hpassword, hpassword'⟩ := hpassword
    rw [hpassword, hpassword']
    refine .exchange ?_ (request_fetchRequest ρ _ _).symm fun x x' hx => .done ?_
    · rw [PendingFetch.request, secrets_fetchRequest]
      exact hp
    · exact outcomes_applyFetch (s := (s.beginLoad id).2) hs _ hp hx
  · rw [if_neg hid, if_neg hid]
    exact .done (outcomes_same _ hs)

/-- An answer to a fetch's question, under either name. -/
theorem alike_fetchWithPassword (hs : ρ.Covers s.held) (t : LoadTicket) {a a' : Option String}
    (ha : ρ.Answers a a') : Alike ρ ρ.Outcomes (fetchWithPassword s t a)
      (fetchWithPassword (ρ.session s) t a') := by
  have hgeneration : (ρ.session s).generation = s.generation := rfl
  have hp := ha.covers
  unfold fetchWithPassword
  rw [hgeneration, ha.renamed]
  split
  · exact .done (outcomes_same _ hs)
  · cases hanswer : Password.answer a with
    | none => exact .done (outcomes_abortLoad _ hs t _)
    | some password =>
      rw [hanswer] at hp
      refine .exchange ?_ (request_fetchRequest ρ t.id (some password)).symm fun x x' hx =>
        .done ?_
      · rw [PendingFetch.request, secrets_fetchRequest]
        exact hp
      · exact outcomes_applyFetch hs t hp hx

/-! ## Saving -/

/-- A save that is marked. -/
theorem outcomes_markState {α : Type} (result : Except Error α) (hs : ρ.Covers s.held)
    (t : SaveTicket) (state : SyncState) : ρ.Outcomes (result, s.markState t state)
      (result, (ρ.session s).markState t state) := by
  obtain ⟨hsession, hheld⟩ := Renaming.markState_session (ρ := ρ) s t state
  exact ⟨.inl rfl, hsession, hheld ▸ hs⟩

/-- A save that is refused. -/
theorem outcomes_refused {α : Type} (hs : ρ.Covers s.held) (t : SaveTicket) (r : Response)
    (id : Option String) : ρ.Outcomes (failed (refused s t r id) : Outcome α)
      (failed (refused (ρ.session s) t r id)) := by
  unfold refused failed
  split <;> exact outcomes_markState _ hs t _

/-- A creation takes a reply in the same way. -/
theorem outcomes_applyCreate (hs : ρ.Covers s.held) (t : SaveTicket) (x : Reply) :
    ρ.Outcomes (applyCreate o s t x) (applyCreate o (ρ.session s) t x) := by
  have hcurrent : (ρ.session s).isCurrent t.generation = s.isCurrent t.generation := rfl
  unfold applyCreate
  cases x with
  | error e => exact outcomes_markState _ hs t _
  | ok r =>
    dsimp only
    rw [hcurrent]
    split
    · split
      · exact outcomes_same _ hs
      · split
        · exact ⟨.inl rfl, rfl, hs⟩
        · exact outcomes_same _ hs
    · exact outcomes_refused hs t r none

/-- A creation is the same but for the renaming. -/
theorem alike_create (hs : ρ.Covers s.held) :
    Alike ρ ρ.Outcomes (create o s) (create o (ρ.session s)) := by
  refine .exchange ?_ (request_writeRequest ρ o s none).symm fun x x' hx => .done ?_
  · rw [secrets_writeRequest]
    exact ρ.covers_nil
  · obtain rfl := eq_of_repliesAlike hx (method_writeRequest o s none)
    exact outcomes_applyCreate (s := s.beginSave.2) hs _ x'

/-- An update takes a reply in the same way. -/
theorem outcomes_applyUpdate (hs : ρ.Covers s.held) (t : SaveTicket) (id : String) (revision : Nat)
    (hp : ρ.Covers password.toList) (x : Reply) :
    ρ.Outcomes (applyUpdate o s t id revision password x)
      (applyUpdate o (ρ.session s) t id revision (password.map ρ.name) x) := by
  have hcurrent : (ρ.session s).isCurrent t.generation = s.isCurrent t.generation := rfl
  unfold applyUpdate
  cases x with
  | error e => exact outcomes_markState _ hs t _
  | ok r =>
    dsimp only
    rw [hcurrent, Option.isSome_map]
    split
    · split
      · exact outcomes_same _ hs
      · split
        · exact ⟨.inl rfl, Renaming.completeUpdate_session hs hp _ _ _,
            Renaming.covers_completeUpdate hs hp _ _ _⟩
        · exact outcomes_same _ hs
    · exact outcomes_same _ hs
    · exact outcomes_refused hs t r (some id)

/-- An update that is sent is the same but for the renaming. -/
theorem alike_sendUpdate (hs : ρ.Covers s.held) (t : SaveTicket) (revision : Nat)
    (hp : ρ.Covers password.toList) : Alike ρ ρ.Outcomes (sendUpdate o s t revision password)
      (sendUpdate o (ρ.session s) t revision (password.map ρ.name)) := by
  have hlinked : (ρ.session s).remoteId = s.remoteId := rfl
  unfold sendUpdate
  rw [hlinked]
  cases s.remoteId with
  | none => exact .done (outcomes_same _ hs)
  | some id =>
    refine .exchange ?_ (request_updateRequest ρ o s id revision password).symm fun x x' hx =>
      .done ?_
    · rw [secrets_updateRequest]
      intro p hmem
      rcases List.mem_append.1 hmem with hmem | hmem
      · exact hp p hmem
      · exact hs p (s.updateCredential_subset_held (List.mem_append_right _ hmem))
    · obtain rfl := eq_of_repliesAlike hx (method_updateRequest o s id revision password)
      exact outcomes_applyUpdate hs t id revision hp x'

/-- An update is the same but for the renaming. -/
theorem alike_update (hs : ρ.Covers s.held) :
    Alike ρ ρ.Outcomes (update o s) (update o (ρ.session s)) := by
  have hunsaved : (ρ.session s).isUnsaved = s.isUnsaved := rfl
  have hdirty : (ρ.session s).dirty = s.dirty := rfl
  unfold update
  rw [hunsaved, hdirty, Renaming.updateCredential_session]
  split
  · exact .done (outcomes_same _ hs)
  · split
    · exact .done (outcomes_same _ hs)
    · exact alike_sendUpdate (s := s.beginSave.2) hs _ _ (Renaming.covers_updateCredential hs)

/-- **A save is the same but for the renaming.** -/
theorem alike_save (hs : ρ.Covers s.held) :
    Alike ρ ρ.Outcomes (save o s) (save o (ρ.session s)) := by
  have hunsaved : (ρ.session s).isUnsaved = s.isUnsaved := rfl
  unfold save
  rw [hunsaved]
  split
  · exact alike_create hs
  · exact alike_update hs

/-- **An answer to an update's question**, under either name. -/
theorem alike_resumeUpdate (hs : ρ.Covers s.held) (p : UpdatePrompt) {a a' : Option String}
    (ha : ρ.Answers a a') : Alike ρ ρ.Outcomes (resumeUpdate o s p a)
      (resumeUpdate o (ρ.session s) p a') := by
  have hcurrent : (ρ.session s).isCurrent p.ticket.generation = s.isCurrent p.ticket.generation := rfl
  have hp := ha.covers
  unfold resumeUpdate
  rw [hcurrent, ha.renamed]
  split
  · exact .done (outcomes_same _ hs)
  · cases hanswer : Password.answer a with
    | none => exact .done (outcomes_markState _ hs _ _)
    | some password =>
      rw [hanswer] at hp
      exact alike_sendUpdate hs _ _ hp

/-- **The revision that the store holds** is the same, or cannot be read from either reply. -/
theorem heldRevision_repliesAlike (h : Store.RepliesAlike r x x') (id : String) :
    heldRevision id x' = heldRevision id x ∨ ∃ e e',
      heldRevision id x = .error (.encoding e) ∧ heldRevision id x' = .error (.encoding e') := by
  rcases h with rfl | ⟨-, b, b', rfl, rfl, hread⟩
  · exact .inl rfl
  · unfold heldRevision
    dsimp only [Store.okResponse]
    cases hb : RemoteDocument.parse b with
    | ok d =>
      rw [(hread d).2 hb]
      exact .inl rfl
    | error e =>
      cases hb' : RemoteDocument.parse b' with
      | ok d =>
        rw [(hread d).1 hb'] at hb
        cases hb
      | error e' => exact .inr ⟨e, e', rfl, rfl⟩

/-- **An overwrite is the same but for the renaming.** -/
theorem alike_overwrite (hs : ρ.Covers s.held) (id : String) :
    Alike ρ ρ.Outcomes (overwrite o s id) (overwrite o (ρ.session s) id) := by
  have hlinked : (ρ.session s).remoteId = s.remoteId := rfl
  unfold overwrite
  rw [hlinked, Renaming.fetchCredential_session, Renaming.updateCredential_session]
  split
  · exact .done (outcomes_same _ hs)
  · refine .exchange ?_ (request_fetchRequest ρ _ _).symm fun x x' hx => ?_
    · rw [secrets_fetchRequest]
      exact Renaming.covers_fetchCredential hs
    · dsimp only
      rcases heldRevision_repliesAlike hx id with hsame | ⟨e, e', he, he'⟩
      · rw [hsame]
        split
        · exact .done (outcomes_same _ hs)
        · exact alike_sendUpdate (s := s.beginSave.2) hs _ _ (Renaming.covers_updateCredential hs)
      · rw [he, he']
        exact .done ⟨.inr ⟨e, e', rfl, rfl⟩, rfl, hs⟩

end Sync

end TemplateShare
