import TemplateShare.Proofs.Session.Saved
import TemplateShare.Proofs.Session.Superseded

/-! # Sessions without a copy in the store

A session that has no copy in the store knows nothing of any: no revision, no hash, no password, no
time. A document is left behind only by pasting another one, which begins a new generation, and so
nothing that had been handed out for it can be gone on with.

* **`Session.IsBare`** — a session that knows nothing of a copy in the store.
* **`Session.Unburdened`**, **`Session.unburdened_of_step`** — without a copy a session is bare, and
  every operation keeps it so.
* **`Session.Handout.generations`**, **`Session.Run.generations_le`** — what has been handed out is
  of no later generation than the session.
* **`Session.Run.carries_nothing`** — the sessions of a run, their creations, and late answers. -/

namespace TemplateShare

namespace Request

/-- A request that carries no password has no header for one. -/
theorem header?_eq_none_of_secrets {r : Request} (h : r.secrets = []) {name : String}
    (hname : name ∈ Header.secrets) : r.header? name = none := by
  rw [secrets, List.map_eq_nil_iff, List.filter_eq_nil_iff] at h
  rw [header?, Option.map_eq_none_iff, List.find?_eq_none]
  intro header hmem hsame
  exact h header hmem (List.any_eq_true.2 ⟨name, hname, hsame⟩)

end Request

namespace Session

variable {s s' : Session} {op : Operation} {es : List (Request × Reply)} {result : Result}

/-! ## Bare sessions -/

/-- **A session that knows nothing of a copy in the store.** -/
structure IsBare (s : Session) : Prop where
  revision : s.revision = 0
  contentHash : s.contentHash = none
  openPassword : s.openPassword = none
  modifyPassword : s.modifyPassword = none
  pendingProtection : s.pendingProtection = none
  updated : s.updated = none
  canUpdate : s.capabilities.canUpdate = false
  canProtect : s.capabilities.canProtect = false

/-- **Sessions with which a run may begin**: with a document of their own, or with one that has a
copy in the store. -/
inductive IsNew : Session → Prop
  | ofTemplate (dt : DataTemplate) : IsNew (ofTemplate dt)
  | unsaved (dt : DataTemplate) : IsNew (unsaved dt)
  | linked (dt : DataTemplate) (r : SyncRecord) (dirty : Bool) : IsNew (linked dt r dirty)

/-- **Without a copy in the store a session is bare.** -/
def Unburdened (s : Session) : Prop := s.remoteId = none → s.IsBare

/-- A session with a copy in the store may know of it. -/
theorem Unburdened.of_linked (id : String) (h : s.remoteId = some id) : s.Unburdened := by
  intro hnone
  rw [h] at hnone
  cases hnone

/-- A session that has just begun. -/
theorem IsNew.unburdened (h : s.IsNew) : s.Unburdened := by
  cases h with
  | ofTemplate | unsaved => exact fun _ => ⟨rfl, rfl, rfl, rfl, rfl, rfl, rfl, rfl⟩
  | linked dt r dirty => exact .of_linked r.id rfl

/-- State, location and generation do not matter. -/
theorem Unburdened.of_kept (hs : s.Unburdened) (h : s'.kept = s.kept) : s'.Unburdened := by
  rw [eq_update_of_kept_eq h]
  exact fun hnone => ⟨(hs hnone).1, (hs hnone).2, (hs hnone).3, (hs hnone).4, (hs hnone).5,
    (hs hnone).6, (hs hnone).7, (hs hnone).8⟩

/-- Nor does the document. -/
theorem Unburdened.of_edited (hs : s.Unburdened) (h : Edited s s') : s'.Unburdened := by
  rw [h]
  exact fun hnone => ⟨(hs hnone).1, (hs hnone).2, (hs hnone).3, (hs hnone).4, (hs hnone).5,
    (hs hnone).6, (hs hnone).7, (hs hnone).8⟩

/-- **A pasted document** comes without a copy in the store, and what was known of one is gone. -/
theorem isBare_applyPasted (s : Session) (dt : DataTemplate) : (s.applyPasted dt).IsBare :=
  ⟨rfl, rfl, rfl, rfl, rfl, rfl, rfl, rfl⟩

/-! ## Operations -/

/-- **After a load or a save that is accepted** there is a copy in the store. -/
theorem linked_of_isSync (h : Step s op es result s') (hsync : result.isSync = true) :
    ∃ id, s'.remoteId = some id := by
  cases result with
  | saved out =>
    cases settled_of_step h (isSave_of_saved h) with
    | nothing failed => rw [failed] at hsync; cases hsync
    | created _ _ _ kept => exact ⟨_, (eq_of_kept_eq kept).2.2.2.1⟩
    | @updated o before r id named revision presented hash linked _ _ _ kept =>
      refine ⟨id, (eq_of_kept_eq kept).2.2.2.1.trans ?_⟩
      exact (settlePasswords_linked s presented).2.trans linked
  | fetched out =>
    have hlinked : (Result.fetched out).linked? ≠ none := by
      intro hnone
      obtain e | summary | ticket | _ := out
      · cases hsync
      · cases hnone
      · cases hsync
      · cases hsync
    cases changed_of_step h with
    | loaded _ _ _ hid => exact ⟨_, hid⟩
    | created _ _ _ hid => exact ⟨_, hid⟩
    | kept hnone | reset hnone | secured _ _ hnone | answered _ _ _ hnone =>
      exact absurd hnone hlinked
  | _ => cases hsync

/-- **Every operation leaves a session without a copy bare.** -/
theorem unburdened_of_step (h : Step s op es result s') (hs : s.Unburdened) : s'.Unburdened := by
  cases hexchange : op.isExchange with
  | true =>
    cases hsync : result.isSync with
    | true =>
      obtain ⟨id, hid⟩ := linked_of_isSync h hsync
      exact .of_linked _ hid
    | false => exact hs.of_kept (kept_of_step h hexchange hsync)
  | false =>
    cases (acts_of_step h hexchange).2 with
    | edits hedits => exact hs.of_edited hedits.edited
    | pastes | confirms => exact fun _ => isBare_applyPasted s _
    | asks | notProtected => exact hs
    -- Passwords are to be set only where there is a copy.
    | @protects _ id linked => exact .of_linked id linked
    | invalid | begins => cases hexchange

/-- **An overwrite of another document** than the session has a copy of sends nothing and changes
nothing. -/
theorem step_overwrite_of_ne {o : Sync.Options} {id : String}
    (h : Step s (.overwrite o id) es result s') (hid : s.remoteId ≠ some id) :
    requests es result = [] ∧ s' = s := by
  obtain ⟨out, hd, rfl, rfl⟩ := exchanged_saved h
  rw [Sync.overwrite, if_pos hid] at hd
  obtain ⟨rfl, rfl⟩ := Dialogue.exchanged_done_iff.1 hd
  exact ⟨rfl, rfl⟩

/-- **A session leaves its copy in the store only for a new generation.** -/
theorem generation_lt_of_unlinked (h : Step s op es result s') (hlinked : s.remoteId ≠ none)
    (hunlinked : s'.remoteId = none) : s.generation < s'.generation := by
  cases changed_of_step h with
  | reset _ hgeneration => exact hgeneration
  | kept _ _ hid | secured _ _ _ _ hid | answered _ _ _ _ _ hid =>
    exact absurd (hid.symm.trans hunlinked) hlinked
  | loaded _ _ _ hid | created _ _ _ hid => cases hid.symm.trans hunlinked

/-- A creation goes where new documents go. -/
theorem path_of_create {o : Sync.Options} {r : Request} (h : Step s (.create o) es result s')
    (hr : r ∈ requests es result) : r.path = documentPath none := by
  obtain ⟨out, hd, rfl, -⟩ := exchanged_saved h
  obtain ⟨reply, rest, hes, hdone⟩ := Dialogue.exchanged_exchange_iff.1 hd
  obtain ⟨rfl, -⟩ := Dialogue.exchanged_done_iff.1 hdone
  obtain ⟨e, he, rfl⟩ := List.mem_map.1 (show r ∈ es.map (·.1) from hr)
  rw [hes] at he
  have hrequest : e.1 = Sync.writeRequest o s none := by rw [List.mem_singleton.1 he]
  rw [hrequest, Sync.path_writeRequest]

/-- **A new document is created without passwords.** -/
theorem header?_of_create {r : Request} (h : Step s op es result s') (hr : r ∈ requests es result)
    (hpath : r.path = documentPath none) {name : String} (hname : name ∈ Header.secrets) :
    r.header? name = none := by
  refine Request.header?_eq_none_of_secrets ?_ hname
  -- All requests with passwords go to a document that there is.
  cases sent_of_step h r hr with
  | bare _ secrets => exact secrets
  | linked _ path | opened _ _ path | answered _ _ _ _ path =>
    cases documentPath_injective (path.symm.trans hpath)

/-! ## What has been handed out -/

/-- **The generations of what has been handed out.** -/
def Handout.generations (h : Handout) : List Nat :=
  h.fetches.map (·.ticket.generation) ++ h.loads.map (·.generation) ++
    h.updates.map (·.ticket.generation)

/-- What an operation goes on with has been handed out. -/
theorem mem_generations_of_possible {h : Handout} {generation : Nat} (hpossible : op.Possible h)
    (hgeneration : op.generation? = some generation) : generation ∈ h.generations := by
  simp only [Handout.generations, List.mem_append, List.mem_map]
  cases op with
  | applyFetch p reply =>
    cases hgeneration
    exact .inl (.inl ⟨p, hpossible, rfl⟩)
  | fetchWithPassword t answer =>
    cases hgeneration
    exact .inl (.inr ⟨t, hpossible, rfl⟩)
  | resumeUpdate o p answer =>
    cases hgeneration
    exact .inr ⟨p, hpossible, rfl⟩
  | _ => cases hgeneration

/-- A question for the password of a load is of the generation that the session is left with. -/
theorem generation_of_asked {t : LoadTicket}
    (h : Step s op es (.fetched (.ok (.passwordRequired t))) s') :
    t.generation = s'.generation := by
  have hasked {x : Session} {p : Sync.PendingFetch} {reply : Reply}
      {out : Sync.Outcome Sync.FetchOutcome} (hout : Sync.Fetched x p reply out)
      (hasks : out.1 = .ok (.passwordRequired t)) : t.generation = out.2.generation := by
    cases hout with
    | asked current =>
      cases hasks
      exact current.symm
    | _ => cases hasks
  obtain ⟨out, hloads, hresult, rfl⟩ := loads_of_step h (isLoad_of_fetched h)
  have hasks : out.1 = .ok (.passwordRequired t) := (Result.fetched.inj hresult).symm
  cases hloads with
  | invalid | late | givenUp => cases hasks
  | applied | fetched | answered => exact hasked (Sync.fetched_applyFetch ..) hasks

/-- **What a call hands out** is of the generation that it leaves the session with. -/
theorem Call.mem_generations {c : Call} (h : c.Valid) {generation : Nat}
    (hmem : generation ∈ c.after.handout.generations) :
    generation ∈ c.before.handout.generations ∨ generation = c.session.generation := by
  obtain ⟨before, op, es, result, session⟩ := c
  have hstep : Step before.session op es result session := h.step
  simp only [Handout.generations, List.mem_append, List.mem_map, Call.after] at hmem ⊢
  obtain (⟨p, hp, rfl⟩ | ⟨t, ht, rfl⟩) | ⟨p, hp, rfl⟩ := hmem
  · obtain rfl | hp := Handout.mem_fetches_add.1 hp
    · exact .inr (Run.generation_of_begun h rfl).1
    · exact .inl (.inl (.inl ⟨p, hp, rfl⟩))
  · obtain rfl | ht := Handout.mem_loads_add.1 ht
    · exact .inr (generation_of_asked hstep)
    · exact .inl (.inl (.inr ⟨t, ht, rfl⟩))
  · obtain rfl | hp := Handout.mem_updates_add.1 hp
    · exact .inr (prompt_of_step hstep).1
    · exact .inl (.inr ⟨p, hp, rfl⟩)

/-! ## Runs -/

/-- **Where a run begins**: with a new session, and nothing handed out. -/
structure Stage.IsNew (stage : Stage) : Prop where
  session : stage.session.IsNew
  handout : stage.handout = {}

namespace Run

variable {start fin : Stage} {calls : List Call}

/-- **What has been handed out is of no later generation** than the session. -/
theorem generations_le (run : Run start calls fin) (hstart : start.handout = {}) :
    ∀ generation ∈ fin.handout.generations, generation ≤ fin.session.generation := by
  induction run with
  | nil =>
    rw [hstart]
    exact fun generation h => nomatch h
  | @snoc calls c _ valid ih =>
    intro generation hmem
    have hstep := generation_of_step valid.step
    obtain hmem | rfl := Call.mem_generations valid hmem
    · have := ih generation hmem
      show generation ≤ c.session.generation
      omega
    · exact Nat.le_refl _

/-- A run without a copy in the store ends bare. -/
theorem unburdened (run : Run start calls fin) (hstart : start.session.Unburdened) :
    fin.session.Unburdened :=
  run.preserves (P := fun stage => stage.session.Unburdened)
    (fun _ valid => unburdened_of_step valid.step) hstart

/-- **What belongs to a document that has been left comes too late.** -/
theorem isLate_of_unlinked {earlier later : List Call} {c x : Call}
    (run : Run start (earlier ++ c :: later) fin) (hstart : start.handout = {})
    (hlinked : c.before.session.remoteId ≠ none) (hunlinked : c.session.remoteId = none)
    (hx : x ∈ later) (hpossible : x.operation.Possible c.before.handout)
    (hgoesOn : x.operation.generation?.isSome = true) : x.isLate = true := by
  obtain ⟨hearlier, valid, hlater⟩ := run.cut
  obtain ⟨generation, hgeneration⟩ := Option.isSome_iff_exists.1 hgoesOn
  -- The session has begun a generation since, and none of them comes back.
  have hle := hearlier.generations_le hstart generation
    (mem_generations_of_possible hpossible hgeneration)
  have hlt := generation_lt_of_unlinked valid.step hlinked hunlinked
  obtain ⟨between, beyond, rfl⟩ := List.append_of_mem hx
  have hbetween := hlater.cut.1.generation_eq
  have hafter : c.after.session.generation = c.session.generation := rfl
  rw [Call.isLate, hgeneration, Option.any_some, decide_eq_true_eq]
  omega

/-- **An unsaved session carries nothing of a former document.** In a run that begins with a new
session, a session without a copy in the store knows nothing of one; a new document is created
without passwords; and after a document has been left, nothing that had been handed out until then
leads back to it: a fetch, a load or an update that is gone on with is discarded, and so is the
consent to overwrite a document that the session has no copy of. -/
theorem carries_nothing (run : Run start calls fin) (hstart : start.IsNew) :
    (fin.session.remoteId = none → fin.session.IsBare) ∧
    (∀ c ∈ calls, ∀ r ∈ c.sent, (∃ o, c.operation = .create o) ∨ r.path = documentPath none →
      ∀ name ∈ Header.secrets, r.header? name = none) ∧
    ∀ earlier c later, calls = earlier ++ c :: later → c.before.session.remoteId ≠ none →
      c.session.remoteId = none → ∀ x ∈ later,
        (x.operation.Possible c.before.handout ∧ x.operation.generation?.isSome = true) ∨
          (∃ o id, x.operation = .overwrite o id ∧ x.before.session.remoteId ≠ some id) →
        x.sent = [] ∧ x.session = x.before.session := by
  refine ⟨run.unburdened hstart.session.unburdened, fun c hc r hr hcreate name hname => ?_, ?_⟩
  · have hstep := (run.reached hc).1.step
    obtain ⟨o, hop⟩ | hpath := hcreate
    · exact header?_of_create hstep hr (path_of_create (hop ▸ hstep) hr) hname
    · exact header?_of_create hstep hr hpath hname
  · rintro earlier c later rfl hlinked hunlinked x hx hgoesOn
    have valid := (run.reached (List.mem_append_right _ (List.mem_cons_of_mem c hx))).1
    obtain ⟨hpossible, hgoesOn⟩ | ⟨o, id, hop, hid⟩ := hgoesOn
    · have hlate := run.isLate_of_unlinked hstart.handout hlinked hunlinked hx hpossible hgoesOn
      exact ⟨Call.sent_of_isLate valid hlate, (Call.discarded_of_isLate valid hlate).2.2⟩
    · have hstep := valid.step
      rw [hop] at hstep
      exact step_overwrite_of_ne hstep hid

end Run

/-- A session with a document that has a copy in the store. -/
def sharedSession : Session := linked (.single "a,b" "" "t") ⟨"A", 3, some "f00", true, none⟩ false

/-- A load of its document is under way when another document is pasted. It comes too late, and the
pasted document is created without passwords; since that fails, the session stays bare. -/
theorem Run.carries_nothing_sharedSession :
    ∃ begun pasted late created : Call, Stage.IsNew ⟨sharedSession, {}⟩ ∧
      Run ⟨sharedSession, {}⟩ [begun, pasted, late, created] created.after ∧
      created.session.remoteId = none ∧ created.session.IsBare ∧
      (∀ r ∈ created.sent, ∀ name ∈ Header.secrets, r.header? name = none) ∧
      late.sent = [] ∧ late.session = late.before.session := by
  let p : Sync.PendingFetch := ⟨⟨1, "A"⟩, none⟩
  let o : Sync.Options := ⟨1024, ⟨0, 0⟩⟩
  let begun : Call := .quiet ⟨sharedSession, {}⟩ (.beginFetch "A")
    (.started (.ok p), (sharedSession.beginLoad "A").2)
  let pasted : Call := .quiet begun.after (.paste (.single "" "" "mine"))
    (.pasted (.done ()), begun.session.applyPasted (.single "" "" "mine"))
  let late : Call := .quiet pasted.after (.applyFetch p (.ok ⟨200, "", none⟩))
    (.fetched (.ok .discarded), pasted.session)
  let created : Call :=
    ⟨late.after, .create o, [(Sync.writeRequest o late.session none, .error .timeout)],
      .saved (.error (.transport TransportError.timeout.message)),
      late.session.beginSave.2.markState late.session.beginSave.1 .failed⟩
  have hnew : Stage.IsNew ⟨sharedSession, {}⟩ := ⟨.linked _ _ _, rfl⟩
  have hid : DocumentId.isValid "A" = true := by decide
  have hbegin : Sync.beginFetch sharedSession "A" = .ok (p, (sharedSession.beginLoad "A").2) := by
    rw [Sync.beginFetch, if_pos hid]
    rfl
  -- The calls are valid in turn; only the last one sends a request, and it fails.
  have hfirst : begun.Valid :=
    Call.valid_quiet trivial (by rw [Operation.perform, hbegin]; rfl)
  have hbegun : Run ⟨sharedSession, {}⟩ ([] ++ [begun]) begun.after := Run.nil.snoc hfirst
  have hsecond : pasted.Valid := Call.valid_quiet trivial rfl
  have hpasted : Run ⟨sharedSession, {}⟩ ([begun] ++ [pasted]) pasted.after := hbegun.snoc hsecond
  have hlate : Run ⟨sharedSession, {}⟩ ([begun, pasted] ++ [late]) late.after :=
    hpasted.snoc (Call.valid_quiet (List.mem_singleton_self p) rfl)
  have hcreated : Run ⟨sharedSession, {}⟩ ([begun, pasted, late] ++ [created]) created.after :=
    hlate.snoc ⟨trivial, Dialogue.exchanged_map_iff.2 ⟨_, .exchange (.done _), rfl⟩⟩
  obtain ⟨hbare, hbarred, hlost⟩ := carries_nothing hcreated hnew
  refine ⟨begun, pasted, late, created, hnew, hcreated, rfl, hbare rfl, ?_, ?_⟩
  · exact fun r hr => hbarred created (by simp) r hr (.inl ⟨o, rfl⟩)
  · have hlinked : pasted.before.session.remoteId ≠ none := Option.some_ne_none "A"
    exact hlost [begun] pasted [late, created] rfl hlinked rfl late List.mem_cons_self
      (.inl ⟨List.mem_singleton_self p, rfl⟩)

end Session

end TemplateShare
