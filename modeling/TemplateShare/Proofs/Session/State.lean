import TemplateShare.Proofs.Session.Clean

/-! # Whether the state settles

A session is loading or saving while an operation is under way, and is to be in another state once
that is over. A load always settles. A save does not in two cases: an answer of success that cannot
be read is a fault that leaves the session saving, and an update that is begun while the question of
another one is open takes saving for the state to return to when its own question is given up.

* **`SyncState.isPending`** — loading and saving.
* **`Sync.isUnreadable`**, **`Session.writeReply?`** — what comes back for a write, and whether it can
  be read.
* **`Session.Operation.heldState`** — the state in which a save waits for that.
* **`Session.saving_iff`**, **`Session.isPending_of_load`** — one save, one load.
* **`Session.Run.settles_iff`** — the calls of a run.
* **`Session.exists_unsettled`** — runs that end in a session that is saving. -/

namespace TemplateShare

/-- **The states of an operation that is under way.** -/
def SyncState.isPending : SyncState → Bool
  | .loading | .saving => true
  | _ => false

/-- A state that is settled is not that of a save. -/
theorem SyncState.ne_saving {state : SyncState} (h : state.isPending = false) :
    state ≠ .saving := by
  rintro rfl
  cases h

/-- Whether an operation ends with a question for a password. -/
def Session.Result.asks : Result → Bool
  | .fetched (.ok (.passwordRequired _)) | .saved (.ok (.passwordRequired _)) => true
  | _ => false

namespace Sync

open Session

variable {o : Options} {s : Session} {t : SaveTicket} {reply : Reply} {r : Response}

/-! ## Replies -/

/-- **An answer of success that cannot be read.** -/
def isUnreadable : Reply → Bool
  | .ok r => r.status == 200 && !(parseAnswer r.body).isOk
  | .error _ => false

/-- A current ticket marks the state. -/
theorem state_markState (hcurrent : s.generation = t.generation) (state : SyncState) :
    (s.markState t state).state = state := by
  rw [markState, isCurrent, hcurrent, beq_self_eq_true, if_pos rfl]

/-- **A save that is refused settles.** -/
theorem isPending_refused (hcurrent : s.generation = t.generation) (r : Response)
    (id : Option String) : (refused s t r id).2.state.isPending = false := by
  unfold refused
  split <;>
  · dsimp only
    rw [state_markState hcurrent]
    rfl

/-- **A creation settles** unless its answer cannot be read. -/
theorem saving_applyCreate (hcurrent : s.generation = t.generation) (reply : Reply) :
    (applyCreate o s t reply).2.state = .saving ↔
      s.state = .saving ∧ isUnreadable reply = true := by
  unfold applyCreate isUnreadable
  cases reply with
  | error e => simp [state_markState hcurrent]
  | ok r =>
    dsimp only
    by_cases hstatus : r.status = 200
    · rw [if_pos hstatus]
      cases parseAnswer r.body with
      | error e => simp [hstatus, Except.isOk, Except.toBool]
      | ok x => simp [hstatus, Except.isOk, Except.toBool, isCurrent, hcurrent, completeCreate]
    · rw [if_neg hstatus]
      refine iff_of_false (SyncState.ne_saving (isPending_refused hcurrent r none)) ?_
      simp [hstatus]

/-- **An update that does not ask for a password settles** unless its answer cannot be read. -/
theorem saving_applyUpdate {id : String} {revision : Nat} {password : Option String}
    (hcurrent : s.generation = t.generation) (reply : Reply)
    (hasked : (Result.saved (applyUpdate o s t id revision password reply).1).asks = false) :
    (applyUpdate o s t id revision password reply).2.state = .saving ↔
      s.state = .saving ∧ isUnreadable reply = true := by
  unfold applyUpdate at hasked ⊢
  unfold isUnreadable
  cases reply with
  | error e => simp [state_markState hcurrent]
  | ok r =>
    dsimp only at hasked ⊢
    split
    · next hstatus =>
      cases parseAnswer r.body with
      | error e => simp [hstatus, Except.isOk, Except.toBool]
      | ok x => simp [hstatus, Except.isOk, Except.toBool, isCurrent, hcurrent, completeUpdate]
    · next hstatus =>
      simp [hstatus, Result.asks] at hasked
    · next hstatus _ =>
      refine iff_of_false (SyncState.ne_saving (isPending_refused hcurrent r (some id))) ?_
      rintro ⟨-, hunreadable⟩
      rw [Bool.and_eq_true, beq_iff_eq] at hunreadable
      exact hstatus hunreadable.1

/-- **The reply to a fetch settles the load**, unless it asks for a password or comes too late: then
the session stays as it is. -/
theorem isPending_applyFetch (s : Session) (p : PendingFetch) (reply : Reply) :
    (applyFetch s p reply).2.state.isPending = false ∨
      ((Result.fetched (applyFetch s p reply).1).asks = true ∨
        (applyFetch s p reply).1 = .ok .discarded) ∧ (applyFetch s p reply).2 = s := by
  have habort (hcurrent : s.generation = p.ticket.generation) (state : SyncState) :
      (s.abortLoad p.ticket state).state = state := by
    rw [abortLoad, if_neg (not_not_intro hcurrent)]
  unfold applyFetch
  by_cases hcurrent : s.generation = p.ticket.generation
  · rw [if_neg (not_not_intro hcurrent)]
    cases reply with
    | error e => exact .inl (by rw [habort hcurrent]; rfl)
    | ok r =>
      dsimp only
      split
      · split
        · exact .inl (by rw [habort hcurrent]; rfl)
        · refine .inl ?_
          rw [completeLoad, if_neg (not_not_intro hcurrent)]
          rfl
      · split
        · exact .inr ⟨.inl rfl, rfl⟩
        · exact .inl (by rw [habort hcurrent]; rfl)
      · exact .inl (by rw [habort hcurrent]; rfl)
      · exact .inl (by rw [habort hcurrent]; rfl)
      · exact .inl (by rw [habort hcurrent]; rfl)
  · rw [if_pos hcurrent]
    exact .inr ⟨.inr rfl, rfl⟩

end Sync

namespace Session

variable {s s' : Session} {op : Operation} {es : List (Request × Reply)} {result : Result}
  {o : Sync.Options}

/-! ## Saves -/

/-- **The reply to what was written**, if anything was. -/
def writeReply? (es : List (Request × Reply)) : Option Reply :=
  (es.find? fun e => e.1.method == .post).map (·.2)

/-- Whether the question of an update has been given up. -/
def Result.isNotUpdated : Result → Bool
  | .saved (.ok .notUpdated) => true
  | _ => false

/-- **The state to return to** if the question of a save is given up: that in which the save was
begun. -/
def Operation.returnsTo (s : Session) : Operation → SyncState
  | .resumeUpdate _ p _ => p.ticket.prior
  | _ => s.state

/-- **The state in which a save waits for the reply to what it writes**, or which it leaves if it
writes nothing. A save that is begun is saving; an answer to a question goes on as it finds the
session, and one that gives up returns to the state before. -/
def Operation.heldState (s : Session) (es : List (Request × Reply)) (result : Result) :
    Operation → SyncState
  | .resumeUpdate _ p _ => if result.isNotUpdated then p.ticket.prior else s.state
  | _ => if (writeReply? es).isSome then .saving else s.state

/-- Requests that only look write nothing. -/
theorem writeReply?_eq_none (hlooked : ∀ e ∈ es, e.1.method = .get) : writeReply? es = none := by
  rw [writeReply?, Option.map_eq_none_iff, List.find?_eq_none]
  intro e he
  rw [hlooked e he]
  decide

/-- The reply to what was written after a look is that of the write. -/
theorem writeReply?_append {e : Request × Reply} (hlooked : ∀ e ∈ es, e.1.method = .get)
    (hwritten : e.1.method = .post) : writeReply? (es ++ [e]) = some e.2 := by
  have hnone : es.find? (fun e => e.1.method == .post) = none :=
    Option.map_eq_none_iff.1 (writeReply?_eq_none hlooked)
  simp [writeReply?, List.find?_append, hnone, hwritten]

/-- A save that is no answer to a question waits at saving once it has written. -/
theorem heldState_of_begins (hbegins : ∀ o p answer, op ≠ .resumeUpdate o p answer) :
    op.heldState s es result = if (writeReply? es).isSome then .saving else s.state := by
  cases op with
  | resumeUpdate o p answer => exact absurd rfl (hbegins o p answer)
  | _ => rfl

/-- An update that is sent does not give up a question. -/
theorem isNotUpdated_of_updated {t : SaveTicket} {id : String} {revision : Nat}
    {password : Option String} {reply : Reply} {out : Sync.Outcome Sync.SaveOutcome}
    (h : Sync.Updated o s t id revision password reply out) :
    (Result.saved out.1).isNotUpdated = false := by
  cases h <;> rfl

/-- **When a save leaves the session saving**: it waits in that state, and what it has written, if
anything, has no answer that can be read. -/
theorem saving_iff (h : Step s op es result s') (hop : op.isSave = true)
    (hasked : result.asks = false) :
    s'.state = .saving ↔ op.heldState s es result = .saving ∧
      ∀ reply, writeReply? es = some reply → Sync.isUnreadable reply = true := by
  obtain ⟨out, hsaves, rfl, rfl⟩ := saves_of_step h hop
  cases hsaves with
  | idle begins _ looked _ =>
    rw [heldState_of_begins begins, writeReply?_eq_none looked.method_eq]
    simp
  | late => simp [Operation.heldState, Result.isNotUpdated, writeReply?]
  | givenUp current _ =>
    rw [Sync.state_markState current]
    simp [Operation.heldState, Result.isNotUpdated, writeReply?]
  | unlinked => simp [Operation.heldState, Result.isNotUpdated, writeReply?]
  | @created op o reply creates =>
    have hreply : writeReply? [(Sync.writeRequest o s none, reply)] = some reply := by
      simp [writeReply?]
    rw [heldState_of_begins (begins_of_creates creates), hreply,
      Sync.saving_applyCreate rfl reply]
    simp [beginSave]
  | begun look updates _ looked _ =>
    rw [heldState_of_begins (begins_of_updates updates),
      writeReply?_append looked.method_eq (Sync.method_updateRequest ..),
      Sync.saving_applyUpdate rfl _ hasked]
    simp [beginSave]
  | @resumed o p answer password id reply current _ _ =>
    have hkept := isNotUpdated_of_updated
      (Sync.updated_applyUpdate o s p.ticket id p.revision (some password) reply)
    rw [Sync.saving_applyUpdate current reply hasked, Operation.heldState, hkept]
    simp [writeReply?]

/-- **The state to return to** is handed out with the question of a save. -/
theorem prior_of_asked {p : Sync.UpdatePrompt}
    (h : Step s op es (.saved (.ok (.passwordRequired p))) s') :
    p.ticket.prior = op.returnsTo s := by
  obtain ⟨out, hsaves, hout, -⟩ := saves_of_step h (isSave_of_saved h)
  obtain ⟨-, ⟨hbegins, hticket, -⟩ | ⟨o, q, answer, rfl, -, hticket, -⟩⟩ :=
    hsaves.asked (Result.saved.inj hout).symm
  · rw [hticket]
    cases op with
    | resumeUpdate o q answer => exact absurd rfl (hbegins o q answer)
    | _ => rfl
  · rw [hticket]
    rfl

/-! ## Loads -/

/-- Whether an operation comes too late. -/
def Result.isDiscarded : Result → Bool
  | .fetched (.ok .discarded) | .saved (.ok .discarded) => true
  | _ => false

/-- **What completes a load**: a reply that is applied to the session or to one that is loading, a
question that is given up, or nothing, if the load comes too late or its id is not valid. -/
theorem applied_of_load (h : Step s op es result s') (hop : op.isLoad = true) :
    (∃ s₀ p reply, (s₀ = s ∨ s₀.state = .loading) ∧
      result = .fetched (Sync.applyFetch s₀ p reply).1 ∧ s' = (Sync.applyFetch s₀ p reply).2) ∨
    s'.state = .accessDenied ∨ (result.isDiscarded = true ∧ s' = s) ∨
    ∃ id, op = .fetch id ∧ DocumentId.isValid id = false ∧ s' = s := by
  obtain ⟨out, hloads, rfl, rfl⟩ := loads_of_step h hop
  cases hloads with
  | @invalid id invalid => exact .inr (.inr (.inr ⟨id, rfl, invalid, rfl⟩))
  | late => exact .inr (.inr (.inl ⟨rfl, rfl⟩))
  | givenUp current =>
    refine .inr (.inl ?_)
    rw [abortLoad, if_neg (not_not_intro current)]
  | applied p reply => exact .inl ⟨s, p, reply, .inl rfl, rfl, rfl⟩
  | fetched reply => exact .inl ⟨_, _, reply, .inr rfl, rfl, rfl⟩
  | answered reply => exact .inl ⟨s, _, reply, .inl rfl, rfl, rfl⟩

/-- **A load settles**, unless it asks for a password or comes too late. A fetch whose id is not valid
is no load, and changes nothing. -/
theorem isPending_of_load (h : Step s op es result s') (hop : op.isLoad = true)
    (hasked : result.asks = false) (hdiscarded : result.isDiscarded = false) :
    s'.state.isPending = false ∨ ∃ id, op = .fetch id ∧ DocumentId.isValid id = false ∧ s' = s := by
  obtain ⟨s₀, p, reply, -, rfl, rfl⟩ | hdenied | ⟨hlate, -⟩ | hinvalid := applied_of_load h hop
  · obtain hsettled | ⟨hopen | hlate, -⟩ := Sync.isPending_applyFetch s₀ p reply
    · exact .inl hsettled
    · rw [hopen] at hasked
      cases hasked
    · rw [hlate] at hdiscarded
      cases hdiscarded
  · rw [hdenied]
    exact .inl rfl
  · rw [hlate] at hdiscarded
    cases hdiscarded
  · exact .inr hinvalid

/-! ## Other operations -/

/-- An edit leaves the state. -/
theorem Edited.state (h : Edited s s') : s'.state = s.state := by
  rw [h]

/-- **Only a save begins to be saving.** -/
theorem saving_of_step (h : Step s op es result s') (hop : op.isSave = false)
    (hsaving : s'.state = .saving) : s.state = .saving := by
  cases performed_of_step h with
  | acts _ hacts =>
    cases hacts with
    | edits hedits => exact hedits.edited.state ▸ hsaving
    | pastes | confirms | begins => cases hsaving
    | asks | notProtected | protects | invalid => exact hsaving
  | loads load =>
    obtain ⟨s₀, p, reply, hs₀, -, hout⟩ | hdenied | ⟨-, hsame⟩ | ⟨id, -, -, hsame⟩ :=
      applied_of_load h load
    · rw [hout] at hsaving
      obtain hsettled | ⟨-, hsame⟩ := Sync.isPending_applyFetch s₀ p reply
      · exact absurd hsaving (SyncState.ne_saving hsettled)
      · rw [hsame] at hsaving
        obtain rfl | hloading := hs₀
        · exact hsaving
        · cases hloading.symm.trans hsaving
    · cases hdenied.symm.trans hsaving
    · exact hsame ▸ hsaving
    · exact hsame ▸ hsaving
  | saves save => cases save.symm.trans hop

/-! ## Runs -/

/-- **Whether a call leaves a save open**: it asks for a password, or the answer to what it writes
cannot be read. -/
def Call.leavesOpen (c : Call) : Bool :=
  c.operation.isSave && (c.result.asks || (writeReply? c.exchanges).any Sync.isUnreadable)

/-- **A stage without a save under way**: the session is not saving, and no question of an update is
open. -/
structure Stage.Calm (stage : Stage) : Prop where
  state : stage.session.state ≠ .saving
  updates : stage.handout.updates = []

/-- A save that writes nothing waits in the state that it finds, unless it gives up a question. -/
theorem state_of_heldState (hnone : writeReply? es = none)
    (hheld : op.heldState s es result = .saving) :
    s.state = .saving ∨ ∃ o p answer, op = .resumeUpdate o p answer := by
  cases op with
  | resumeUpdate o p answer => exact .inr ⟨o, p, answer, rfl⟩
  | _ =>
    refine .inl ?_
    simpa [Operation.heldState, hnone] using hheld

/-- **A call that leaves no save open** goes on without one. -/
theorem Stage.Calm.after {c : Call} (hbefore : c.before.Calm) (h : c.Valid)
    (hopen : c.leavesOpen = false) : c.after.Calm := by
  rw [Call.leavesOpen, Bool.and_eq_false_imp] at hopen
  constructor
  · intro hsaving
    have hsaving : c.session.state = .saving := hsaving
    cases hop : c.operation.isSave with
    | false => exact hbefore.state (saving_of_step h.step hop hsaving)
    | true =>
      -- A save that asks nothing and whose answer can be read ends in another state.
      obtain ⟨hasked, hreadable⟩ := Bool.or_eq_false_iff.1 (hopen hop)
      obtain ⟨hheld, hunreadable⟩ := (saving_iff h.step hop hasked).1 hsaving
      cases hreply : writeReply? c.exchanges with
      | some reply =>
        rw [hreply, Option.any_some, hunreadable reply hreply] at hreadable
        cases hreadable
      | none =>
        obtain hstate | ⟨o, p, answer, hresume⟩ := state_of_heldState hreply hheld
        · exact hbefore.state hstate
        · -- No question has been handed out that could be given up.
          have hpossible := h.possible
          rw [hresume, Operation.Possible, hbefore.updates] at hpossible
          cases hpossible
  · rw [List.eq_nil_iff_forall_not_mem]
    intro p hp
    obtain hresult | hp := Handout.mem_updates_add.1 hp
    · have hstep := h.step
      rw [hresult] at hstep
      have hasked := (Bool.or_eq_false_iff.1 (hopen (isSave_of_saved hstep))).1
      rw [hresult] at hasked
      cases hasked
    · rw [hbefore.updates] at hp
      cases hp

namespace Run

variable {start fin : Stage} {calls earlier later : List Call} {c : Call}

/-- A run that leaves no save open goes on without one. -/
theorem calm (run : Run start calls fin) (hstart : start.Calm)
    (hopen : ∀ c ∈ calls, c.leavesOpen = false) : fin.Calm := by
  induction run with
  | nil => exact hstart
  | snoc _ valid ih =>
    have hbefore := ih fun x hx => hopen x (List.mem_append_left _ hx)
    exact hbefore.after valid (hopen _ (List.mem_append_right _ (List.mem_singleton_self _)))

/-- **When the state settles.** After a save of a run that does not ask for a password, the session
is saving if and only if the save waits in that state and what it has written, if anything, has no
answer that can be read; the state that a question returns to is that in which its save was begun.
After a load that neither asks for a password nor comes too late, the session is neither loading nor
saving, unless the id is not valid and the session is as it was. And a session in which no save is
under way at the start is saving only after a call that leaves one open. -/
theorem settles_iff (run : Run start (earlier ++ c :: later) fin) :
    (c.operation.isSave = true → c.result.asks = false →
      (c.session.state = .saving ↔
        c.operation.heldState c.before.session c.exchanges c.result = .saving ∧
          ∀ reply, writeReply? c.exchanges = some reply → Sync.isUnreadable reply = true)) ∧
    (∀ p, c.result = .saved (.ok (.passwordRequired p)) →
      p.ticket.prior = c.operation.returnsTo c.before.session) ∧
    (c.operation.isLoad = true → c.result.asks = false → c.result.isDiscarded = false →
      c.session.state.isPending = false ∨ ∃ id, c.operation = .fetch id ∧
        DocumentId.isValid id = false ∧ c.session = c.before.session) ∧
    (start.Calm → c.session.state = .saving → ∃ x ∈ earlier ++ [c], x.leavesOpen = true) := by
  obtain ⟨hearlier, hvalid, -⟩ := run.cut
  refine ⟨saving_iff hvalid.step, ?_, isPending_of_load hvalid.step, ?_⟩
  · intro p hp
    have hstep := hvalid.step
    rw [hp] at hstep
    exact prior_of_asked hstep
  · intro hstart hsaving
    apply Classical.byContradiction
    intro hnone
    have hopen : ∀ x ∈ earlier ++ [c], x.leavesOpen = false := by
      intro x hx
      rw [Bool.eq_false_iff]
      exact fun h => hnone ⟨x, hx, h⟩
    exact ((hearlier.snoc hvalid).calm hstart hopen).state hsaving

/-! ### Saves that do not settle -/

/-- A creation whose answer names no document. -/
def unreadableCreate : Call :=
  ⟨⟨{}, {}⟩, .create surroundings,
    [(Sync.writeRequest surroundings {} none, .ok ⟨200, "", none⟩)],
    .saved (.error (.validation (.invalidRemoteId ""))), { state := .saving }⟩

/-- This is a run. -/
theorem run_unreadableCreate : Run ⟨{}, {}⟩ [unreadableCreate] unreadableCreate.after :=
  cons_iff.2 ⟨rfl, ⟨trivial, .exchange (.done _)⟩, nil_iff.2 rfl⟩

/-- The creation waits for its answer, which cannot be read: it leaves the session saving. -/
theorem settles_iff_unreadableCreate :
    Run ⟨{}, {}⟩ [unreadableCreate] unreadableCreate.after ∧ unreadableCreate.result.asks = false ∧
      unreadableCreate.session.state = .saving := by
  have hrun : Run ⟨{}, {}⟩ ([] ++ [unreadableCreate]) unreadableCreate.after := run_unreadableCreate
  have hreply : writeReply? unreadableCreate.exchanges = some (.ok ⟨200, "", none⟩) := by
    simp [unreadableCreate, writeReply?]
  refine ⟨hrun, rfl, ((settles_iff hrun).1 rfl rfl).2 ⟨?_, ?_⟩⟩
  · have hheld : (if (writeReply? unreadableCreate.exchanges).isSome then .saving
        else SyncState.unsaved) = .saving := by
      rw [hreply]
      rfl
    exact hheld
  · intro reply h
    rw [hreply] at h
    cases h
    rfl

/-- An update is asked about while the question of another one is open. -/
def askedAgain : Call :=
  ⟨⟨askedSession, { updates := [⟨⟨0, .saved⟩, 2, false⟩] }⟩, .update surroundings,
    [(Sync.updateRequest surroundings askedSession "doc1" 2 none, .ok ⟨401, "", none⟩)],
    .saved (.ok (.passwordRequired ⟨⟨0, .saving⟩, 2, false⟩)), askedSession⟩

/-- Its question is given up. -/
def givenUp : Call :=
  .quiet askedAgain.after (.resumeUpdate surroundings ⟨⟨0, .saving⟩, 2, false⟩ none)
    (.saved (.ok .notUpdated), askedSession)

/-- This is a run. -/
theorem run_givenUp : Run ⟨{}, {}⟩ (askedOnce ++ [askedAgain] ++ [givenUp]) givenUp.after := by
  have hasked : Run ⟨{}, {}⟩ (askedOnce ++ [askedAgain]) askedAgain.after :=
    run_askedOnce.snoc ⟨trivial, .exchange (.done _)⟩
  exact hasked.snoc ⟨List.mem_cons_self, .done _⟩

end Run

/-- **States that do not settle**: a creation that ends with a fault because its answer cannot be
read, and an update that is given up after it was begun while another one was open, each leave the
session saving. -/
theorem exists_unsettled :
    (∃ c fin, Run ⟨{}, {}⟩ [c] fin ∧ c.operation.isSave = true ∧
      c.result = .saved (.error (.validation (.invalidRemoteId ""))) ∧
      c.session.state = .saving) ∧
    ∃ calls c fin, Run ⟨{}, {}⟩ (calls ++ [c]) fin ∧ c.result = .saved (.ok .notUpdated) ∧
      c.session.state = .saving :=
  ⟨⟨_, _, Run.run_unreadableCreate, rfl, rfl, rfl⟩, _, _, _, Run.run_givenUp, rfl, rfl⟩

end Session

end TemplateShare
