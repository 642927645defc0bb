import TemplateShare.Proofs.Session.Edit
import TemplateShare.Proofs.Session.Saved
import TemplateShare.Proofs.Store.Request

/-! # Writes without changes

An update of a session without changes sends nothing. An answer to the question of an earlier
update, and a conflict that the user has agreed to overwrite, are not held back in this way: both go
on from something that was handed out before, and what was to be saved may have been saved since.

* **`Session.writes_iff`** — when an operation writes to a document, for each operation.
* **`Session.dirty_of_step`** — when a session is marked as changed, for each operation.
* **`Session.AllSaved`** — all changes of a run have been saved, by its calls alone.
* **`Session.Run.writes_unchanged_iff`** — the calls that write a session without changes.
* **`Session.exists_unchanged_write`** — a run with such a call. -/

namespace TemplateShare

/-! ## Requests that write -/

/-- **A request that writes to a document** in the store. -/
def Request.Writes (r : Request) : Prop := r.method = .post ∧ ∃ id, r.path = documentPath (some id)

namespace Sync

/-- An update writes to a document. -/
theorem writes_updateRequest (o : Options) (s : Session) (id : String) (revision : Nat)
    (password : Option String) : (updateRequest o s id revision password).Writes :=
  ⟨method_updateRequest o s id revision password, id, path_updateRequest o s id revision password⟩

/-- A fetch writes nothing. -/
theorem not_writes_fetchRequest (id : String) (password : Option String) :
    ¬(fetchRequest id password).Writes := by
  rintro ⟨hmethod, -⟩
  rw [method_fetchRequest] at hmethod
  cases hmethod

/-- A creation writes to no document that there is. -/
theorem not_writes_writeRequest_none (o : Options) (s : Session) :
    ¬(writeRequest o s none).Writes := by
  rintro ⟨-, id, hpath⟩
  rw [path_writeRequest] at hpath
  cases documentPath_injective hpath

end Sync

namespace Session

variable {s s' : Session} {op : Operation} {es : List (Request × Reply)} {result : Result}
  {o : Sync.Options}

/-- **Operations that redeem** what was handed out before and go on with a save. -/
def Operation.redeems : Operation → Bool
  | .resumeUpdate .. | .overwrite .. => true
  | _ => false

/-! ## What a save does -/

/-- A look writes nothing. -/
theorem Looked.method_eq (h : Looked s op es) : ∀ e ∈ es, e.1.method = .get := by
  cases h with
  | nothing => exact fun e he => nomatch he
  | @document _ id =>
    intro e he
    rw [List.mem_singleton.1 he]
    exact Sync.method_fetchRequest id _

/-- Whether a save writes to a document. -/
theorem Saves.writes_iff {out : Sync.Outcome Sync.SaveOutcome} (h : Saves s op es out) :
    (∃ e ∈ es, e.1.Writes) ↔ op.writes s es = true := by
  cases h with
  | idle _ _ looked unwritten =>
    rw [unwritten]
    refine iff_of_false ?_ Bool.false_ne_true
    rintro ⟨e, he, hpost, -⟩
    rw [looked.method_eq e he] at hpost
    cases hpost
  | late stale => simp [Operation.writes, isCurrent, stale]
  | givenUp _ blank => simp [Operation.writes, blank]
  | unlinked _ _ unlinked => simp [Operation.writes, unlinked]
  | created creates =>
    obtain rfl | ⟨rfl, unlinked⟩ := creates
    · simp [Operation.writes, Sync.not_writes_writeRequest_none]
    · simp [Operation.writes, unlinked, Sync.not_writes_writeRequest_none]
  | begun look _ _ _ written =>
    refine iff_of_true ?_ (written _)
    exact ⟨_, List.mem_append_right _ (List.mem_singleton_self _), Sync.writes_updateRequest ..⟩
  | resumed current linked answered =>
    refine iff_of_true ⟨_, List.mem_singleton_self _, Sync.writes_updateRequest ..⟩ ?_
    simp [Operation.writes, isCurrent, current, linked, answered]

/-- A load writes nothing. -/
theorem Loads.not_writes {out : Sync.Outcome Sync.FetchOutcome} (h : Loads s op es out) :
    ¬∃ e ∈ es, e.1.Writes := by
  rintro ⟨e, he, hwrites⟩
  cases h with
  | invalid | late | givenUp | applied => cases he
  | fetched | answered =>
    rw [List.mem_singleton.1 he] at hwrites
    exact Sync.not_writes_fetchRequest _ _ hwrites

/-- **When an operation writes to a document.** -/
theorem writes_iff (h : Step s op es result s') :
    (∃ e ∈ es, e.1.Writes) ↔ op.writes s es = true := by
  cases performed_of_step h with
  | acts silent hacts =>
    subst silent
    refine iff_of_false (by simp) ?_
    cases hacts with
    | edits hedits => cases hedits <;> exact Bool.false_ne_true
    | _ => exact Bool.false_ne_true
  | loads load hloads =>
    refine iff_of_false hloads.not_writes ?_
    cases op <;> cases load <;> exact Bool.false_ne_true
  | saves _ hsaves => exact hsaves.writes_iff

/-- Without changes only what redeems something writes: a new update looks at the mark itself. -/
theorem redeems_of_writes (h : op.writes s es = true) (hclean : s.dirty = false) :
    op.redeems = true := by
  cases op with
  | update | save => simp [Operation.writes, hclean] at h
  | resumeUpdate | overwrite => rfl
  | _ => cases h

/-! ## Changes -/

/-- Whether an edit or a paste has been done. -/
def Result.isDone : Result → Bool
  | .edited (.ok _) | .removed (.ok (.done _)) | .pasted (.done _) => true
  | _ => false

/-- **Whether an operation marks the session as changed**, from what it is carried out on and what it
comes to. -/
def Operation.marks (s : Session) (result : Result) : Operation → Bool
  | .editData text => s.editor.data != text
  | .editVars text => s.editor.vars != text
  | .editTemplate text => s.template != text
  | .addDataset _ | .removeDataset _ | .confirmRemove _ | .protect _ | .paste _ => result.isDone
  | .confirmPaste _ => true
  | _ => false

/-- A reply that is applied and loads a document leaves nothing changed. -/
theorem dirty_of_loaded {p : Sync.PendingFetch} {reply : Reply}
    {out : Sync.Outcome Sync.FetchOutcome} (h : Sync.Fetched s p reply out)
    (hsync : (Result.fetched out.1).isSync = true) : out.2.dirty = false := by
  cases h with
  | loaded current =>
    unfold completeLoad
    rw [if_neg (not_not_intro current)]
  | asked | discarded | failed => cases hsync

/-- A load that comes to its end leaves nothing changed. -/
theorem Loads.dirty_eq {out : Sync.Outcome Sync.FetchOutcome} (h : Loads s op es out)
    (hsync : (Result.fetched out.1).isSync = true) : out.2.dirty = false := by
  cases h with
  | invalid | late | givenUp => cases hsync
  | applied | fetched | answered => exact dirty_of_loaded (Sync.fetched_applyFetch ..) hsync

/-- **A save that is accepted** leaves nothing changed. -/
theorem dirty_of_settled (h : Settled s es s' result) (hsync : result.isSync = true) :
    s'.dirty = false := by
  cases h with
  | nothing failed => cases failed.symm.trans hsync
  | created _ _ _ kept => exact (eq_of_kept_eq kept).2.2.2.2.1
  | updated _ _ _ _ kept => exact (eq_of_kept_eq kept).2.2.2.2.1

/-- A dataset that is removed is a change. -/
theorem dirty_removeNow (s : Session) (name : String) :
    (s.removeNow name).2.dirty = (s.dirty || (s.removeNow name).1.isOk) := by
  unfold removeNow
  by_cases hname : name = s.registry.activeName
  · simp only [if_pos hname]
    cases (s.registry.setActive s.editor).remove name with
    | error e => exact (Bool.or_false _).symm
    | ok x => exact (Bool.or_true _).symm
  · simp only [if_neg hname]
    cases s.registry.remove name with
    | error e => exact (Bool.or_false _).symm
    | ok x => exact (Bool.or_true _).symm

/-- **An edit marks what it changes**, apart from the dataset that is active. -/
theorem Edits.dirty_eq (h : Edits s op result s') :
    s'.dirty = (s.dirty || op.marks s result) := by
  cases h with
  | sameData same | sameVars same | sameTemplate same => simp [Operation.marks, same]
  | data new | vars new | template new => simp [Operation.marks, new]
  | added => exact (Bool.or_true _).symm
  | @removed name | @confirmed name =>
    rw [dirty_removeNow]
    cases hremoved : (s.removeNow name).1 <;> simp only [Operation.marks, Except.map] <;> rfl
  | notAdded | notSwitched | switched | unknown | last | asked => exact (Bool.or_false _).symm

/-- **What is done without the store** is marked if it changes the document or the passwords to set. -/
theorem Acts.dirty_eq (h : Acts s op result s') : s'.dirty = (s.dirty || op.marks s result) := by
  cases h with
  | edits hedits => exact hedits.dirty_eq
  | pastes | confirms | protects => exact (Bool.or_true _).symm
  | asks | notProtected | invalid | begins => exact (Bool.or_false _).symm

/-- What is done without the store brings the session in step with nothing. -/
theorem Acts.isSync_eq_false (h : Acts s op result s') : result.isSync = false := by
  cases h with
  | edits hedits => obtain ⟨x, rfl⟩ | ⟨x, rfl⟩ := hedits.result_eq <;> rfl
  | _ => rfl

/-- **When a session is marked as changed**: after a load or an accepted save it is not, and
otherwise it is if it was before or the operation marks it. -/
theorem dirty_of_step (h : Step s op es result s') :
    s'.dirty = (!result.isSync && (s.dirty || op.marks s result)) := by
  -- An exchange marks nothing, and what it leaves alone includes the mark.
  have hexchange (hop : op.isExchange = true) (haccepted : result.isSync = true → s'.dirty = false) :
      s'.dirty = (!result.isSync && (s.dirty || op.marks s result)) := by
    have hmarks : op.marks s result = false := by cases op <;> cases hop <;> rfl
    cases hsync : result.isSync with
    | true => exact haccepted hsync
    | false =>
      rw [hmarks, Bool.or_false]
      exact (eq_of_kept_eq (kept_of_step h hop hsync)).2.2.2.2.1
  cases performed_of_step h with
  | acts _ hacts =>
    rw [hacts.isSync_eq_false]
    exact hacts.dirty_eq
  | loads load hloads => exact hexchange (isExchange_of_isLoad load) hloads.dirty_eq
  | saves save =>
    exact hexchange (isExchange_of_isSave save) (dirty_of_settled (settled_of_step h save))

/-! ## Runs -/

/-- Whether a call marks the session as changed. -/
def Call.marks (c : Call) : Bool := c.operation.marks c.before.session c.result

/-- **All changes have been saved**: a call has loaded or saved the document, or nothing was changed
at the start, and no call has marked anything since. -/
def AllSaved (start : Stage) (calls : List Call) : Prop :=
  (∃ earlier c later, calls = earlier ++ c :: later ∧ c.result.isSync = true ∧
    ∀ x ∈ later, x.marks = false) ∨
  (start.session.dirty = false ∧ ∀ x ∈ calls, x.marks = false)

/-- **One call more**: it saves all, or all was saved and it marks nothing. -/
theorem allSaved_append_singleton {start : Stage} {calls : List Call} {c : Call} :
    AllSaved start (calls ++ [c]) ↔
      c.result.isSync = true ∨ (AllSaved start calls ∧ c.marks = false) := by
  constructor
  · rintro (⟨earlier, x, later, hcalls, hsync, hlater⟩ | ⟨hstart, hcalls⟩)
    · cases later using List.reverseRecOn with
      | nil =>
        obtain ⟨-, hlast⟩ := List.append_inj' hcalls rfl
        obtain rfl := List.singleton_inj.1 hlast
        exact .inl hsync
      | append_singleton later y =>
        rw [← List.cons_append, ← List.append_assoc] at hcalls
        obtain ⟨rfl, hlast⟩ := List.append_inj' hcalls rfl
        obtain rfl := List.singleton_inj.1 hlast
        have hmarks := hlater c (List.mem_append_right _ (List.mem_singleton_self c))
        have hearlier := fun z hz => hlater z (List.mem_append_left _ hz)
        exact .inr ⟨.inl ⟨earlier, x, later, rfl, hsync, hearlier⟩, hmarks⟩
    · have hmarks := hcalls c (List.mem_append_right _ (List.mem_singleton_self c))
      exact .inr ⟨.inr ⟨hstart, fun x hx => hcalls x (List.mem_append_left _ hx)⟩, hmarks⟩
  · rintro (hsync | ⟨⟨earlier, x, later, rfl, hsync, hlater⟩ | ⟨hstart, hcalls⟩, hmarks⟩)
    · exact .inl ⟨calls, c, [], rfl, hsync, fun x hx => nomatch hx⟩
    · refine .inl ⟨earlier, x, later ++ [c], by simp, hsync, ?_⟩
      simpa [or_imp, forall_and, hmarks] using hlater
    · refine .inr ⟨hstart, ?_⟩
      simpa [or_imp, forall_and, hmarks] using hcalls

namespace Run

variable {start fin : Stage} {calls earlier later : List Call} {c : Call}

/-- **A session is unchanged if and only if all changes of its run have been saved.** -/
theorem dirty_eq_false_iff (run : Run start calls fin) :
    fin.session.dirty = false ↔ AllSaved start calls := by
  induction run with
  | nil => simp [AllSaved]
  | @snoc calls c _ valid ih =>
    have hdirty : c.after.session.dirty =
        (!c.result.isSync && (c.before.session.dirty || c.marks)) := dirty_of_step valid.step
    rw [hdirty, allSaved_append_singleton, ← ih]
    cases c.result.isSync <;> simp

/-- **What writes a session without changes.** A call of a run writes to a document although the
session is not marked as changed, if and only if it redeems what was handed out before (an answer to
the question of an update that is still open, in a session with a copy in the store, or an overwrite
of the document that the session has a copy of, if that can be looked up) when all changes of the
run have been saved. -/
theorem writes_unchanged_iff (run : Run start (earlier ++ c :: later) fin) :
    ((∃ e ∈ c.exchanges, e.1.Writes) ∧ c.before.session.dirty = false) ↔
      c.operation.redeems = true ∧ c.operation.writes c.before.session c.exchanges = true ∧
        AllSaved start earlier := by
  obtain ⟨hearlier, hvalid, -⟩ := run.cut
  rw [writes_iff hvalid.step, hearlier.dirty_eq_false_iff]
  constructor
  · rintro ⟨hwrites, hsaved⟩
    have hclean := hearlier.dirty_eq_false_iff.2 hsaved
    exact ⟨redeems_of_writes hwrites hclean, hwrites, hsaved⟩
  · rintro ⟨-, hwrites, hsaved⟩
    exact ⟨hwrites, hsaved⟩

/-! ### An answer after the changes are saved -/

/-- A session that has created a document, which is then changed if there is a template. -/
def createdSession (template : String) : Session where
  template
  remoteId := some "doc1"
  contentHash := some "h"
  revision := 1
  dirty := template != ""
  state := .saved
  capabilities := ⟨true, true⟩
  location := some "doc1"
  updated := some ⟨0, 0⟩

/-- The same session while it is saved. -/
def askedSession : Session := { createdSession "t" with state := .saving }

/-- The same session once it is saved. -/
def updatedSession : Session :=
  { createdSession "t" with revision := 2, dirty := false }

/-- The surroundings of the saves. -/
def surroundings : Sync.Options := { now := ⟨0, 0⟩ }

/-- A document is created and changed, and the store wants a password for an update of it. -/
def askedOnce : List Call :=
  [⟨⟨{}, {}⟩, .create surroundings,
      [(Sync.writeRequest surroundings {} none, .ok ⟨200, "doc1:h", none⟩)],
      .saved (.ok (.created "doc1")), createdSession ""⟩,
    .quiet ⟨createdSession "", {}⟩ (.editTemplate "t") (.edited (.ok ()), createdSession "t"),
    ⟨⟨createdSession "t", {}⟩, .update surroundings,
      [(Sync.updateRequest surroundings askedSession "doc1" 2 none, .ok ⟨401, "", none⟩)],
      .saved (.ok (.passwordRequired ⟨⟨0, .saved⟩, 2, false⟩)), askedSession⟩]

/-- Then another update is accepted without a password. -/
def savedTwice : List Call := askedOnce ++
  [⟨⟨askedSession, { updates := [⟨⟨0, .saved⟩, 2, false⟩] }⟩, .update surroundings,
    [(Sync.updateRequest surroundings askedSession "doc1" 2 none, .ok ⟨200, "doc1:h", none⟩)],
    .saved (.ok (.updated "doc1" 2)), updatedSession⟩]

/-- The question of the first update is answered when all changes are saved. -/
def lateAnswer : Call :=
  ⟨⟨updatedSession, { updates := [⟨⟨0, .saved⟩, 2, false⟩] }⟩,
    .resumeUpdate surroundings ⟨⟨0, .saved⟩, 2, false⟩ (some "pw"),
    [(Sync.updateRequest surroundings updatedSession "doc1" 2 (some "pw"),
      .ok ⟨200, "doc1:h", none⟩)],
    .saved (.ok (.updated "doc1" 2)), { updatedSession with modifyPassword := some "pw" }⟩

/-- Up to the question, this is a run. -/
theorem run_askedOnce :
    Run ⟨{}, {}⟩ askedOnce ⟨askedSession, { updates := [⟨⟨0, .saved⟩, 2, false⟩] }⟩ := by
  refine cons_iff.2 ⟨rfl, ⟨trivial, .exchange (.done _)⟩, ?_⟩
  refine cons_iff.2 ⟨rfl, ⟨trivial, .done _⟩, ?_⟩
  refine cons_iff.2 ⟨rfl, ⟨trivial, .exchange (.done _)⟩, ?_⟩
  exact nil_iff.2 rfl

/-- And so it is up to the late answer. -/
theorem run_lateAnswer : Run ⟨{}, {}⟩ (savedTwice ++ [lateAnswer]) lateAnswer.after := by
  have hsaved : Run ⟨{}, {}⟩ savedTwice lateAnswer.before :=
    snoc_iff.2 ⟨run_askedOnce, ⟨trivial, .exchange (.done _)⟩, rfl⟩
  exact hsaved.snoc ⟨List.mem_singleton_self _, .exchange (.done _)⟩

/-- The answer writes to the document. -/
theorem writes_lateAnswer : ∃ e ∈ lateAnswer.exchanges, e.1.Writes :=
  ⟨_, List.mem_singleton_self _, Sync.writes_updateRequest _ _ _ _ _⟩

/-- The answer writes a session without changes, so that all changes of the run have been saved
before it. -/
theorem writes_unchanged_iff_lateAnswer : Run ⟨{}, {}⟩ (savedTwice ++ [lateAnswer]) lateAnswer.after ∧
    lateAnswer.operation.redeems = true ∧ AllSaved ⟨{}, {}⟩ savedTwice := by
  obtain ⟨hredeems, -, hsaved⟩ := (writes_unchanged_iff run_lateAnswer).1 ⟨writes_lateAnswer, rfl⟩
  exact ⟨run_lateAnswer, hredeems, hsaved⟩

end Run

/-- **A session without changes is written**: the run starts with a new session, and its last call
updates the document although nothing has changed since the update before. -/
theorem exists_unchanged_write :
    ∃ calls c fin, Run ⟨{}, {}⟩ (calls ++ [c]) fin ∧ (∃ e ∈ c.exchanges, e.1.Writes) ∧
      c.before.session.dirty = false ∧ c.result = .saved (.ok (.updated "doc1" 2)) :=
  ⟨_, _, _, Run.run_lateAnswer, Run.writes_lateAnswer, rfl, rfl⟩

end Session

end TemplateShare
