import TemplateShare.Proofs.Command.Covered
import TemplateShare.Proofs.Command.Run
import TemplateShare.Proofs.Session.Saved
import TemplateShare.Proofs.Store.Gate

/-! # What a command comes to

A command over files and a store, with a user whose answers are settled, comes to one end. It is found
part by part: an exchange with a store without faults, a save with its questions, and a push.

* **`User`**, **`Dialogue.Replies.settled`** — who replies.
* **`Procedure.run_bind_ok`**, **`Procedure.run_bind_error`** — procedures in parts.
* **`Procedure.ends_of_run`** — a way to the end that a procedure comes to.
* **`Sync.run_sendUpdate_accepted`**, **`Sync.run_sendUpdate_asked`**,
  **`Sync.run_sendUpdate_conflict`** — what an update comes to.
* **`Sync.run_overwrite`**, **`Sync.run_overwrite_unreadable`** — what overwriting comes to.
* **`Command.run_saveWithPrompt`** — what an answer to a question comes to.
* **`Command.run_push_saved`**, **`Command.run_push_overwritten`** — the two ways of a push to its
  end. -/

namespace TemplateShare

/-! ## Who replies -/

/-- **A user whose answers are settled**: what they give for a password, and what they agree to. -/
structure User where
  password : String → Option String
  agrees : String → Bool

/-- **Files, a store and a user that reply.** Each request may find the store in another setting. -/
def Dialogue.Replies.settled (envs : Nat → Store.Setting) (u : User) : Replies Surroundings where
  exchange r σ :=
    ((σ.store.send (envs σ.store.requests.length) r).1,
      { σ with store := (σ.store.send (envs σ.store.requests.length) r).2 })
  askPassword q σ := (u.password q, σ)
  confirm q σ := (u.agrees q, σ)
  loadFile path σ := (σ.files.load path, σ)
  saveFile path content σ :=
    ((σ.files.write path content).1, { σ with files := (σ.files.write path content).2 })

/-- The surroundings in which the store has noted a request. -/
def Surroundings.noted (r : Request) (σ : Surroundings) : Surroundings :=
  { σ with store := σ.store.noted r }

/-- The surroundings with a document in the store. -/
def Surroundings.put (id : String) (d : Store.Document) (σ : Surroundings) : Surroundings :=
  { σ with store := σ.store.put id d }

/-! ## Procedures in parts -/

namespace Procedure

variable {α β τ : Type} {w : Dialogue.Replies τ} {s s' : τ}

/-- **What a procedure comes to**: a value or a fault, and the state after it. -/
def run (w : Dialogue.Replies τ) (x : Procedure α) (s : τ) : Except Error α × τ :=
  Dialogue.run w (x : Dialogue (Except Error α)) s

/-- A procedure goes on with the value of its first part. -/
theorem run_bind_ok {x : Procedure α} {a : α} (h : x.run w s = (.ok a, s')) (f : α → Procedure β) :
    (x >>= f).run w s = (f a).run w s' := by
  refine (Dialogue.run_bind w (x : Dialogue (Except Error α)) _ s).trans ?_
  rw [show Dialogue.run w (x : Dialogue (Except Error α)) s = _ from h]
  rfl

/-- A procedure ends with the fault of its first part. -/
theorem run_bind_error {x : Procedure α} {e : Error} (h : x.run w s = (.error e, s'))
    (f : α → Procedure β) : (x >>= f).run w s = (.error e, s') := by
  refine (Dialogue.run_bind w (x : Dialogue (Except Error α)) _ s).trans ?_
  rw [show Dialogue.run w (x : Dialogue (Except Error α)) s = _ from h]
  rfl

/-- What is settled is a value or a fault, and nothing else happens. -/
theorem run_settle (x : Except Error α) : (Command.settle x).run w s = (x, s) := rfl

/-- A dialogue as a procedure comes to a value. -/
theorem run_perform {d : Dialogue α} {a : α} (h : d.run w s = (a, s')) :
    (Command.perform d).run w s = (.ok a, s') := by
  refine (Dialogue.run_bind w d _ s).trans ?_
  rw [h]
  rfl

end Procedure

/-! ## Ways to an end -/

section Ends

variable {α : Type} {agrees : String → Bool → Prop} {envs : Nat → Store.Setting} {u : User}
  (hids : ∀ k n, DocumentId.isValid ((envs k).idAt n) = true) (hagrees : ∀ q, agrees q (u.agrees q))

include hids hagrees

/-- **A dialogue with settled replies goes on to what it comes to.** -/
theorem Dialogue.runs_run (σ : Surroundings) (d : Dialogue α) :
    Runs agrees σ d (d.run (.settled envs u) σ).2 (.done (d.run (.settled envs u) σ).1) := by
  induction d generalizing σ with
  | done a => exact .refl _ _
  | exchange r next ih => exact .exchange (hids _) (ih _ _)
  | askPassword q next ih => exact .askPassword _ (ih _ _)
  | confirm q next ih => exact .confirm (hagrees q) (ih _ _)
  | loadFile path next ih => exact .loadFile (ih _ _)
  | saveFile path content next ih => exact .saveFile (ih _ _)

/-- **A procedure with settled replies ends** with what it comes to. -/
theorem Procedure.ends_of_run {x : Procedure α} {σ σ' : Surroundings} {r : Except Error α}
    (h : x.run (.settled envs u) σ = (r, σ')) : Ends agrees σ x σ' r := by
  have hruns := Dialogue.runs_run hids hagrees σ (x : Dialogue (Except Error α))
  rwa [show Dialogue.run _ (x : Dialogue (Except Error α)) σ = _ from h] at hruns

end Ends

/-! ## Exchanges with the store -/

/-- An exchange goes on with what the store replies. -/
theorem Dialogue.run_exchange {α : Type} {envs : Nat → Store.Setting} {u : User} {σ : Surroundings}
    {r : Request} {reply : Reply} {store : Store}
    (h : σ.store.send (envs σ.store.requests.length) r = (reply, store)) (next : Reply → Dialogue α) :
    (exchange r next).run (.settled envs u) σ = (next reply).run (.settled envs u) { σ with store } := by
  show (next (σ.store.send _ r).1).run _ { σ with store := (σ.store.send _ r).2 } = _
  rw [h]

namespace Sync

open Store

variable {envs : Nat → Setting} {u : User} {σ : Surroundings} {o : Options} {s : Session}
  {t : Session.SaveTicket} {id : String} {revision : Nat} {presented : Option String} {d : Document}

/-- What an update comes to is what its reply is applied to. -/
theorem run_sendUpdate (hid : s.remoteId = some id) {reply : Reply} {store : Store}
    (h : σ.store.send (envs σ.store.requests.length) (updateRequest o s id revision presented) =
      (reply, store)) :
    (sendUpdate o s t revision presented).run (.settled envs u) σ =
      (applyUpdate o s t id revision presented reply, { σ with store }) := by
  rw [sendUpdate_eq hid, Dialogue.run_exchange h]
  rfl

/-- The revision of a document that is handed out and read. -/
theorem heldRevision_of_parse {r : Response} {x : RemoteDocument} (success : r.status = 200)
    (read : RemoteDocument.parse r.body = .ok x) :
    heldRevision id (.ok r) = .ok (x.revision.getD 1) := by
  rw [heldRevision]
  simp only [success, read]

/-- There is none if the document cannot be read. -/
theorem heldRevision_of_unreadable {r : Response} {e : EncodingError} (success : r.status = 200)
    (unread : RemoteDocument.parse r.body = .error e) :
    heldRevision id (.ok r) = .error (.encoding e) := by
  rw [heldRevision]
  simp only [success, unread]

section Update

variable (hid : DocumentId.isValid id = true) (hlinked : s.remoteId = some id)
  (hs : s.registry.WellFormed) (hrevision : revision < Nat.pow 2 64) (hfaults : σ.store.faults = [])
  (hd : σ.store.get? id = some d)

include hid hlinked hs hrevision hfaults hd

/-- **An update to a later revision with a password that fits is accepted.** -/
theorem run_sendUpdate_accepted (hcurrent : s.isCurrent t.generation = true)
    (hadmits : d.admits id presented = true) (hlater : d.revision < revision) :
    (sendUpdate o s t revision presented).run (.settled envs u) σ =
      ((.ok (.updated id revision), s.completeUpdate revision
          (some (RemoteDocument.hashOf s.snapshot.sent revision)) presented o.now),
        (σ.noted (updateRequest o s id revision presented)).put id
          (updatedDocument (envs σ.store.requests.length) id s revision d)) := by
  rw [run_sendUpdate hlinked
    (send_updateRequest_accepted hfaults hid _ o hs hrevision hd hadmits hlater),
    applyUpdate_accepted hcurrent rfl (parseAnswer_updateAnswer hid _ hs revision d)]
  rfl

/-- **An update without a password that fits ends with a question.** -/
theorem run_sendUpdate_asked (hadmits : d.admits id presented = false) :
    (sendUpdate o s t revision presented).run (.settled envs u) σ =
      ((.ok (.passwordRequired ⟨t, revision, presented.isSome⟩), s),
        σ.noted (updateRequest o s id revision presented)) := by
  rw [run_sendUpdate hlinked
    (send_updateRequest_unauthorized hfaults hid _ o hs hrevision hd hadmits),
    applyUpdate_asked rfl]
  rfl

/-- **An update with a password that fits, but not to a later revision, ends with a conflict.** -/
theorem run_sendUpdate_conflict (hadmits : d.admits id presented = true)
    (hlater : revision ≤ d.revision) :
    (sendUpdate o s t revision presented).run (.settled envs u) σ =
      ((.error (.conflict s.revision), s.markState t .conflict),
        σ.noted (updateRequest o s id revision presented)) := by
  rw [run_sendUpdate hlinked
    (send_updateRequest_conflict hfaults hid _ o hs hrevision hd hadmits hlater),
    applyUpdate_conflict rfl]
  rfl

end Update

section Overwrite

variable (hid : DocumentId.isValid id = true) (hlinked : s.remoteId = some id)
  (hfaults : σ.store.faults = []) (hd : σ.store.get? id = some d)
  (hopens : d.opens id s.fetchCredential = true)

include hid hlinked hfaults hd hopens

/-- What overwriting comes to when the store hands the document out. -/
theorem run_overwrite_eq : (overwrite o s id).run (.settled envs u) σ =
    Dialogue.run (.settled envs u) (match heldRevision id (.ok (okResponse d.text)) with
      | .error e => .done (.error e, s)
      | .ok held => sendUpdate o s.beginSave.2 s.beginSave.1 (held + 1) s.updateCredential)
      (σ.noted (fetchRequest id s.fetchCredential)) := by
  have hsend := send_fetchRequest hfaults hid hd (envs σ.store.requests.length) s.fetchCredential
  rw [hopens, if_pos rfl] at hsend
  rw [overwrite, if_neg (not_not_intro hlinked), Dialogue.run_exchange hsend]
  -- The document is not to be read here.
  generalize (.ok (okResponse d.text) : Reply) = reply
  rfl

/-- **A document that can be read is overwritten** with the revision after its own. -/
theorem run_overwrite {x : RemoteDocument} (hread : RemoteDocument.parse d.text = .ok x)
    (hheld : x.revision = some d.revision) : (overwrite o s id).run (.settled envs u) σ =
      (sendUpdate o s.beginSave.2 s.beginSave.1 (d.revision + 1) s.updateCredential).run
        (.settled envs u) (σ.noted (fetchRequest id s.fetchCredential)) := by
  have hrevision : heldRevision id (.ok (okResponse d.text)) = .ok d.revision := by
    rw [heldRevision_of_parse (r := okResponse d.text) rfl hread, hheld, Option.getD_some]
  rw [run_overwrite_eq hid hlinked hfaults hd hopens, hrevision]

/-- **A document that cannot be read is not overwritten.** -/
theorem run_overwrite_unreadable {e : EncodingError} (hread : RemoteDocument.parse d.text = .error e) :
    (overwrite o s id).run (.settled envs u) σ =
      ((.error (.encoding e), s), σ.noted (fetchRequest id s.fetchCredential)) := by
  have hrevision : heldRevision id (.ok (okResponse d.text)) = .error (.encoding e) :=
    heldRevision_of_unreadable (r := okResponse d.text) rfl hread
  rw [run_overwrite_eq hid hlinked hfaults hd hopens, hrevision]
  rfl

end Overwrite

end Sync

/-! ## Commands in parts -/

namespace Command

variable {envs : Nat → Store.Setting} {u : User} {σ σ' : Surroundings} {path : String}
  {copy : WorkingCopy} {s s' : Session} {ctx : Context} {id : String}

/-- **A working copy is opened** that can be read from a file. -/
theorem run_openCopy (h : copyOf? (σ.files.load path) = some copy) :
    (openCopy path).run (.settled envs u) σ = (.ok (copy, copy.session), σ) := by
  obtain ⟨text, htext, hparse⟩ := Knowledge.copyOf?_eq_some.1 h
  have hload : (loadText path).run (.settled envs u) σ = (.ok text, σ) := by
    show (textOf (σ.files.load path), σ) = _
    rw [htext]
  have hcopy : (loadCopy path).run (.settled envs u) σ = (.ok copy, σ) := by
    refine (Procedure.run_bind_ok hload _).trans ?_
    rw [liftEncoding_eq_ok.2 hparse]
    rfl
  exact (Procedure.run_bind_ok hcopy _).trans rfl

/-- **A text is written** to a file. -/
theorem run_saveText {text : String} {fs : Files}
    (h : σ.files.save path (Utf8.encode text) = .ok fs) :
    (saveText path text).run (.settled envs u) σ = (.ok (), { σ with files := fs }) := by
  have hwrite : σ.files.write path (Utf8.encode text) = (.ok (), fs) := by rw [Files.write, h]
  rw [Procedure.run, saveText]
  show Dialogue.run _ _ ({ σ with files := (σ.files.write path (Utf8.encode text)).2 } : Surroundings) =
    _
  rw [hwrite]
  rfl

/-! ### Questions for a password -/

/-- An update that is accepted leads to no question. -/
theorem run_saveWithPrompt_updated (o : Sync.Options) (attempts : Nat) (s : Session) (id : String)
    (revision : Nat) (σ : Surroundings) :
    (saveWithPrompt o attempts s (.updated id revision)).run (.settled envs u) σ =
      ((.ok (.updated id revision), s), σ) := by
  cases attempts <;> rfl

/-- **The answer to the first question decides**, if it does not lead to another one: what the update
with it comes to is what the save comes to. -/
theorem run_saveWithPrompt {o : Sync.Options} {attempts : Nat} (hattempts : 0 < attempts)
    {p : Sync.UpdatePrompt} {given : String} (hcurrent : s.isCurrent p.ticket.generation = true)
    (hgiven : u.password (updateQuestion p) = some given) (hblank : Text.isBlank given = false)
    {result : Except Error Sync.SaveOutcome}
    (h : (Sync.sendUpdate o s p.ticket p.revision (some given)).run (.settled envs u) σ =
      ((result, s'), σ')) (hsettled : ∀ p, result ≠ .ok (.passwordRequired p)) :
    (saveWithPrompt o attempts s (.passwordRequired p)).run (.settled envs u) σ =
      ((result, s'), σ') := by
  obtain ⟨attempts, rfl⟩ := Nat.exists_eq_succ_of_ne_zero (Nat.pos_iff_ne_zero.1 hattempts)
  have hanswer : Password.answer (some given) = some given := by simp [Password.answer, hblank]
  have hresume : Sync.resumeUpdate o s p (some given) =
      Sync.sendUpdate o s p.ticket p.revision (some given) := by
    rw [Sync.resumeUpdate, if_neg (by rw [hcurrent]; simp), hanswer]
  show Dialogue.run _ ((Sync.resumeUpdate o s p (u.password (updateQuestion p))).bind _) σ = _
  rw [hgiven, hresume, Dialogue.run_bind, h]
  cases result with
  | error e => rfl
  | ok outcome =>
    cases outcome with
    | passwordRequired p => exact absurd rfl (hsettled p)
    | _ => cases attempts <;> rfl

/-! ### Pushing -/

/-- **An update that is accepted is written** to the file that has been read, and told of if there is a
link to the document. -/
theorem run_finishPush_updated (ctx : Context) {outcome : Sync.SaveOutcome} {revision : Nat}
    {old : Bytes} (copy : WorkingCopy) (r : Report)
    (h : (saveWithPrompt ctx.options ctx.attempts s outcome).run (.settled envs u) σ =
      ((.ok (.updated id revision), s'), σ')) (hload : σ'.files.load path = .ok old) :
    ∃ fs, fs.load path = .ok (Utf8.encode (copy.updateFrom s').render) ∧
      (finishPush ctx path copy s r outcome).run (.settled envs u) σ =
        ((Link.remote ctx.linkBase id).map fun link =>
          { r.tell .success ("Link Updated (revision " ++ toString revision ++ ")") with
            output := some link, session := some s' }, { σ' with files := fs }) := by
  obtain ⟨fs, hsave⟩ := Files.save_of_load hload (Utf8.encode (copy.updateFrom s').render)
  refine ⟨fs, Files.load_of_save hsave, ?_⟩
  unfold finishPush
  rw [Procedure.run_bind_ok (Procedure.run_perform h)]
  show Procedure.run _ (pushed ctx path copy s' r id _) σ' = _
  unfold pushed
  have hstored : (storeCopy path copy s').run (.settled envs u) σ' =
      (.ok (), { σ' with files := fs }) := run_saveText hsave
  rw [Procedure.run_bind_ok hstored]
  cases hlink : Link.remote ctx.linkBase id with
  | ok link =>
    rw [Procedure.run_bind_ok (Procedure.run_settle (.ok link))]
    rfl
  | error e => exact Procedure.run_bind_error (Procedure.run_settle (.error e)) _

/-- A fault of the save ends the push. -/
theorem run_finishPush_error {outcome : Sync.SaveOutcome} {e : Error} (r : Report)
    (h : (saveWithPrompt ctx.options ctx.attempts s outcome).run (.settled envs u) σ =
      ((.error e, s'), σ')) :
    (finishPush ctx path copy s r outcome).run (.settled envs u) σ = (.error e, σ') := by
  unfold finishPush
  rw [Procedure.run_bind_ok (Procedure.run_perform h)]
  exact Procedure.run_bind_error (Procedure.run_settle _) _

variable {force : Bool} (hread : copyOf? (σ.files.load path) = some copy)

include hread

/-- **A push without a conflict** goes on to its questions. -/
theorem run_push_saved {outcome : Sync.SaveOutcome}
    (h : (Sync.save ctx.options copy.session).run (.settled envs u) σ = ((.ok outcome, s), σ')) :
    (push ctx path { force }).run (.settled envs u) σ =
      (finishPush ctx path copy s {} outcome).run (.settled envs u) σ' := by
  unfold push
  rw [Procedure.run_bind_ok (run_openCopy hread)]
  show Procedure.run _ (perform (Sync.save ctx.options copy.session) >>= _) σ = _
  rw [Procedure.run_bind_ok (Procedure.run_perform h)]
  rfl

/-- **A push that is forced through a conflict** overwrites. -/
theorem run_push_overwritten {revision : Nat}
    (h : (Sync.save ctx.options copy.session).run (.settled envs u) σ =
      ((.error (.conflict revision), s), σ')) (hlinked : s.remoteId = some id)
    (hstate : s.state = .conflict) {second : Except Error Sync.SaveOutcome} {σ₂ : Surroundings}
    (hoverwrite : (Sync.overwrite ctx.options s id).run (.settled envs u) σ' =
      ((second, s'), σ₂)) :
    (push ctx path { force := true }).run (.settled envs u) σ =
      (settle second >>= finishPush ctx path copy s'
        (({} : Report).tell .warning "Remote DataTemplate is a Later Revision")).run
          (.settled envs u) σ₂ := by
  have hrequest : startPush (.error (.conflict revision)) s = .ok (.conflict
      ⟨"Remote DataTemplate is a Later Revision. Overwrite it with your version?", id⟩) := by
    rw [startPush, Sync.requestOverwrite, hlinked]
    dsimp only
    rw [if_pos hstate]
    rfl
  unfold push
  rw [Procedure.run_bind_ok (run_openCopy hread)]
  show Procedure.run _ (perform (Sync.save ctx.options copy.session) >>= _) σ = _
  rw [Procedure.run_bind_ok (Procedure.run_perform h)]
  show Procedure.run _ (settle (startPush (.error (.conflict revision)) s) >>= _) σ' = _
  rw [hrequest]
  show Procedure.run _ (perform (Sync.overwrite ctx.options s id) >>= _) σ' = _
  rw [Procedure.run_bind_ok (Procedure.run_perform hoverwrite)]
  rfl

end Command

end TemplateShare
