import TemplateShare.Command.Remote
import TemplateShare.Proofs.Files
import TemplateShare.Proofs.Session.Saved
import TemplateShare.Store

/-! # How commands are carried out

A command that nothing disturbs goes on over files and a store. The store may answer each request at
another time, and what the user agrees to is left open.

* **`Dialogue.Runs`** — a dialogue goes on, as far as one follows it.
* **`Dialogue.runs_bind_done`**, **`Procedure.runs_bind_pure`** — dialogues in parts.
* **`Procedure.Ends`**, **`Procedure.ends_bind_iff`** — procedures that end, also with a fault.
* **`Command.runs_load_bind`**, **`Command.runs_confirm_bind`**, **`Command.runs_saveText_bind`** — the
  steps of commands.
* **`Command.runs_openCopy`** — the part that all commands share.
* **`Command.runs_pull`**, **`Command.runs_protect`** — a document is fetched, and passwords are
  sent. -/

namespace TemplateShare

/-- **What comes of writing a file**, and the files after it. -/
def Files.write (fs : Files) (path : String) (content : Bytes) : Except FileError Unit × Files :=
  match fs.save path content with
  | .ok fs' => (.ok (), fs')
  | .error e => (.error e, fs)

/-- **What is there after a file is to be written** was there before, or is what has been written. -/
theorem Files.mem_of_write {fs : Files} {path : String} {content : Bytes} {e : Place × Bytes}
    (he : e ∈ (fs.write path content).2.contents) : e.2 = content ∨ e ∈ fs.contents := by
  unfold write at he
  split at he
  · next hsave => exact mem_of_save hsave he
  · exact .inr he

/-- **What a command works on**: files and a store. -/
structure Surroundings where
  files : Files
  store : Store

namespace Dialogue

variable {α β : Type} {agrees : String → Bool → Prop} {σ σ₁ σ₂ : Surroundings} {d d₁ d₂ : Dialogue α}

/-- **A dialogue goes on** over files and a store. The user may answer a question whether to agree
only as `agrees` says. -/
inductive Runs (agrees : String → Bool → Prop) :
    Surroundings → Dialogue α → Surroundings → Dialogue α → Prop
  | refl (σ : Surroundings) (d : Dialogue α) : Runs agrees σ d σ d
  | exchange {σ σ' : Surroundings} {r : Request} {next : Reply → Dialogue α} {d : Dialogue α}
      {env : Store.Setting} (ids : ∀ n, DocumentId.isValid (env.idAt n) = true)
      (more : Runs agrees { σ with store := (σ.store.send env r).2 }
        (next (σ.store.send env r).1) σ' d) : Runs agrees σ (.exchange r next) σ' d
  | askPassword {σ σ' : Surroundings} {q : String} {next : Option String → Dialogue α}
      {d : Dialogue α} (answer : Option String) (more : Runs agrees σ (next answer) σ' d) :
      Runs agrees σ (.askPassword q next) σ' d
  | confirm {σ σ' : Surroundings} {q : String} {next : Bool → Dialogue α} {d : Dialogue α}
      {answer : Bool} (agreed : agrees q answer) (more : Runs agrees σ (next answer) σ' d) :
      Runs agrees σ (.confirm q next) σ' d
  | loadFile {σ σ' : Surroundings} {path : String} {next : Except FileError Bytes → Dialogue α}
      {d : Dialogue α} (more : Runs agrees σ (next (σ.files.load path)) σ' d) :
      Runs agrees σ (.loadFile path next) σ' d
  | saveFile {σ σ' : Surroundings} {path : String} {content : Bytes}
      {next : Except FileError Unit → Dialogue α} {d : Dialogue α}
      (more : Runs agrees { σ with files := (σ.files.write path content).2 }
        (next (σ.files.write path content).1) σ' d) :
      Runs agrees σ (.saveFile path content next) σ' d

/-- A dialogue goes on from where it has gone on to. -/
theorem Runs.trans (h₁ : Runs agrees σ d σ₁ d₁) (h₂ : Runs agrees σ₁ d₁ σ₂ d₂) :
    Runs agrees σ d σ₂ d₂ := by
  induction h₁ with
  | refl => exact h₂
  | exchange ids _ ih => exact .exchange ids (ih h₂)
  | askPassword answer _ ih => exact .askPassword answer (ih h₂)
  | confirm agreed _ ih => exact .confirm agreed (ih h₂)
  | loadFile _ ih => exact .loadFile (ih h₂)
  | saveFile _ ih => exact .saveFile (ih h₂)

/-- **A dialogue goes on as its first part does.** -/
theorem Runs.bind (h : Runs agrees σ d σ₁ d₁) (f : α → Dialogue β) :
    Runs agrees σ (d.bind f) σ₁ (d₁.bind f) := by
  induction h with
  | refl => exact .refl _ _
  | exchange ids _ ih => exact .exchange ids ih
  | askPassword answer _ ih => exact .askPassword answer ih
  | confirm agreed _ ih => exact .confirm agreed ih
  | loadFile _ ih => exact .loadFile ih
  | saveFile _ ih => exact .saveFile ih

/-- **A dialogue comes to its end** if and only if its parts do, one after the other. -/
theorem runs_bind_done {f : α → Dialogue β} {b : β} :
    Runs agrees σ (d.bind f) σ₂ (.done b) ↔
      ∃ a σ₁, Runs agrees σ d σ₁ (.done a) ∧ Runs agrees σ₁ (f a) σ₂ (.done b) := by
  constructor
  · intro h
    -- The first part is taken to its end, one exchange with the surroundings after the other.
    induction d generalizing σ with
    | done a => exact ⟨a, σ, .refl _ _, h⟩
    | exchange r next ih =>
      cases h with
      | exchange ids more =>
        obtain ⟨a, σ₁, hfirst, hrest⟩ := ih _ more
        exact ⟨a, σ₁, .exchange ids hfirst, hrest⟩
    | askPassword q next ih =>
      cases h with
      | askPassword answer more =>
        obtain ⟨a, σ₁, hfirst, hrest⟩ := ih _ more
        exact ⟨a, σ₁, .askPassword answer hfirst, hrest⟩
    | confirm q next ih =>
      cases h with
      | confirm agreed more =>
        obtain ⟨a, σ₁, hfirst, hrest⟩ := ih _ more
        exact ⟨a, σ₁, .confirm agreed hfirst, hrest⟩
    | loadFile path next ih =>
      cases h with
      | loadFile more =>
        obtain ⟨a, σ₁, hfirst, hrest⟩ := ih _ more
        exact ⟨a, σ₁, .loadFile hfirst, hrest⟩
    | saveFile path content next ih =>
      cases h with
      | saveFile more =>
        obtain ⟨a, σ₁, hfirst, hrest⟩ := ih _ more
        exact ⟨a, σ₁, .saveFile hfirst, hrest⟩
  · rintro ⟨a, σ₁, hfirst, hrest⟩
    exact (hfirst.bind f).trans hrest

/-- A dialogue at its end goes on to nothing else. -/
theorem runs_done {a b : α} : Runs agrees σ (.done a) σ₁ (.done b) ↔ σ₁ = σ ∧ b = a := by
  constructor
  · intro h
    cases h
    exact ⟨rfl, rfl⟩
  · rintro ⟨rfl, rfl⟩
    exact .refl _ _

end Dialogue

namespace Procedure

variable {α β : Type} {agrees : String → Bool → Prop} {σ σ₁ σ₂ : Surroundings}

/-- **A procedure goes on** over files and a store. -/
abbrev Runs (agrees : String → Bool → Prop) (σ : Surroundings) (x : Procedure α)
    (σ' : Surroundings) (y : Procedure α) : Prop :=
  Dialogue.Runs agrees σ (x : Dialogue (Except Error α)) σ' (y : Dialogue (Except Error α))

/-- **A procedure goes on with its second part** once its first part is done. -/
theorem runs_bind {x : Procedure α} {a : α} {f : α → Procedure β} {y : Procedure β}
    (hx : Runs agrees σ x σ₁ (pure a)) (hf : Runs agrees σ₁ (f a) σ₂ y) :
    Runs agrees σ (x >>= f) σ₂ y :=
  (Dialogue.Runs.bind hx _).trans hf

/-- **A procedure succeeds** if and only if its parts do, one after the other. -/
theorem runs_bind_pure {x : Procedure α} {f : α → Procedure β} {b : β} :
    Runs agrees σ (x >>= f) σ₂ (pure b) ↔
      ∃ a σ₁, Runs agrees σ x σ₁ (pure a) ∧ Runs agrees σ₁ (f a) σ₂ (pure b) := by
  constructor
  · intro h
    obtain ⟨a, σ₁, hx, hf⟩ := Dialogue.runs_bind_done.1 h
    cases a with
    | ok a => exact ⟨a, σ₁, hx, hf⟩
    | error e =>
      -- A fault ends the procedure, so it does not succeed.
      obtain ⟨-, he⟩ := Dialogue.runs_done.1 hf
      cases he
  · rintro ⟨a, σ₁, hx, hf⟩
    exact runs_bind hx hf

/-- A value that is there lets a procedure go on. -/
theorem runs_settle {x : Except Error α} {a : α} (h : x = .ok a) (σ : Surroundings) :
    Runs agrees σ (Command.settle x) σ (pure a) := by
  rw [h]
  exact .refl _ _

/-- A procedure succeeds in settling a value if and only if there is one. -/
theorem runs_settle_pure {x : Except Error α} {a : α} :
    Runs agrees σ (Command.settle x) σ₁ (pure a) ↔ x = .ok a ∧ σ₁ = σ := by
  constructor
  · intro h
    obtain ⟨rfl, he⟩ := Dialogue.runs_done.1 h
    exact ⟨he.symm, rfl⟩
  · rintro ⟨h, rfl⟩
    exact runs_settle h _

/-- A dialogue as a part of a procedure. -/
theorem runs_perform {d : Dialogue α} {a : α} (h : Dialogue.Runs agrees σ d σ₁ (.done a)) :
    Runs agrees σ (Command.perform d) σ₁ (pure a) :=
  h.bind _

/-- A value ends a procedure with success. -/
theorem runs_pure {a b : α} :
    Runs agrees σ (pure a) σ₁ (pure b) ↔ σ₁ = σ ∧ b = a := by
  constructor
  · intro h
    obtain ⟨rfl, he⟩ := Dialogue.runs_done.1 h
    exact ⟨rfl, Except.ok.inj he⟩
  · rintro ⟨rfl, rfl⟩
    exact .refl _ _

/-- **A procedure that settles a value** succeeds if and only if there is one with which it goes on. -/
theorem runs_settle_bind {x : Except Error α} {f : α → Procedure β} {b : β} :
    Runs agrees σ (Command.settle x >>= f) σ₂ (pure b) ↔
      ∃ a, x = .ok a ∧ Runs agrees σ (f a) σ₂ (pure b) := by
  rw [runs_bind_pure]
  constructor
  · rintro ⟨a, σ₁, hx, hf⟩
    obtain ⟨ha, rfl⟩ := runs_settle_pure.1 hx
    exact ⟨a, ha, hf⟩
  · rintro ⟨a, hx, hf⟩
    exact ⟨a, σ, runs_settle hx σ, hf⟩

/-- **A procedure with a dialogue in front** succeeds if and only if it does with what the dialogue
comes to. -/
theorem runs_perform_bind {d : Dialogue α} {f : α → Procedure β} {b : β} :
    Runs agrees σ (Command.perform d >>= f) σ₂ (pure b) ↔
      ∃ a σ₁, Dialogue.Runs agrees σ d σ₁ (.done a) ∧ Runs agrees σ₁ (f a) σ₂ (pure b) := by
  rw [runs_bind_pure]
  constructor
  · rintro ⟨a, σ₁, hd, hf⟩
    obtain ⟨a', σ', hd, hend⟩ := Dialogue.runs_bind_done.1 hd
    obtain ⟨rfl, ha⟩ := Dialogue.runs_done.1 hend
    obtain rfl := Except.ok.inj ha
    exact ⟨a, σ₁, hd, hf⟩
  · rintro ⟨a, σ₁, hd, hf⟩
    exact ⟨a, σ₁, runs_perform hd, hf⟩

/-! ### Ends -/

/-- **A procedure comes to its end**, with success or with a fault. -/
abbrev Ends (agrees : String → Bool → Prop) (σ : Surroundings) (x : Procedure α)
    (σ' : Surroundings) (r : Except Error α) : Prop :=
  Dialogue.Runs agrees σ (x : Dialogue (Except Error α)) σ' (.done r)

/-- **A procedure in two parts** ends with its second part, or with a fault of its first one. -/
theorem ends_bind_iff {x : Procedure α} {f : α → Procedure β} {r : Except Error β} :
    Ends agrees σ (x >>= f) σ₂ r ↔
      (∃ a σ₁, Ends agrees σ x σ₁ (.ok a) ∧ Ends agrees σ₁ (f a) σ₂ r) ∨
        ∃ e, Ends agrees σ x σ₂ (.error e) ∧ r = .error e := by
  constructor
  · intro h
    obtain ⟨first, σ₁, hx, hf⟩ := Dialogue.runs_bind_done.1 h
    cases first with
    | ok a => exact .inl ⟨a, σ₁, hx, hf⟩
    | error e =>
      obtain ⟨rfl, rfl⟩ := Dialogue.runs_done.1 hf
      exact .inr ⟨e, hx, rfl⟩
  · rintro (⟨a, σ₁, hx, hf⟩ | ⟨e, hx, rfl⟩)
    · exact Dialogue.runs_bind_done.2 ⟨.ok a, σ₁, hx, hf⟩
    · exact Dialogue.runs_bind_done.2 ⟨.error e, σ₂, hx, Dialogue.runs_done.2 ⟨rfl, rfl⟩⟩

/-- A value or a fault ends a procedure at once. -/
theorem ends_settle_iff {x r : Except Error α} :
    Ends agrees σ (Command.settle x) σ₁ r ↔ σ₁ = σ ∧ r = x :=
  Dialogue.runs_done

/-- A value ends a procedure at once. -/
theorem ends_pure_iff {a : α} {r : Except Error α} :
    Ends agrees σ (pure a) σ₁ r ↔ σ₁ = σ ∧ r = .ok a :=
  Dialogue.runs_done

/-- A fault ends a procedure at once. -/
theorem ends_throw_iff {e : Error} {r : Except Error α} :
    Ends agrees σ (throw e) σ₁ r ↔ σ₁ = σ ∧ r = .error e :=
  Dialogue.runs_done

/-- A dialogue ends a procedure without a fault. -/
theorem ends_perform_iff {d : Dialogue α} {r : Except Error α} :
    Ends agrees σ (Command.perform d) σ₁ r ↔
      ∃ a, Dialogue.Runs agrees σ d σ₁ (.done a) ∧ r = .ok a := by
  constructor
  · intro h
    obtain ⟨a, σ', hd, hend⟩ := Dialogue.runs_bind_done.1 h
    obtain ⟨rfl, rfl⟩ := Dialogue.runs_done.1 hend
    exact ⟨a, hd, rfl⟩
  · rintro ⟨a, hd, rfl⟩
    exact runs_perform hd

end Procedure

namespace Command

open Procedure

variable {agrees : String → Bool → Prop} {σ σ' : Surroundings} {path : String}

/-- A file that is read comes to what it holds. -/
theorem ends_load_iff {r : Except Error (Except FileError Bytes)} :
    Ends agrees σ (perform (load path)) σ' r ↔ σ' = σ ∧ r = .ok (σ.files.load path) := by
  rw [ends_perform_iff]
  constructor
  · rintro ⟨x, hload, rfl⟩
    cases hload with
    | loadFile more =>
      obtain ⟨rfl, rfl⟩ := Dialogue.runs_done.1 more
      exact ⟨rfl, rfl⟩
  · rintro ⟨rfl, rfl⟩
    exact ⟨_, .loadFile (.refl _ _), rfl⟩

/-- A question comes to an answer that may be given. -/
theorem ends_confirm_iff {q : String} {r : Except Error Bool} :
    Ends agrees σ (perform (confirm q)) σ' r ↔
      ∃ answer, agrees q answer ∧ σ' = σ ∧ r = .ok answer := by
  rw [ends_perform_iff]
  constructor
  · rintro ⟨answer, hconfirm, rfl⟩
    cases hconfirm with
    | confirm agreed more =>
      obtain ⟨rfl, rfl⟩ := Dialogue.runs_done.1 more
      exact ⟨_, agreed, rfl, rfl⟩
  · rintro ⟨answer, agreed, rfl, rfl⟩
    exact ⟨answer, .confirm agreed (.refl _ _), rfl⟩

/-- A text is written, or the files stay as they are. -/
theorem ends_saveText_iff {text : String} {r : Except Error Unit} :
    Ends agrees σ (saveText path text) σ' r ↔
      (∃ fs, σ.files.save path (Utf8.encode text) = .ok fs ∧ σ' = { σ with files := fs } ∧
        r = .ok ()) ∨
      ∃ e, σ.files.save path (Utf8.encode text) = .error e ∧ σ' = σ ∧ r = .error (.file e) := by
  constructor
  · intro h
    cases h with
    | saveFile more =>
      cases hwritten : σ.files.save path (Utf8.encode text) with
      | ok fs =>
        rw [Files.write, hwritten] at more
        obtain ⟨rfl, rfl⟩ := Dialogue.runs_done.1 more
        exact .inl ⟨fs, rfl, rfl, rfl⟩
      | error e =>
        rw [Files.write, hwritten] at more
        obtain ⟨rfl, rfl⟩ := Dialogue.runs_done.1 more
        exact .inr ⟨e, rfl, rfl, rfl⟩
  · rintro (⟨fs, hwritten, rfl, rfl⟩ | ⟨e, hwritten, rfl, rfl⟩)
    · refine .saveFile ?_
      rw [Files.write, hwritten]
      exact .refl _ _
    · refine .saveFile ?_
      rw [Files.write, hwritten]
      exact .refl _ _

/-- **A working copy is opened** that a file holds. -/
theorem runs_openCopy {text : String} {copy : WorkingCopy}
    (hload : σ.files.load path = .ok (Utf8.encode text)) (hparse : WorkingCopy.parse text = .ok copy) :
    Runs agrees σ (openCopy path) σ (pure (copy, copy.session)) := by
  have htext : Runs agrees σ (loadText path) σ (pure text) := by
    refine runs_bind (runs_perform (.loadFile (.refl _ _))) (runs_settle ?_ _)
    rw [hload, textOf, Utf8.decode_encode]
  have hcopy : Runs agrees σ (loadCopy path) σ (pure copy) :=
    runs_bind htext (runs_settle (liftEncoding_eq_ok.2 hparse) _)
  exact runs_bind hcopy (.refl _ _)

/-- **A text is written** to a file. -/
theorem runs_saveText {text : String} {fs : Files}
    (hsave : σ.files.save path (Utf8.encode text) = .ok fs) :
    Runs agrees σ (saveText path text) { σ with files := fs } (pure ()) := by
  have hwrite : σ.files.write path (Utf8.encode text) = (.ok (), fs) := by
    rw [Files.write, hsave]
  refine .saveFile ?_
  rw [hwrite]
  exact .refl _ _

section Steps

variable {α : Type} {a : α}

/-- **A procedure that reads a file** goes on with what the file holds. -/
theorem runs_load_bind {f : Except FileError Bytes → Procedure α} :
    Procedure.Runs agrees σ (perform (load path) >>= f) σ' (pure a) ↔
      Procedure.Runs agrees σ (f (σ.files.load path)) σ' (pure a) := by
  rw [runs_perform_bind]
  constructor
  · rintro ⟨x, σ₁, hload, hf⟩
    cases hload with
    | loadFile more =>
      obtain ⟨rfl, rfl⟩ := Dialogue.runs_done.1 more
      exact hf
  · intro hf
    exact ⟨_, σ, .loadFile (.refl _ _), hf⟩

/-- **A procedure that asks the user to agree** goes on with an answer that may be given. -/
theorem runs_confirm_bind {q : String} {f : Bool → Procedure α} :
    Procedure.Runs agrees σ (perform (confirm q) >>= f) σ' (pure a) ↔
      ∃ answer, agrees q answer ∧ Procedure.Runs agrees σ (f answer) σ' (pure a) := by
  rw [runs_perform_bind]
  constructor
  · rintro ⟨answer, σ₁, hconfirm, hf⟩
    cases hconfirm with
    | confirm agreed more =>
      obtain ⟨rfl, rfl⟩ := Dialogue.runs_done.1 more
      exact ⟨_, agreed, hf⟩
  · rintro ⟨answer, agreed, hf⟩
    exact ⟨answer, σ, .confirm agreed (.refl _ _), hf⟩

/-- **A procedure that writes a text** succeeds if and only if the file can be written and it goes on
with that. -/
theorem runs_saveText_bind {text : String} {f : Unit → Procedure α} :
    Procedure.Runs agrees σ (saveText path text >>= f) σ' (pure a) ↔
      ∃ fs, σ.files.save path (Utf8.encode text) = .ok fs ∧
        Procedure.Runs agrees { σ with files := fs } (f ()) σ' (pure a) := by
  rw [runs_bind_pure]
  constructor
  · rintro ⟨u, σ₁, hsave, hf⟩
    cases hsave with
    | saveFile more =>
      -- If the file cannot be written, the fault ends the procedure.
      cases hwritten : σ.files.save path (Utf8.encode text) with
      | error e =>
        rw [Files.write, hwritten] at more
        cases (Dialogue.runs_done.1 more).2
      | ok fs =>
        rw [Files.write, hwritten] at more
        obtain ⟨rfl, -⟩ := Dialogue.runs_done.1 more
        exact ⟨fs, rfl, hf⟩
  · rintro ⟨fs, hsave, hf⟩
    exact ⟨(), _, runs_saveText hsave, hf⟩

end Steps

/-- **A document is fetched** that needs no password. -/
theorem runs_fetchWithPrompt {id : String} (hid : DocumentId.isValid id = true)
    {env : Store.Setting} (ids : ∀ n, DocumentId.isValid (env.idAt n) = true)
    {summary : Sync.LoadSummary} {s : Session}
    (hfetch : Sync.applyFetch (({} : Session).beginLoad id).2 ⟨(({} : Session).beginLoad id).1, none⟩
      (σ.store.send env (Sync.fetchRequest id none)).1 = (.ok (.loaded summary), s)) :
    Dialogue.Runs agrees σ (fetchWithPrompt {} id)
      { σ with store := (σ.store.send env (Sync.fetchRequest id none)).2 }
      (.done (.ok summary, s)) := by
  have hstart : Sync.fetch {} id = .exchange (Sync.fetchRequest id none) fun reply => .done
      (Sync.applyFetch (({} : Session).beginLoad id).2 ⟨(({} : Session).beginLoad id).1, none⟩
        reply) := by
    unfold Sync.fetch Sync.beginFetch
    rw [if_pos hid]
    rfl
  have hloaded : Dialogue.Runs agrees σ (Sync.fetch {} id)
      { σ with store := (σ.store.send env (Sync.fetchRequest id none)).2 }
      (.done (.ok (.loaded summary), s)) := by
    rw [hstart]
    refine .exchange ids ?_
    rw [hfetch]
    exact .refl _ _
  exact (hloaded.bind _).trans (.refl _ _)

/-- **A document is fetched into a file** that was not there. -/
theorem runs_pull {id : String} (hid : DocumentId.isValid id = true) {e : FileError}
    (habsent : σ.files.load path = .error e) (he : e.isAbsence = true) {env : Store.Setting}
    (ids : ∀ n, DocumentId.isValid (env.idAt n) = true) {summary : Sync.LoadSummary} {s : Session}
    (hfetch : Sync.applyFetch (({} : Session).beginLoad id).2 ⟨(({} : Session).beginLoad id).1, none⟩
      (σ.store.send env (Sync.fetchRequest id none)).1 = (.ok (.loaded summary), s))
    {fs : Files}
    (hsave : σ.files.save path (Utf8.encode (WorkingCopy.ofSession s).render) = .ok fs) :
    ∃ report, Runs agrees σ (pull id path)
      ⟨fs, (σ.store.send env (Sync.fetchRequest id none)).2⟩ (pure report) := by
  -- Nothing is replaced, so the user is not asked.
  have hreplace : Runs agrees σ (confirmReplace path) σ (pure true) := by
    refine runs_bind (runs_perform (.loadFile (.refl _ _))) ?_
    rw [habsent]
    refine runs_bind (runs_settle (a := none) ?_ _) (.refl _ _)
    rw [existingCopy, if_pos he]
  have hfetched : Runs agrees σ (perform (fetchWithPrompt {} id))
      { σ with store := (σ.store.send env (Sync.fetchRequest id none)).2 } (pure (.ok summary, s)) :=
    runs_perform (runs_fetchWithPrompt hid ids hfetch)
  have hsaved : Runs agrees { σ with store := (σ.store.send env (Sync.fetchRequest id none)).2 }
      (saveCopy path (.ofSession s)) ⟨fs, (σ.store.send env (Sync.fetchRequest id none)).2⟩
      (pure ()) := runs_saveText hsave
  exact ⟨_, runs_bind hreplace
    (runs_bind hfetched (runs_bind (runs_settle rfl _) (runs_bind hsaved (.refl _ _))))⟩

/-- A session in which passwords are to be set has something to save. -/
theorem dirty_of_protect {s s' : Session} {p : Protection} (h : s.protect p = .ok s') :
    s'.dirty = true := by
  unfold Session.protect at h
  split at h
  · cases h
  · split at h
    · cases h
    · obtain rfl := Except.ok.inj h
      rfl

/-- **Passwords are sent** with the document of the file, to the revision after the file's. -/
theorem runs_protect (ctx : Context) {p : Protection} {text id : String} {copy : WorkingCopy}
    {s : Session} (hload : σ.files.load path = .ok (Utf8.encode text))
    (hparse : WorkingCopy.parse text = .ok copy) (hprotect : copy.session.protect p = .ok s)
    (hid : s.remoteId = some id) :
    ∃ next, Runs agrees σ (protect ctx path p) σ
      (.exchange (Sync.updateRequest ctx.options s.beginSave.2 id (s.revision + 1)
        s.updateCredential) next) := by
  obtain ⟨next, hupdate⟩ : ∃ next, Sync.update ctx.options s = .exchange (Sync.updateRequest
      ctx.options s.beginSave.2 id (s.revision + 1) s.updateCredential) next :=
    ⟨_, Sync.update_eq hid (dirty_of_protect hprotect)⟩
  have hprotected : Runs agrees σ (settle (liftValidation (copy.session.protect p))) σ (pure s) :=
    runs_settle (liftValidation_eq_ok.2 hprotect) σ
  have hsent (f : Sync.Outcome Sync.SaveOutcome → Procedure Report) :
      Runs agrees σ (perform (Sync.update ctx.options s) >>= f) σ
        (.exchange (Sync.updateRequest ctx.options s.beginSave.2 id (s.revision + 1)
          s.updateCredential) fun reply => (perform (next reply) >>= f : Procedure Report)) := by
    rw [hupdate]
    exact .refl _ _
  exact ⟨_, runs_bind (runs_openCopy hload hparse) (runs_bind hprotected (hsent _))⟩

end Command

end TemplateShare
