import TemplateShare.Proofs.Command.Forced

/-! # Commands that fail leave files alone

Every command on working copies writes its file at the end, when nothing can go wrong any more,
except a push: it writes the file and then makes the link to the document. Where the settings hold a
base that no link can be made with, the push fails although the store has accepted the document and
the file has been written.

* **`Dialogue.Spares`** — a dialogue that writes no file.
* **`Dialogue.WritesLast`** — a dialogue that writes a file only as its last step, with what the step
  comes to.
* **`Command.writesLast_push`** and its like — where the commands write their files.
* **`Command.Forced.linkless`** — a push that would get through but for its link.
* **`Command.Writing`**, **`Command.Writing.writesLast`** — the commands that write a working copy.
* **`Command.unchanged_or_linkless`** — a command that fails leaves all files as they were, but for a
  push that cannot make its link.
* **`Command.exists_written_fault`** — a push that fails and has written its file. -/

namespace TemplateShare

namespace Dialogue

variable {α β : Type} {agrees : String → Bool → Prop} {σ σ' : Surroundings} {d : Dialogue α} {a : α}

/-! ## Dialogues that write no file -/

/-- **A dialogue that writes no file**, whatever is replied. -/
def Spares : Dialogue α → Prop
  | .done _ => True
  | .exchange _ next => ∀ x, (next x).Spares
  | .askPassword _ next => ∀ x, (next x).Spares
  | .confirm _ next => ∀ x, (next x).Spares
  | .loadFile _ next => ∀ x, (next x).Spares
  | .saveFile .. => False

/-- A dialogue that goes on writes no file if its parts do not. -/
theorem Spares.bind (hd : d.Spares) {f : α → Dialogue β} (hf : ∀ a, (f a).Spares) :
    (d.bind f).Spares := by
  induction d with
  | done a => exact hf a
  | exchange r next ih => exact fun x => ih x (hd x)
  | askPassword q next ih => exact fun x => ih x (hd x)
  | confirm q next ih => exact fun x => ih x (hd x)
  | loadFile p next ih => exact fun x => ih x (hd x)
  | saveFile p c next ih => exact hd.elim

/-! ## Dialogues that write a file at their end -/

/-- **A dialogue that writes a file only as its last step**, whatever is replied: once the file is
written, there is nothing but the end, for which `W` holds with the path and the content. -/
def WritesLast (W : String → Bytes → α → Prop) : Dialogue α → Prop
  | .done _ => True
  | .exchange _ next => ∀ x, (next x).WritesLast W
  | .askPassword _ next => ∀ x, (next x).WritesLast W
  | .confirm _ next => ∀ x, (next x).WritesLast W
  | .loadFile _ next => ∀ x, (next x).WritesLast W
  | .saveFile path content next =>
    (∃ a, next (.ok ()) = .done a ∧ W path content a) ∧ ∀ e, ∃ a, next (.error e) = .done a

variable {W : String → Bytes → α → Prop}

/-- A dialogue that writes no file goes on with one that writes it at the end. -/
theorem Spares.writesLast_bind {d : Dialogue β} (hd : d.Spares) {f : β → Dialogue α}
    (hf : ∀ b, (f b).WritesLast W) : (d.bind f).WritesLast W := by
  induction d with
  | done a => exact hf a
  | exchange r next ih => exact fun x => ih x (hd x)
  | askPassword q next ih => exact fun x => ih x (hd x)
  | confirm q next ih => exact fun x => ih x (hd x)
  | loadFile p next ih => exact fun x => ih x (hd x)
  | saveFile p c next ih => exact hd.elim

/-- **What is left behind by a dialogue that writes a file at its end**: all files as they were, or
one of them written, and the end that goes with it. -/
theorem WritesLast.of_runs (hd : d.WritesLast W) (h : Runs agrees σ d σ' (.done a)) :
    σ'.files = σ.files ∨
      ∃ path content, σ.files.save path content = .ok σ'.files ∧ W path content a := by
  induction d generalizing σ with
  | done b =>
    obtain ⟨rfl, rfl⟩ := runs_done.1 h
    exact .inl rfl
  | exchange r next ih =>
    cases h with
    | exchange ids more =>
      -- The store has changed, and the files have not.
      have hrest := ih _ (hd _) more
      exact hrest
  | askPassword q next ih =>
    cases h with
    | askPassword answer more => exact ih _ (hd _) more
  | confirm q next ih =>
    cases h with
    | confirm agreed more => exact ih _ (hd _) more
  | loadFile path next ih =>
    cases h with
    | loadFile more => exact ih _ (hd _) more
  | saveFile path content next =>
    obtain ⟨⟨b, hwritten, hb⟩, hrefused⟩ := hd
    cases h with
    | saveFile more =>
      -- A file that cannot be written is left alone.
      cases hsave : σ.files.save path content with
      | ok fs =>
        rw [Files.write, hsave] at more
        rw [hwritten] at more
        obtain ⟨rfl, rfl⟩ := runs_done.1 more
        exact .inr ⟨path, content, hsave, hb⟩
      | error e =>
        obtain ⟨b, hb⟩ := hrefused e
        rw [Files.write, hsave] at more
        rw [hb] at more
        obtain ⟨rfl, -⟩ := runs_done.1 more
        exact .inl rfl

end Dialogue

namespace Sync

open Dialogue

variable {s : Session} (o : Options)

/-! ## Exchanges write no file -/

/-- A fetch writes no file. -/
theorem spares_fetch (s : Session) (id : String) : (fetch s id).Spares := by
  unfold fetch
  split
  · trivial
  · exact fun _ => trivial

/-- An answer to a fetch's question writes no file. -/
theorem spares_fetchWithPassword (s : Session) (t : Session.LoadTicket) (answer : Option String) :
    (fetchWithPassword s t answer).Spares := by
  unfold fetchWithPassword
  split
  · trivial
  · split
    · trivial
    · exact fun _ => trivial

/-- An update that is sent writes no file. -/
theorem spares_sendUpdate (s : Session) (t : Session.SaveTicket) (revision : Nat)
    (password : Option String) : (sendUpdate o s t revision password).Spares := by
  unfold sendUpdate
  split
  · trivial
  · exact fun _ => trivial

/-- An update writes no file. -/
theorem spares_update (s : Session) : (update o s).Spares := by
  unfold update
  split
  · trivial
  · split
    · trivial
    · exact spares_sendUpdate o _ _ _ _

/-- A save writes no file. -/
theorem spares_save (s : Session) : (save o s).Spares := by
  unfold save
  split
  · exact fun _ => trivial
  · exact spares_update o s

/-- An answer to an update's question writes no file. -/
theorem spares_resumeUpdate (s : Session) (p : UpdatePrompt) (answer : Option String) :
    (resumeUpdate o s p answer).Spares := by
  unfold resumeUpdate
  split
  · trivial
  · split
    · exact spares_sendUpdate o _ _ _ _
    · trivial

/-- An overwrite writes no file. -/
theorem spares_overwrite (s : Session) (id : String) : (overwrite o s id).Spares := by
  unfold overwrite
  split
  · trivial
  · intro reply
    dsimp only
    split
    · trivial
    · exact spares_sendUpdate o _ _ _ _

end Sync

namespace Command

open Procedure

variable {α β : Type} {W : String → Bytes → Except Error α → Prop}

/-! ## Steps of commands -/

/-- **A procedure that writes no file**, whatever is replied. -/
abbrev Spares (x : Procedure α) : Prop := Dialogue.Spares (x : Dialogue (Except Error α))

/-- **A procedure that writes a file only as its last step.** -/
abbrev WritesLast (W : String → Bytes → Except Error α → Prop) (x : Procedure α) : Prop :=
  Dialogue.WritesLast W (x : Dialogue (Except Error α))

/-- A procedure that writes no file goes on with one that does not either. -/
theorem spares_bind {x : Procedure β} {f : β → Procedure α} (hx : Spares x)
    (hf : ∀ b, Spares (f b)) : Spares (x >>= f) := by
  refine Dialogue.Spares.bind hx fun r => ?_
  cases r with
  | ok b => exact hf b
  | error e => trivial

/-- **A procedure that writes no file goes on with one that writes it at the end.** -/
theorem writesLast_bind {x : Procedure β} {f : β → Procedure α} (hx : Spares x)
    (hf : ∀ b, WritesLast W (f b)) : WritesLast W (x >>= f) := by
  refine Dialogue.Spares.writesLast_bind hx fun r => ?_
  cases r with
  | ok b => exact hf b
  | error e => trivial

/-- What is settled writes no file. -/
theorem spares_settle (x : Except Error α) : Spares (settle x) := trivial

/-- A dialogue that writes no file as a part of a procedure. -/
theorem spares_perform {d : Dialogue α} (h : d.Spares) : Spares (perform d) :=
  h.bind fun _ => trivial

/-- **A text is written, and then there is only a value or a fault.** -/
theorem writesLast_saveText {path text : String} {x : Except Error α}
    (h : W path (Utf8.encode text) x) : WritesLast W (saveText path text >>= fun _ => settle x) :=
  ⟨⟨x, rfl, h⟩, fun e => ⟨.error (.file e), rfl⟩⟩

/-- Opening a working copy writes no file. -/
theorem spares_openCopy (path : String) : Spares (openCopy path) := by
  refine spares_bind (spares_bind (spares_bind ?_ fun x => spares_settle _)
    fun text => spares_settle _) fun copy => trivial
  exact fun x => trivial

/-- Asking before a working copy is replaced writes no file. -/
theorem spares_confirmReplace (path : String) : Spares (confirmReplace path) := by
  refine spares_bind (fun x => trivial) fun x => spares_bind (spares_settle _) fun found => ?_
  cases found with
  | none => trivial
  | some copy =>
    dsimp only
    split
    · exact fun b => trivial
    · trivial

/-- A fetch with its question writes no file. -/
theorem spares_fetchWithPrompt (s : Session) (id : String) :
    (fetchWithPrompt s id).Spares := by
  unfold fetchWithPrompt
  rw [Dialogue.bind_eq]
  refine (Sync.spares_fetch s id).bind fun out => ?_
  obtain ⟨first, s⟩ := out
  cases first with
  | error e => trivial
  | ok outcome =>
    cases outcome with
    | loaded summary => trivial
    | discarded => trivial
    | passwordRequired t =>
      show Dialogue.Spares (((askPassword _).bind (Sync.fetchWithPassword s t)).bind _)
      have hasked : Dialogue.Spares
          ((askPassword ("Password for " ++ t.id)).bind (Sync.fetchWithPassword s t)) :=
        fun answer => Sync.spares_fetchWithPassword s t answer
      refine hasked.bind fun out => ?_
      obtain ⟨outcome, s⟩ := out
      cases outcome with
      | error e => trivial
      | ok outcome => cases outcome <;> trivial

/-- A save with its questions writes no file. -/
theorem spares_saveWithPrompt (o : Sync.Options) (attempts : Nat) (s : Session)
    (outcome : Sync.SaveOutcome) : (saveWithPrompt o attempts s outcome).Spares := by
  induction attempts generalizing s outcome with
  | zero => trivial
  | succ attempts ih =>
    cases outcome with
    | passwordRequired p =>
      intro answer
      refine (Sync.spares_resumeUpdate o s p answer).bind fun x => ?_
      obtain ⟨result, s⟩ := x
      cases result with
      | error e => trivial
      | ok outcome => exact ih s outcome
    | _ => trivial

/-! ## Commands -/

/-- Only a success comes after a file has been written. -/
def Succeeds (_ : String) (_ : Bytes) (r : Except Error Report) : Prop := ∃ report, r = .ok report

/-- **What a push comes to once it has written its file**, with a session: the link, and without it
a fault. -/
def Links (ctx : Context) (path written : String) (content : Bytes) (r : Except Error Report) :
    Prop :=
  written = path ∧ ∃ (copy : WorkingCopy) (s : Session) (id : String) (report : Report),
    content = Utf8.encode (copy.updateFrom s).render ∧
    r = (Link.remote ctx.linkBase id).map fun link => { report with output := some link }

/-- A text is written, and then the command has succeeded. -/
theorem writesLast_saveText_pure (path text : String) (report : Report) :
    WritesLast Succeeds (saveText path text >>= fun _ => pure report) :=
  writesLast_saveText (x := .ok report) ⟨report, rfl⟩

/-- Fetching a document writes the file at its end. -/
theorem writesLast_pull (id path : String) : WritesLast Succeeds (pull id path) := by
  refine writesLast_bind (spares_confirmReplace path) fun agreed => ?_
  split
  · trivial
  · refine writesLast_bind (spares_perform (spares_fetchWithPrompt {} id)) fun out => ?_
    refine writesLast_bind (spares_settle _) fun summary => ?_
    exact writesLast_saveText_pure path _ _

-- How links are read is of no interest here, and takes long to unfold.
attribute [local irreducible] Link.parse

/-- Opening a link writes the file at its end. -/
theorem writesLast_openLink (link path : String) : WritesLast Succeeds (openLink link path) := by
  refine writesLast_bind (spares_settle _) fun target => ?_
  cases target with
  | remote id => exact writesLast_pull id path
  | inline dt =>
    refine writesLast_bind (spares_confirmReplace path) fun agreed => ?_
    split
    · trivial
    · exact writesLast_saveText_pure path _ _

/-- Pasting writes the file at its end. -/
theorem writesLast_paste (text path : String) : WritesLast Succeeds (paste text path) := by
  refine writesLast_bind (spares_settle _) fun dt => ?_
  refine writesLast_bind (fun x => trivial) fun x => writesLast_bind (spares_settle _) fun found => ?_
  extract_lets s jp
  have hsave (r : Report) : WritesLast Succeeds
      (saveCopy path (.ofSession (s.applyPasted dt)) >>= fun _ => pure r) :=
    writesLast_saveText_pure path _ r
  unfold Session.paste
  by_cases hdirty : s.dirty = true
  · rw [if_pos hdirty]
    refine writesLast_bind (spares_perform fun agreed => trivial) fun agreed => ?_
    cases agreed with
    | false => trivial
    | true => exact hsave _
  · rw [if_neg hdirty]
    exact hsave _

/-- Adding a dataset writes the file at its end. -/
theorem writesLast_addDataset (path name : String) : WritesLast Succeeds (addDataset path name) := by
  refine writesLast_bind (spares_openCopy path) fun opened => ?_
  refine writesLast_bind (spares_settle _) fun s => ?_
  exact writesLast_saveText_pure path _ _

/-- Removing a dataset writes the file at its end. -/
theorem writesLast_removeDataset (path name : String) :
    WritesLast Succeeds (removeDataset path name) := by
  refine writesLast_bind (spares_openCopy path) fun opened => ?_
  obtain ⟨copy, s⟩ := opened
  have hstore (s : Session) (r : Report) :
      WritesLast Succeeds (storeCopy path copy s >>= fun _ => pure r) :=
    writesLast_saveText_pure path _ r
  dsimp only
  generalize s.removeDataset name = removal
  obtain ⟨first, s⟩ := removal
  refine writesLast_bind (spares_settle _) fun decision => ?_
  cases decision with
  | done removal => exact hstore _ _
  | ask q =>
    refine writesLast_bind (spares_perform fun agreed => trivial) fun agreed => ?_
    cases agreed with
    | false => trivial
    | true => exact writesLast_bind (spares_settle _) fun removal => hstore _ _

/-- Setting passwords writes the file at its end. -/
theorem writesLast_protect (ctx : Context) (path : String) (p : Protection) :
    WritesLast Succeeds (protect ctx path p) := by
  refine writesLast_bind (spares_openCopy path) fun opened => ?_
  refine writesLast_bind (spares_settle _) fun s => ?_
  refine writesLast_bind (spares_perform (Sync.spares_update ctx.options s)) fun out => ?_
  refine writesLast_bind (spares_settle _) fun outcome => ?_
  refine writesLast_bind (spares_perform (spares_saveWithPrompt ..)) fun out => ?_
  refine writesLast_bind (spares_settle _) fun outcome => ?_
  cases outcome with
  | updated => exact writesLast_saveText_pure path _ _
  | _ => trivial

/-- **The end of a push writes the file, and then makes the link.** -/
theorem writesLast_finishPush (ctx : Context) (path : String) (copy : WorkingCopy) (s : Session)
    (r : Report) (outcome : Sync.SaveOutcome) :
    WritesLast (Links ctx path) (finishPush ctx path copy s r outcome) := by
  refine writesLast_bind (spares_perform (spares_saveWithPrompt ..)) fun out => ?_
  refine writesLast_bind (spares_settle _) fun outcome => ?_
  have hpushed (s : Session) (id text : String) :
      WritesLast (Links ctx path) (pushed ctx path copy s r id text) := by
    have heq : pushed ctx path copy s r id text = saveText path (copy.updateFrom s).render >>=
        fun _ => settle ((Link.remote ctx.linkBase id).map fun link =>
          { r.tell .success text with output := some link, session := some s }) := by
      unfold pushed storeCopy saveCopy
      congr 1
      funext u
      cases Link.remote ctx.linkBase id <;> rfl
    rw [heq]
    let report := { r.tell .success text with session := some s }
    exact writesLast_saveText ⟨rfl, copy, s, id, report, rfl, rfl⟩
  cases outcome with
  | created id => exact hpushed _ id _
  | updated id revision => exact hpushed _ id _
  | _ => trivial

/-- **A push writes the file, and then makes the link.** -/
theorem writesLast_push (ctx : Context) (path : String) (o : PushOptions) :
    WritesLast (Links ctx path) (push ctx path o) := by
  refine writesLast_bind (spares_openCopy path) fun opened => ?_
  dsimp only
  refine writesLast_bind (spares_perform (Sync.spares_save ctx.options _)) fun out => ?_
  refine writesLast_bind (spares_settle _) fun start => ?_
  cases start with
  | saved outcome => exact writesLast_finishPush ..
  | conflict q =>
    have hoverwrite (copy : WorkingCopy) (s : Session) (r : Report) : WritesLast (Links ctx path)
        (perform (Sync.overwrite ctx.options s q.action) >>= fun out =>
          settle out.1 >>= finishPush ctx path copy out.2 r) := by
      refine writesLast_bind (spares_perform (Sync.spares_overwrite ctx.options s q.action))
        fun out => ?_
      exact writesLast_bind (spares_settle _) fun outcome => writesLast_finishPush ..
    dsimp only
    split
    · exact hoverwrite ..
    · refine writesLast_bind (spares_perform fun agreed => trivial) fun agreed => ?_
      cases agreed with
      | false => trivial
      | true => exact hoverwrite ..

/-! ## A base that no link can be made with -/

open Collaboration (noteDocument noteSetting noteStore keptNote wellFormed_note isValid_noteSetting)

variable {agrees : String → Bool → Prop} {σ σ' : Surroundings}

/-- **A push that would get through but for its link** fails, and has written a working copy of the
next revision. -/
theorem Forced.linkless {ctx : Context} {path : String} {u : User} {copy : WorkingCopy}
    {r : SyncRecord} {d : Store.Document} {dt : DataTemplate} (h : Forced ctx path u σ copy r d dt)
    (envs : Nat → Store.Setting) (hguard : d.guard? = none) (hfresh : d.revision ≤ r.revision)
    {base : String} {e : Error} (hbase : Link.remote base r.id = .error e) :
    ∃ σ' copy' r',
      (push { ctx with linkBase := base } path {}).run (.settled envs u) σ = (.error e, σ') ∧
      copyOf? (σ'.files.load path) = some copy' ∧ copy'.record = some r' ∧
      r'.revision = r.revision + 1 := by
  obtain ⟨old, hold⟩ := h.exists_load
  have hadmits : d.admits r.id none = true := Store.Document.admits_of_unguarded hguard none
  -- The files are as before until the working copy is written.
  obtain ⟨σ₂, hfiles, hsave⟩ : ∃ σ₂ : Surroundings, σ₂.files = σ.files ∧
      (Sync.save ctx.options copy.session).run (.settled envs u) σ =
        ((.ok (.updated r.id (r.revision + 1)), (saving copy r).completeUpdate (r.revision + 1)
          (some (RemoteDocument.hashOf (saving copy r).snapshot.sent (r.revision + 1))) none
          ctx.options.now), σ₂) := by
    refine ⟨_, ?_, h.run_save envs (Sync.run_sendUpdate_accepted h.id rfl h.wellFormed h.recorded
      h.faults h.stored rfl hadmits (Nat.lt_succ_of_le hfresh))⟩
    rfl
  obtain ⟨copy', r', hparse, -, hrecord, -, hrevision, -⟩ :=
    h.parse_updated h.kept_saving h.recorded _ none rfl
  have hpush : (push { ctx with linkBase := base } path {}).run (.settled envs u) σ = _ :=
    run_push_saved h.read hsave
  have hload : σ₂.files.load path = .ok old := by rw [hfiles, hold]
  obtain ⟨fs, hwritten, hrun⟩ :=
    run_finishPush_updated { ctx with linkBase := base } copy {} (run_saveWithPrompt_updated ..) hload
  rw [hbase] at hrun
  refine ⟨_, copy', r', hpush.trans hrun, ?_, hrecord, hrevision⟩
  refine Knowledge.copyOf?_eq_some.2 ⟨_, ?_, hparse⟩
  rw [hwritten, textOf, Utf8.decode_encode]

/-- How the draft is pushed with a base that is no URL. -/
def linklessContext : Context := { draftContext with linkBase := "nowhere" }

/-- The draft in a file, and the document in the store as it was fetched. -/
def unguardedDraft : Surroundings where
  files := (draftSurroundings 3).files
  store := noteStore

/-- The draft can be pushed where its document is not guarded. -/
theorem forced_unguardedDraft :
    Forced draftContext "a" draftUser unguardedDraft draft draftRecord keptNote noteDocument where
  read := copyOf?_draft 3
  linked := rfl
  dirty := isDirty_draft
  readable := readable_draft
  id := by decide
  faults := rfl
  stored := Store.get?_put_self _ _ _
  holds := Store.Document.holds_write wellFormed_note noteSetting 3 (fun _ h => nomatch h)
    (fun _ h => nomatch h)
  recorded := by decide
  held := by decide
  password g hg := nomatch hg
  attempts := by decide
  link := ⟨_, rfl⟩
  time := by decide

/-- The push of the draft fails for want of a link, and has written the file. -/
theorem ends_draft_linkless : ∃ σ' message,
    Ends (fun _ _ => True) unguardedDraft (push linklessContext "a" {}) σ'
        (.error (.config message)) ∧
      σ'.files.load "a" ≠ unguardedDraft.files.load "a" := by
  obtain ⟨message, hbase⟩ : ∃ message,
      Link.remote "nowhere" draftRecord.id = .error (.config message) := ⟨_, rfl⟩
  obtain ⟨σ', copy', r', hrun, hread, hrecord, hrevision⟩ :=
    forced_unguardedDraft.linkless (fun _ => noteSetting) rfl (Nat.le_refl 3) hbase
  refine ⟨σ', message, ?_, fun hsame => ?_⟩
  · exact ends_of_run (fun _ => isValid_noteSetting) (fun _ => trivial) hrun
  · -- The file is read as the draft at revision 3 before, and at revision 4 after.
    rw [hsame] at hread
    obtain rfl := Option.some.inj (hread.symm.trans forced_unguardedDraft.read)
    obtain rfl := Option.some.inj (hrecord.symm.trans forced_unguardedDraft.linked)
    cases hrevision

/-! ## All commands -/

/-- **The commands that write a working copy.** -/
inductive Writing where
  | pull (id path : String)
  | openLink (link path : String)
  | push (ctx : Context) (path : String) (o : PushOptions)
  | protect (ctx : Context) (path : String) (p : Protection)
  | paste (text path : String)
  | addDataset (path name : String)
  | removeDataset (path name : String)

/-- What such a command does. -/
def Writing.procedure : Writing → Procedure Report
  | .pull id path => Command.pull id path
  | .openLink link path => Command.openLink link path
  | .push ctx path o => Command.push ctx path o
  | .protect ctx path p => Command.protect ctx path p
  | .paste text path => Command.paste text path
  | .addDataset path name => Command.addDataset path name
  | .removeDataset path name => Command.removeDataset path name

/-- **What such a command comes to once it has written its file**: for a push it depends on the link,
and all others have succeeded. -/
def Writing.Closes : Writing → String → Bytes → Except Error Report → Prop
  | .push ctx path _ => Links ctx path
  | _ => Succeeds

/-- **Every command writes its file last**, but for the link that a push makes. -/
theorem Writing.writesLast (c : Writing) : WritesLast c.Closes c.procedure := by
  cases c with
  | pull id path => exact writesLast_pull id path
  | openLink link path => exact writesLast_openLink link path
  | push ctx path o => exact writesLast_push ctx path o
  | protect ctx path p => exact writesLast_protect ctx path p
  | paste text path => exact writesLast_paste text path
  | addDataset path name => exact writesLast_addDataset path name
  | removeDataset path name => exact writesLast_removeDataset path name

/-- **A push has written its file and cannot make the link** to the document. -/
def Writing.Linkless (c : Writing) (σ σ' : Surroundings) (e : Error) : Prop :=
  ∃ ctx path o, c = .push ctx path o ∧ ∃ (copy : WorkingCopy) (s : Session) (id : String),
    σ.files.save path (Utf8.encode (copy.updateFrom s).render) = .ok σ'.files ∧
      Link.remote ctx.linkBase id = .error e

/-- **A command that fails leaves all files as they were**, but for a push that has been accepted by
the store and cannot make its link. Such a push fails whenever it has written its file. -/
theorem unchanged_or_linkless {c : Writing} {r : Except Error Report}
    (h : Ends agrees σ c.procedure σ' r) :
    (∀ e, r = .error e → σ'.files = σ.files ∨ c.Linkless σ σ' e) ∧
      ∀ ctx path o, c = .push ctx path o → (∀ id, ∃ e, Link.remote ctx.linkBase id = .error e) →
        σ'.files = σ.files ∨ ∃ e, r = .error e := by
  refine ⟨fun e he => ?_, fun ctx path o hc hbase => ?_⟩
  · subst he
    rcases c.writesLast.of_runs h with hsame | ⟨written, content, hsave, hclose⟩
    · exact .inl hsame
    · -- Once the file is written only a push can fail: all other commands end with a report.
      cases c with
      | push ctx path o =>
        obtain ⟨rfl, copy, s, id, report, rfl, hlink⟩ := hclose
        refine .inr ⟨ctx, _, o, rfl, copy, s, id, hsave, ?_⟩
        cases hremote : Link.remote ctx.linkBase id with
        | ok link =>
          rw [hremote] at hlink
          cases hlink
        | error e' =>
          rw [hremote] at hlink
          exact congrArg Except.error (Except.error.inj hlink).symm
      | _ =>
        obtain ⟨report, hreport⟩ := hclose
        cases hreport
  · subst hc
    have hlast := (Writing.push ctx path o).writesLast
    rcases hlast.of_runs h with hsame | ⟨written, content, hsave, hclose⟩
    · exact .inl hsame
    · obtain ⟨-, copy, s, id, report, -, hlink⟩ := hclose
      obtain ⟨e, he⟩ := hbase id
      refine .inr ⟨e, ?_⟩
      rw [hlink, he]
      rfl

/-- The push of the draft ends as such a push does. -/
theorem unchanged_or_linkless_draft : ∃ σ' r,
    Ends (fun _ _ => True) unguardedDraft (Writing.push linklessContext "a" {}).procedure σ' r ∧
      (∀ e, r = .error e → σ'.files = unguardedDraft.files ∨
        (Writing.push linklessContext "a" {}).Linkless unguardedDraft σ' e) ∧
      ∀ ctx path o, Writing.push linklessContext "a" {} = .push ctx path o →
        (∀ id, ∃ e, Link.remote ctx.linkBase id = .error e) →
          σ'.files = unguardedDraft.files ∨ ∃ e, r = .error e := by
  obtain ⟨σ', message, hends, -⟩ := ends_draft_linkless
  exact ⟨σ', _, hends, unchanged_or_linkless hends⟩

/-- **A push that fails, not for its file, and has changed the file.** -/
theorem exists_written_fault : ∃ ctx path o σ σ' e,
    Ends (fun _ _ => True) σ (Writing.push ctx path o).procedure σ' (.error e) ∧
      (∀ fault, e ≠ .file fault) ∧ σ'.files.load path ≠ σ.files.load path := by
  obtain ⟨σ', message, hends, hchanged⟩ := ends_draft_linkless
  exact ⟨_, _, _, _, σ', _, hends, fun fault h => (nomatch h), hchanged⟩

end Command

end TemplateShare
