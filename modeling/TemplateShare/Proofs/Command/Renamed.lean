import TemplateShare.Proofs.Collaboration
import TemplateShare.Proofs.Session.Renamed

/-! # Commands under renamed passwords

A command does the same to files whatever the passwords are called: what it writes is made of the
session's document and of what the session knows of the copy in the store, among which there are no
passwords. Most commands meet no password at all, as they neither talk to the store nor ask for one.

* **`Dialogue.Offline`** — a dialogue without requests and without questions for a password.
* **`Procedure.Alike`** — procedures that differ only by a renaming of passwords.
* **`Command.alike_bind_outcomes`**, **`Command.alike_bind_exchange`** — what follows on loads and
  saves.
* **`Command.alike_pull`**, **`Command.alike_push`**, **`Command.alike_protect`** — the commands that
  meet passwords.
* **`Renaming.errand`**, **`Errand.alike_procedure`** — the commands of an author. -/

namespace TemplateShare

/-! ## Dialogues without passwords -/

namespace Dialogue

variable {ρ : Renaming} {α β : Type} {d : Dialogue α}

/-- **A dialogue that meets no passwords**: it sends no requests and does not ask for any. -/
def Offline : Dialogue α → Prop
  | .done _ => True
  | .exchange .. => False
  | .askPassword .. => False
  | .confirm _ next => ∀ x, (next x).Offline
  | .loadFile _ next => ∀ x, (next x).Offline
  | .saveFile _ _ next => ∀ x, (next x).Offline

/-- It goes on without them if its parts do. -/
theorem Offline.bind (hd : d.Offline) {f : α → Dialogue β} (hf : ∀ a, (f a).Offline) :
    (d.bind f).Offline := by
  induction d with
  | done a => exact hf a
  | exchange r next ih => exact hd.elim
  | askPassword q next ih => exact hd.elim
  | confirm q next ih => exact fun x => ih x (hd x)
  | loadFile p next ih => exact fun x => ih x (hd x)
  | saveFile p c next ih => exact fun x => ih x (hd x)

/-- **It is the same under any renaming.** -/
theorem Offline.alike (hd : d.Offline) {Q : α → α → Prop} (hQ : ∀ a, Q a a) : Alike ρ Q d d := by
  induction d with
  | done a => exact .done (hQ a)
  | exchange r next ih => exact hd.elim
  | askPassword q next ih => exact hd.elim
  | confirm q next ih => exact .confirm fun x => ih x (hd x)
  | loadFile p next ih => exact .loadFile fun x => ih x (hd x)
  | saveFile p c next ih => exact .saveFile fun x => ih x (hd x)

end Dialogue

/-! ## Procedures -/

namespace Procedure

variable {ρ : Renaming} {α β : Type} {Q : α → α → Prop} {R : β → β → Prop} {x x' : Procedure α}

/-- **Two ends of a procedure**: values that `Q` relates, or faults of whatever kind. -/
inductive Both (Q : α → α → Prop) : Except Error α → Except Error α → Prop
  | ok {a a' : α} (related : Q a a') : Both Q (.ok a) (.ok a')
  | error (e e' : Error) : Both Q (.error e) (.error e')

/-- The same end twice. -/
theorem Both.refl (hQ : ∀ a, Q a a) (x : Except Error α) : Both Q x x := by
  cases x with
  | ok a => exact .ok (hQ a)
  | error e => exact .error e e

/-- **Procedures that differ only by a renaming** of passwords. -/
abbrev Alike (ρ : Renaming) (Q : α → α → Prop) (x x' : Procedure α) : Prop :=
  Dialogue.Alike ρ (Both Q) (x : Dialogue (Except Error α)) (x' : Dialogue (Except Error α))

/-- A procedure that meets no passwords. -/
abbrev Offline (x : Procedure α) : Prop := Dialogue.Offline (x : Dialogue (Except Error α))

/-- **Procedures that are alike go on alike.** -/
theorem alike_bind {f f' : α → Procedure β} (h : Alike ρ Q x x')
    (hf : ∀ a a', Q a a' → Alike ρ R (f a) (f' a')) : Alike ρ R (x >>= f) (x' >>= f') := by
  refine Dialogue.Alike.bind h ?_
  rintro r r' (⟨related⟩ | ⟨e, e'⟩)
  · exact hf _ _ related
  · exact .done (.error e e')

/-- They do so with the same value, if they are known to end with the same. -/
theorem alike_bind_eq {f f' : α → Procedure β} (h : Alike ρ Eq x x')
    (hf : ∀ a, Alike ρ R (f a) (f' a)) : Alike ρ R (x >>= f) (x' >>= f') := by
  refine alike_bind h ?_
  rintro a _ rfl
  exact hf a

theorem alike_pure {a a' : α} (h : Q a a') : Alike ρ Q (pure a) (pure a') := .done (.ok h)

/-- What is settled alike. -/
theorem alike_settle {r r' : Except Error α} (h : Both Q r r') :
    Alike ρ Q (Command.settle r) (Command.settle r') := .done h

/-- Dialogues that are alike as parts of procedures. -/
theorem alike_perform {d d' : Dialogue α} (h : Dialogue.Alike ρ Q d d') :
    Alike ρ Q (Command.perform d) (Command.perform d') :=
  Dialogue.Alike.bind h fun _ _ ha => .done (.ok ha)

/-- A procedure that meets no passwords goes on with one that meets none either. -/
theorem offline_bind {f : α → Procedure β} (hx : Offline x) (hf : ∀ a, Offline (f a)) :
    Offline (x >>= f) := by
  refine Dialogue.Offline.bind hx fun r => ?_
  cases r with
  | ok a => exact hf a
  | error e => trivial

theorem offline_settle (r : Except Error α) : Offline (Command.settle r) := trivial

theorem offline_perform {d : Dialogue α} (h : d.Offline) : Offline (Command.perform d) :=
  h.bind fun _ => trivial

/-- **A procedure that meets no passwords is the same** under any renaming. -/
theorem alike_of_offline (h : Offline x) (hQ : ∀ a, Q a a) : Alike ρ Q x x :=
  Dialogue.Offline.alike h fun r => .refl hQ r

/-- **What follows on a procedure that meets no passwords** is all that can differ. -/
theorem alike_bind_offline {f f' : α → Procedure β} (h : Offline x)
    (hf : ∀ a, Alike ρ R (f a) (f' a)) : Alike ρ R (x >>= f) (x >>= f') :=
  alike_bind_eq (alike_of_offline h fun _ => rfl) hf

end Procedure

namespace Command

open Procedure

variable {ρ : Renaming} {s : Session}

/-! ## Steps of commands -/

theorem offline_saveText (path text : String) : Offline (saveText path text) := by
  rintro (e | u) <;> trivial

theorem offline_loadCopy (path : String) : Offline (loadCopy path) :=
  offline_bind (offline_bind (offline_perform fun _ => trivial) fun _ => offline_settle _)
    fun _ => offline_settle _

theorem offline_openCopy (path : String) : Offline (openCopy path) :=
  offline_bind (offline_loadCopy path) fun _ => trivial

theorem offline_confirmReplace (path : String) : Offline (confirmReplace path) := by
  refine offline_bind (offline_perform fun _ => trivial) fun x => ?_
  refine offline_bind (offline_settle _) fun found => ?_
  cases found with
  | none => trivial
  | some copy =>
    dsimp only
    split
    · exact offline_perform fun _ => trivial
    · trivial

/-- What follows on opening a working copy, with the session of the copy. -/
theorem alike_bind_openCopy {β : Type} {R : β → β → Prop} {path : String}
    {f f' : WorkingCopy × Session → Procedure β}
    (hf : ∀ copy, Alike ρ R (f (copy, copy.session)) (f' (copy, copy.session))) :
    Alike ρ R (openCopy path >>= f) (openCopy path >>= f') := by
  have hopen : Alike ρ (fun a a' => a' = a ∧ a.2 = a.1.session) (openCopy path) (openCopy path) :=
    alike_bind_offline (offline_loadCopy path) fun _ => alike_pure ⟨rfl, rfl⟩
  refine alike_bind hopen ?_
  rintro ⟨copy, s⟩ _ ⟨rfl, hs⟩
  obtain rfl : s = copy.session := hs
  exact hf copy

/-! ## Exchanges with questions -/

/-- **What follows on a load or a save** is alike if it is so after the same success, and if it passes
faults on. -/
theorem alike_bind_outcomes {α β : Type} {d d' : Dialogue (Sync.Outcome α)}
    (h : Dialogue.Alike ρ ρ.Outcomes d d') {f : Sync.Outcome α → Dialogue (Sync.Outcome β)}
    (hfault : ∀ e s, f (.error e, s) = .done (.error e, s))
    (hf : ∀ a s, ρ.Covers s.held →
      Dialogue.Alike ρ ρ.Outcomes (f (.ok a, s)) (f (.ok a, ρ.session s))) :
    Dialogue.Alike ρ ρ.Outcomes (d.bind f) (d'.bind f) := by
  refine h.bind ?_
  rintro ⟨result, s⟩ ⟨result', s'⟩ ⟨hresult, rfl, hs⟩
  rcases hresult with hsame | ⟨e, e', he, he'⟩
  · obtain rfl : result' = result := hsame
    cases result' with
    | error e =>
      rw [hfault, hfault]
      exact .done (Sync.outcomes_same _ hs)
    | ok a => exact hf a s hs
  · obtain rfl : result = .error (.encoding e) := he
    obtain rfl : result' = .error (.encoding e') := he'
    rw [hfault, hfault]
    exact .done ⟨.inr ⟨e, e', rfl, rfl⟩, rfl, hs⟩

/-- **A fetch with its question.** -/
theorem alike_fetchWithPrompt (hs : ρ.Covers s.held) (id : String) :
    Dialogue.Alike ρ ρ.Outcomes (fetchWithPrompt s id) (fetchWithPrompt (ρ.session s) id) := by
  refine alike_bind_outcomes (Sync.alike_fetch hs id) (fun _ _ => rfl) fun first s hs => ?_
  cases first with
  | loaded summary => exact .done (Sync.outcomes_same _ hs)
  | discarded => exact .done (Sync.outcomes_same _ hs)
  | passwordRequired t =>
    have hasked : Dialogue.Alike ρ ρ.Outcomes
        ((askPassword ("Password for " ++ t.id)).bind (Sync.fetchWithPassword s t))
        ((askPassword ("Password for " ++ t.id)).bind (Sync.fetchWithPassword (ρ.session s) t)) :=
      .askPassword fun a a' ha => Sync.alike_fetchWithPassword hs t ha
    refine alike_bind_outcomes hasked (fun _ _ => rfl) fun outcome s hs => ?_
    cases outcome <;> exact .done (Sync.outcomes_same _ hs)

/-- **A save with its questions**, however often it asks. -/
theorem alike_saveWithPrompt (hs : ρ.Covers s.held) (o : Sync.Options) (attempts : Nat)
    (outcome : Sync.SaveOutcome) : Dialogue.Alike ρ ρ.Outcomes (saveWithPrompt o attempts s outcome)
      (saveWithPrompt o attempts (ρ.session s) outcome) := by
  induction attempts generalizing s outcome with
  | zero => exact .done (Sync.outcomes_same _ hs)
  | succ attempts ih =>
    cases outcome with
    | passwordRequired p =>
      refine .askPassword fun a a' ha => ?_
      exact alike_bind_outcomes (Sync.alike_resumeUpdate hs p ha) (fun _ _ => rfl)
        fun outcome s hs => ih hs outcome
    | _ => exact .done (Sync.outcomes_same _ hs)

/-- The result of a load or a save is the same, or a fault under both names. -/
theorem both_of_outcomes {α : Type} {out out' : Sync.Outcome α} (h : ρ.Outcomes out out') :
    Both Eq out.1 out'.1 := by
  rcases h.result with hsame | ⟨e, e', he, he'⟩
  · rw [hsame]
    exact .refl (fun _ => rfl) _
  · rw [he, he']
    exact .error _ _

/-- **What follows on a load or a save in a command**, when its result is settled. -/
theorem alike_bind_exchange {α β : Type} {R : β → β → Prop} {d d' : Dialogue (Sync.Outcome α)}
    (h : Dialogue.Alike ρ ρ.Outcomes d d') {f f' : Sync.Outcome α → α → Procedure β}
    (hf : ∀ a r r' s, ρ.Covers s.held → Alike ρ R (f (r, s) a) (f' (r', ρ.session s) a)) :
    Alike ρ R (perform d >>= fun out => settle out.1 >>= f out)
      (perform d' >>= fun out => settle out.1 >>= f' out) := by
  refine alike_bind (alike_perform h) ?_
  rintro ⟨r, s⟩ ⟨r', s'⟩ hout
  obtain rfl : s' = ρ.session s := hout.session
  exact alike_bind_eq (alike_settle (both_of_outcomes hout)) fun a => hf a r r' s hout.covers

/-! ## Commands that meet no passwords -/

theorem offline_paste (text path : String) : Offline (paste text path) := by
  refine offline_bind (offline_settle _) fun dt => ?_
  refine offline_bind (offline_perform fun _ => trivial) fun x => ?_
  refine offline_bind (offline_settle _) fun found => ?_
  extract_lets s jp
  have hsave (s : Session) (r : Report) :
      Offline (saveCopy path (.ofSession s) >>= fun _ => pure r) :=
    offline_bind (offline_saveText path _) fun _ => trivial
  unfold Session.paste
  by_cases hdirty : s.dirty = true
  · rw [if_pos hdirty]
    refine offline_bind (offline_perform fun _ => trivial) fun agreed => ?_
    cases agreed with
    | false => exact trivial
    | true => exact hsave _ _
  · rw [if_neg hdirty]
    exact hsave _ _

theorem offline_listDatasets (path : String) : Offline (listDatasets path) :=
  offline_bind (offline_openCopy path) fun _ => trivial

theorem offline_addDataset (path name : String) : Offline (addDataset path name) := by
  refine offline_bind (offline_openCopy path) fun opened => ?_
  refine offline_bind (offline_settle _) fun s => ?_
  exact offline_bind (offline_saveText path _) fun _ => trivial

theorem offline_removeDataset (path name : String) : Offline (removeDataset path name) := by
  refine offline_bind (offline_openCopy path) fun opened => ?_
  have hstore (s : Session) (r : Report) :
      Offline (storeCopy path opened.1 s >>= fun _ => pure r) :=
    offline_bind (offline_saveText path _) fun _ => trivial
  refine offline_bind (offline_settle _) fun decision => ?_
  cases decision with
  | done removal => exact hstore _ _
  | ask q =>
    refine offline_bind (offline_perform fun _ => trivial) fun agreed => ?_
    cases agreed with
    | false => exact trivial
    | true => exact offline_bind (offline_settle _) fun removal => hstore _ _

/-! ## Commands that meet passwords -/

/-- **Fetching a document.** -/
theorem alike_pull (id path : String) :
    Alike ρ (fun _ _ => True) (pull id path) (pull id path) := by
  refine alike_bind_offline (offline_confirmReplace path) fun agreed => ?_
  split
  · exact alike_pure trivial
  · have hblank : ρ.Covers ({} : Session).held := ρ.covers_nil
    refine alike_bind_exchange (alike_fetchWithPrompt hblank id) fun summary _ _ s hs => ?_
    -- The same file is written, as the passwords are no part of it.
    exact alike_bind_offline (offline_saveText path _) fun _ => alike_pure trivial

-- How links are read is of no interest here, and takes long to unfold.
attribute [local irreducible] Link.parse

/-- **Opening a link.** -/
theorem alike_openLink (link path : String) :
    Alike ρ (fun _ _ => True) (openLink link path) (openLink link path) := by
  refine alike_bind_offline (offline_settle _) fun target => ?_
  cases target with
  | remote id => exact alike_pull id path
  | inline dt =>
    refine alike_bind_offline (offline_confirmReplace path) fun agreed => ?_
    split
    · exact alike_pure trivial
    · exact alike_bind_offline (offline_saveText path _) fun _ => alike_pure trivial

/-- **The end of a push.** -/
theorem alike_finishPush (hs : ρ.Covers s.held) (ctx : Context) (path : String)
    (copy : WorkingCopy) (r : Report) (outcome : Sync.SaveOutcome) :
    Alike ρ (fun _ _ => True) (finishPush ctx path copy s r outcome)
      (finishPush ctx path copy (ρ.session s) r outcome) := by
  refine alike_bind_exchange (alike_saveWithPrompt hs _ _ outcome) fun result _ _ s hs => ?_
  have hpushed (id text : String) : Alike ρ (fun _ _ => True) (pushed ctx path copy s r id text)
      (pushed ctx path copy (ρ.session s) r id text) := by
    refine alike_bind_offline (offline_saveText path _) fun _ => ?_
    exact alike_bind_offline (offline_settle _) fun _ => alike_pure trivial
  cases result with
  | created id => exact hpushed id _
  | updated id revision => exact hpushed id _
  | noChanges => exact alike_pure trivial
  | notUpdated => exact alike_pure trivial
  | discarded => exact alike_pure trivial
  | passwordRequired p => exact alike_pure trivial

/-- A push starts in the same way. -/
theorem both_startPush {first first' : Sync.Outcome Sync.SaveOutcome}
    (h : ρ.Outcomes first first') :
    Both Eq (startPush first.1 first.2) (startPush first'.1 first'.2) := by
  have hquestion : Sync.requestOverwrite (ρ.session first.2) = Sync.requestOverwrite first.2 := rfl
  rw [h.session]
  rcases h.result with hsame | ⟨e, e', he, he'⟩
  · rw [hsame]
    unfold startPush
    rw [hquestion]
    exact .refl (fun _ => rfl) _
  · rw [he, he']
    exact .error _ _

/-- **A push**, with any options. -/
theorem alike_push (ctx : Context) (path : String) (o : PushOptions) :
    Alike ρ (fun _ _ => True) (push ctx path o) (push ctx path o) := by
  refine alike_bind_openCopy fun copy => ?_
  dsimp only
  generalize (if o.newLink && !copy.session.isUnsaved then detached copy else copy) = chosen
  -- The session of a working copy holds no password, so the renaming leaves it as it is.
  obtain ⟨hsession, hheld⟩ := Renaming.session_copy (ρ := ρ) chosen
  have hsave := Sync.alike_save (o := ctx.options) hheld
  rw [hsession] at hsave
  refine alike_bind (alike_perform hsave) ?_
  rintro ⟨first, s⟩ ⟨first', s'⟩ hout
  obtain rfl : s' = ρ.session s := hout.session
  have hs : ρ.Covers s.held := hout.covers
  refine alike_bind_eq (alike_settle (both_startPush hout)) fun start => ?_
  cases start with
  | saved outcome => exact alike_finishPush hs ctx path chosen {} outcome
  | conflict q =>
    have hoverwrite (r : Report) : Alike ρ (fun _ _ => True)
        (perform (Sync.overwrite ctx.options s q.action) >>= fun out =>
          settle out.1 >>= finishPush ctx path chosen out.2 r)
        (perform (Sync.overwrite ctx.options (ρ.session s) q.action) >>= fun out =>
          settle out.1 >>= finishPush ctx path chosen out.2 r) :=
      alike_bind_exchange (Sync.alike_overwrite hs q.action) fun outcome _ _ s hs =>
        alike_finishPush hs ctx path chosen r outcome
    dsimp only
    split
    · exact hoverwrite _
    · refine alike_bind_offline (offline_perform fun _ => trivial) fun agreed => ?_
      cases agreed with
      | false => exact alike_pure trivial
      | true => exact hoverwrite _

/-- **Setting passwords**, under either name. -/
theorem alike_protect (ctx : Context) (path : String) {p : Protection} (hp : ρ.Covers p.passwords) :
    Alike ρ (fun _ _ => True) (protect ctx path p) (protect ctx path (ρ.protection p)) := by
  refine alike_bind_openCopy fun copy => ?_
  -- The passwords are set on the same session, or they cannot be set under either name.
  have hset : Both (fun s s' => s' = ρ.session s ∧ ρ.Covers s.held)
      (liftValidation (copy.session.protect p))
      (liftValidation (copy.session.protect (ρ.protection p))) := by
    have hprotect := Renaming.protect_session (ρ := ρ) copy.session p
    rw [(Renaming.session_copy copy).1] at hprotect
    rw [hprotect]
    cases hs : copy.session.protect p with
    | error e => exact .error _ _
    | ok s =>
      obtain ⟨-, -, rfl⟩ := Session.protect_eq_ok hs
      refine .ok ⟨rfl, ?_⟩
      simpa [Session.held] using hp
  refine alike_bind (alike_settle hset) ?_
  rintro s _ ⟨rfl, hs⟩
  refine alike_bind_exchange (Sync.alike_update hs) fun outcome _ _ s hs => ?_
  refine alike_bind_exchange (alike_saveWithPrompt hs _ _ outcome) fun result _ _ s hs => ?_
  cases result with
  | updated id revision =>
    exact alike_bind_offline (offline_saveText path _) fun _ => alike_pure trivial
  | created id => exact alike_pure trivial
  | noChanges => exact alike_pure trivial
  | notUpdated => exact alike_pure trivial
  | discarded => exact alike_pure trivial
  | passwordRequired p => exact alike_pure trivial

end Command

/-! ## Commands of an author -/

/-- The passwords that a command is given. -/
def Errand.passwords : Errand → List String
  | .protect _ _ p => p.passwords
  | _ => []

/-- **A command that is given other names** for its passwords. -/
def Renaming.errand (ρ : Renaming) : Errand → Errand
  | .protect ctx path p => .protect ctx path (ρ.protection p)
  | e => e

/-- **Each command is the same but for the renaming.** -/
theorem Errand.alike_procedure {ρ : Renaming} (e : Errand) (he : ρ.Covers e.passwords) :
    Procedure.Alike ρ (fun _ _ => True) e.procedure (ρ.errand e).procedure := by
  cases e with
  | pull id path => exact Command.alike_pull id path
  | openLink link path => exact Command.alike_openLink link path
  | push ctx path newLink => exact Command.alike_push ctx path { newLink }
  | protect ctx path p => exact Command.alike_protect ctx path he
  | paste text path =>
    exact Procedure.alike_of_offline (Command.offline_paste text path) fun _ => trivial
  | listDatasets path =>
    exact Procedure.alike_of_offline (Command.offline_listDatasets path) fun _ => trivial
  | addDataset path name =>
    exact Procedure.alike_of_offline (Command.offline_addDataset path name) fun _ => trivial
  | removeDataset path name =>
    exact Procedure.alike_of_offline (Command.offline_removeDataset path name) fun _ => trivial

end TemplateShare
