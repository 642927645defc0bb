import TemplateShare.Proofs.Collaboration
import TemplateShare.Proofs.Command.Truthful

/-! # Clean working copies hold what the store held

Any number of commands on any files over one store. They take turns, request by request and file by
file, and the user gives any answers. Beside the store stands which documents it has held at which
revisions, and beside the files which documents have been written to them. A linked working copy that
counts as clean holds the document of the store at the revision that it records.

* **`Workspace`**, **`Workspace.Step`**, **`Workspace.Reachable`** — commands on files over a store,
  and what can happen.
* **`Workspace.Vouched`**, **`Workspace.Records`** — checksums that belong to a revision, and files that
  record no others.
* **`Workspace.Consistent`** — what holds throughout; **`Workspace.Reachable.consistent`** — it always
  does.
* **`Workspace.clean_eq_held`** — what a clean working copy holds. -/

namespace TemplateShare

/-! ## Revisions in the store -/

namespace Store

/-- **The store holds a document** at a revision of an id. -/
def Holds (s : Store) (id : String) (n : Nat) (d : Document) : Prop :=
  s.get? id = some d ∧ d.revision = n

variable {env : Setting} {r : Request} {s s' : Store} {reply : Reply}

/-- **A document is replaced only at a later revision.** -/
theorem Answered.kept_or_later (h : Answered env r s (reply, s')) {id : String} {d' : Document}
    (hd' : s'.get? id = some d') :
    s.get? id = some d' ∨ ∀ d, s.get? id = some d → d.revision < d'.revision := by
  cases h with
  | bare documents => exact .inl (get?_congr documents id ▸ hd')
  | fetched _ _ _ documents => exact .inl (get?_congr documents id ▸ hd')
  | @written t dt revision _ _ _ _ _ later documents _ =>
    obtain ⟨hself, hother⟩ := get?_of_written documents
    by_cases hid : id = t.id env s
    · subst hid
      obtain rfl := Option.some.inj (hself.symm.trans hd')
      exact .inr later
    · exact .inl (hother id hid ▸ hd')

end Store

/-! ## Commands on files over a store -/

/-- **Files over a store**, the commands that are being carried out on them, and what has been. -/
structure Workspace where
  store : Store := {}
  files : Files := {}
  tasks : Nat → Dialogue (Except Error Report) := fun _ => .done (.ok {})
  /-- The documents that the store has held, each at its revision of an id. -/
  held : String → Nat → Store.Document → Prop := fun _ _ _ => False
  /-- The documents that have been written to files, as they are read. -/
  filed : DataTemplate → Prop := fun _ => False

namespace Workspace

/-- A command goes on. -/
def put (w : Workspace) (i : Nat) (t : Dialogue (Except Error Report)) : Workspace :=
  { w with tasks := fun j => if j = i then t else w.tasks j }

/-- The store is another one. -/
def take (w : Workspace) (s : Store) : Workspace :=
  { w with store := s, held := fun id n d => w.held id n d ∨ s.Holds id n d }

/-- A file is to be written. -/
def write (w : Workspace) (path : String) (content : Bytes) : Workspace :=
  { w with
    files := (w.files.write path content).2
    filed := fun x => w.filed x ∨
      ∃ copy, Command.copyOf? (.ok content) = some copy ∧ copy.template = x }

/-- **What can happen**: a command is started, also a push with any options, or the next step of one is
taken; or a fault is to meet a later request. The user gives any answers. Any two steps may be those
of different commands, and a command may be given up for another one. -/
inductive Step (w : Workspace) : Workspace → Prop
  | start (i : Nat) (e : Errand) : Step w (w.put i e.procedure)
  | push (i : Nat) (ctx : Command.Context) (path : String) (o : Command.PushOptions) :
      Step w (w.put i (Command.push ctx path o))
  | exchange {i : Nat} {r : Request} {next : Reply → Dialogue (Except Error Report)}
      {env : Store.Setting} (ids : ∀ n, DocumentId.isValid (env.idAt n) = true)
      (task : w.tasks i = .exchange r next) :
      Step w ((w.take (w.store.send env r).2).put i (next (w.store.send env r).1))
  | askPassword {i : Nat} {q : String} {next : Option String → Dialogue (Except Error Report)}
      (task : w.tasks i = .askPassword q next) (answer : Option String) :
      Step w (w.put i (next answer))
  | confirm {i : Nat} {q : String} {next : Bool → Dialogue (Except Error Report)}
      (task : w.tasks i = .confirm q next) (answer : Bool) : Step w (w.put i (next answer))
  | load {i : Nat} {path : String} {next : Except FileError Bytes → Dialogue (Except Error Report)}
      (task : w.tasks i = .loadFile path next) : Step w (w.put i (next (w.files.load path)))
  | save {i : Nat} {path : String} {content : Bytes}
      {next : Except FileError Unit → Dialogue (Except Error Report)}
      (task : w.tasks i = .saveFile path content next) :
      Step w ((w.write path content).put i (next (w.files.write path content).1))
  | inject (f : Store.Fault) : Step w { w with store := w.store.inject f }

/-- **A new workspace**: documents were put into the store, no command is being carried out, nothing has
been written, and no file has a link to a copy in a store. -/
structure IsNew (w : Workspace) : Prop where
  store : w.store.Seeded
  held : ∀ id n d, w.held id n d ↔ w.store.Holds id n d
  filed : ∀ x, ¬w.filed x
  tasks : ∀ i, w.tasks i = .done (.ok {})
  files : ∀ e ∈ w.files.contents, ∀ copy, Command.copyOf? (.ok e.2) = some copy →
    copy.record = none

/-- **What can be reached** from a new workspace. -/
inductive Reachable : Workspace → Prop
  | initial {w : Workspace} (new : w.IsNew) : Reachable w
  | step {w w' : Workspace} (reached : Reachable w) (step : Step w w') : Reachable w'

/-- **No collision has happened**: of the documents that have been written, those with one checksum are
written alike. -/
def CollisionFree (w : Workspace) : Prop :=
  ∀ x y, w.filed x → w.filed y → x.checksum = y.checksum →
    Portable.render .plain x = Portable.render .plain y

/-! ## What is recorded -/

variable {w w' : Workspace} {k : Evidence} {copy : WorkingCopy} {id t : String} {n : Nat}

/-- **A core that belongs to a revision**: the store held a document with this core at the
revision. -/
def Known (w : Workspace) (id : String) (n : Nat) (core : DataTemplate) : Prop :=
  ∃ d dt, w.held id n d ∧ d.Holds dt ∧ dt.core = core

/-- **A checksum that belongs to a revision**: a document with this checksum was written, and its core
belongs to the revision. -/
def Vouched (w : Workspace) (id : String) (n : Nat) (t : String) : Prop :=
  ∃ x, w.filed x ∧ x.checksum = t ∧ w.Known id n x.core

/-- **A working copy that records only what belongs together.** -/
structure Records (w : Workspace) (copy : WorkingCopy) : Prop where
  sound : copy.Sound
  filed : ∀ r ∈ copy.record, w.filed copy.template
  synced : ∀ r ∈ copy.record, ∀ t ∈ copy.synced, w.Vouched r.id r.revision t

/-- **Evidence that is true** of the store and of the files. -/
structure Confirms (w : Workspace) (k : Evidence) : Prop where
  contents : ∀ id n c, k.contents id n c → w.Known id n c
  checksums : ∀ id n t, k.checksums id n t → w.Vouched id n t

/-- **Nothing of what has been is forgotten.** -/
structure Extends (w' w : Workspace) : Prop where
  held : ∀ id n d, w.held id n d → w'.held id n d
  filed : ∀ x, w.filed x → w'.filed x

theorem extends_take (w : Workspace) (s : Store) : (w.take s).Extends w :=
  ⟨fun _ _ _ => .inl, fun _ h => h⟩

theorem extends_write (w : Workspace) (path : String) (content : Bytes) :
    (w.write path content).Extends w := ⟨fun _ _ _ h => h, fun _ => .inl⟩

/-- A core goes on to belong to its revision. -/
theorem Known.extend {core : DataTemplate} (h : w.Known id n core) (hw : w'.Extends w) :
    w'.Known id n core := by
  obtain ⟨d, dt, hheld, hdt⟩ := h
  exact ⟨d, dt, hw.held _ _ _ hheld, hdt⟩

/-- A checksum goes on to belong to its revision. -/
theorem Vouched.extend (h : w.Vouched id n t) (hw : w'.Extends w) : w'.Vouched id n t := by
  obtain ⟨x, hx, ht, hknown⟩ := h
  exact ⟨x, hw.filed x hx, ht, hknown.extend hw⟩

/-- A working copy goes on to record only what belongs together. -/
theorem Records.extend (h : w.Records copy) (hw : w'.Extends w) : w'.Records copy :=
  ⟨h.sound, fun r hr => hw.filed _ (h.filed r hr), fun r hr t ht => (h.synced r hr t ht).extend hw⟩

/-- Evidence goes on to be true. -/
theorem Confirms.extend (h : w.Confirms k) (hw : w'.Extends w) : w'.Confirms k :=
  ⟨fun id n c hc => (h.contents id n c hc).extend hw,
    fun id n t ht => (h.checksums id n t ht).extend hw⟩

/-- A command has no false evidence at its start. -/
theorem confirms_nothing (w : Workspace) : w.Confirms .nothing :=
  ⟨fun _ _ _ h => h.elim, fun _ _ _ h => h.elim⟩

/-- **What a reply of the store tells is true.** -/
theorem Confirms.hear (h : w.Confirms k) {env : Store.Setting} {r : Request} {reply : Reply}
    {s : Store} (hanswered : Store.Answered env r w.store (reply, s)) (hs : w.store.Sound)
    (ids : ∀ n, DocumentId.isValid (env.idAt n) = true) :
    (w.take s).Confirms (k.hear r reply) := by
  have h := h.extend (extends_take w s)
  refine ⟨?_, h.checksums⟩
  rintro id n c (hc | ⟨htells, dt, hdt, rfl⟩)
  · exact h.contents id n c hc
  · obtain ⟨d, kept, hd, hrevision, hkept, dt', hdt', hdocument⟩ := hanswered.holds hs ids htells
    obtain rfl := Option.some.inj (hdt.symm.trans hdt')
    refine ⟨d, kept, .inr ⟨hd, hrevision⟩, hkept, ?_⟩
    obtain rfl | rfl := hdocument
    · rfl
    · exact (DataTemplate.core_reloaded _).symm

/-- **What a file records is true.** -/
theorem Confirms.read (h : w.Confirms k) {x : Except FileError Bytes}
    (hx : ∀ copy, Command.copyOf? x = some copy → w.Records copy) : w.Confirms (k.read x) := by
  refine ⟨h.contents, ?_⟩
  rintro id n t (ht | ⟨copy, hcopy, hsynced, r, hr, rfl, rfl⟩)
  · exact h.checksums id n t ht
  · exact (hx copy hcopy).synced r hr t hsynced

/-- **What is written by true evidence** records only what belongs together. -/
theorem Confirms.records_write (h : w.Confirms k) {path : String} {content : Bytes}
    (hcontent : k.Backs content) (hcopy : Command.copyOf? (.ok content) = some copy) :
    (w.write path content).Records copy := by
  have hbacked := hcontent copy hcopy
  have hfiled : (w.write path content).filed copy.template := .inr ⟨copy, hcopy, rfl⟩
  refine ⟨hbacked.sound, fun _ _ => hfiled, fun r hr t ht => ?_⟩
  obtain hrecorded | ⟨rfl, hcontents⟩ := hbacked.synced r hr t ht
  · exact (h.checksums _ _ _ hrecorded).extend (extends_write w path content)
  · have hknown := h.contents _ _ _ hcontents
    exact ⟨_, hfiled, rfl, hknown.extend (extends_write w path content)⟩

/-! ## What holds throughout -/

/-- **A consistent workspace**: it remembers what the store holds, and nothing that contradicts it,
files record what belongs together, and commands go by what is true. -/
structure Consistent (w : Workspace) : Prop where
  store : w.store.Sound
  current : ∀ id n d, w.store.Holds id n d → w.held id n d
  past : ∀ id n d, w.held id n d →
    ∃ d', w.store.get? id = some d' ∧ (n < d'.revision ∨ (n = d'.revision ∧ d = d'))
  unique : ∀ id n d d', w.held id n d → w.held id n d' → d' = d
  filed : ∀ x, w.filed x → Portable.parse (Portable.render .plain x) = .ok x
  files : ∀ e ∈ w.files.contents, ∀ copy, Command.copyOf? (.ok e.2) = some copy → w.Records copy
  tasks : ∀ i, ∃ k, Procedure.Truthful (fun _ _ => True) (w.tasks i) k ∧ w.Confirms k

/-- A new workspace is consistent. -/
theorem IsNew.consistent (h : w.IsNew) : w.Consistent where
  store := h.store.sound
  current id n d := (h.held id n d).2
  past id n d hheld := by
    obtain ⟨hd, rfl⟩ := (h.held id n d).1 hheld
    exact ⟨d, hd, .inr ⟨rfl, rfl⟩⟩
  unique id n d d' hheld hheld' := by
    obtain ⟨hd, -⟩ := (h.held id n d).1 hheld
    obtain ⟨hd', -⟩ := (h.held id n d').1 hheld'
    exact Option.some.inj (hd'.symm.trans hd)
  filed x hx := absurd hx (h.filed x)
  files e he copy hcopy := by
    have hrecord := h.files e he copy hcopy
    obtain ⟨text, -, hparse⟩ := Knowledge.copyOf?_eq_some.1 hcopy
    refine ⟨WorkingCopy.sound_of_unlinked hparse hrecord, ?_, ?_⟩ <;>
      exact fun r hr => by rw [hrecord] at hr; cases hr
  tasks i := ⟨.nothing, by rw [h.tasks i]; exact fun _ _ => trivial, confirms_nothing w⟩

namespace Consistent

/-- A workspace stays consistent when a command goes on that goes by what is true. -/
theorem put (h : w.Consistent) {t : Dialogue (Except Error Report)}
    (ht : ∃ k, Procedure.Truthful (fun _ _ => True) t k ∧ w.Confirms k) (i : Nat) :
    (w.put i t).Consistent := by
  refine ⟨h.store, h.current, h.past, h.unique, h.filed, fun e he copy hcopy => ?_, fun j => ?_⟩
  · exact (h.files e he copy hcopy).extend ⟨fun _ _ _ hdt => hdt, fun _ hx => hx⟩
  · obtain ⟨k, htruthful, hk⟩ :
        ∃ k, Procedure.Truthful (fun _ _ => True) (if j = i then t else w.tasks j) k ∧
          w.Confirms k := by
      -- The other commands have not gone on.
      split
      · exact ht
      · exact h.tasks j
    exact ⟨k, htruthful, hk.extend ⟨fun _ _ _ hdt => hdt, fun _ hx => hx⟩⟩

/-- **A workspace stays consistent when the store answers.** -/
theorem take (h : w.Consistent) {env : Store.Setting} {r : Request} {reply : Reply} {s : Store}
    (hanswered : Store.Answered env r w.store (reply, s)) : (w.take s).Consistent := by
  have hextends := extends_take w s
  -- What was held is held still, or there is a later revision by now.
  have hpast : ∀ id n x, (w.take s).held id n x →
      ∃ d, s.get? id = some d ∧ (n < d.revision ∨ (n = d.revision ∧ x = d)) := by
    rintro id n x (hx | ⟨hx, rfl⟩)
    · obtain ⟨d, hd, hn⟩ := h.past id n x hx
      obtain ⟨d', hd', -⟩ := hanswered.revision_le hd
      refine ⟨d', hd', ?_⟩
      obtain hkept | hlater := hanswered.kept_or_later hd'
      · obtain rfl := Option.some.inj (hd.symm.trans hkept)
        exact hn
      · have hlater := hlater d hd
        omega
    · exact ⟨x, hx, .inr ⟨rfl, rfl⟩⟩
  refine ⟨h.store.answered hanswered, fun _ _ _ => .inr, hpast, fun id n x x' hx hx' => ?_,
    h.filed, fun e he copy hcopy => (h.files e he copy hcopy).extend hextends, fun i => ?_⟩
  · obtain ⟨d, hd, hn⟩ := hpast id n x hx
    obtain ⟨d', hd', hn'⟩ := hpast id n x' hx'
    obtain rfl := Option.some.inj (hd.symm.trans hd')
    obtain hearlier | ⟨rfl, rfl⟩ := hn
    · -- A document of an earlier revision is not the one that is held now.
      have hold {y : Store.Document} (hy : (w.take s).held id n y) : w.held id n y := by
        refine hy.resolve_right ?_
        rintro ⟨hstored, rfl⟩
        obtain rfl := Option.some.inj (hd.symm.trans hstored)
        exact Nat.lt_irrefl _ hearlier
      exact h.unique id n x x' (hold hx) (hold hx')
    · obtain hearlier | ⟨-, rfl⟩ := hn'
      · exact absurd hearlier (Nat.lt_irrefl _)
      · rfl
  · obtain ⟨k, htruthful, hk⟩ := h.tasks i
    exact ⟨k, htruthful, hk.extend hextends⟩

/-- **A workspace stays consistent when a file is written** by true evidence. -/
theorem write (h : w.Consistent) (hk : w.Confirms k) {path : String} {content : Bytes}
    (hcontent : k.Backs content) : (w.write path content).Consistent := by
  have hextends := extends_write w path content
  refine ⟨h.store, h.current, h.past, h.unique, ?_, fun e he copy hcopy => ?_, fun i => ?_⟩
  · rintro x (hx | ⟨copy, hcopy, rfl⟩)
    · exact h.filed x hx
    · exact (hcontent copy hcopy).readsBack
  · obtain hnew | hold := Files.mem_of_write he
    · exact hk.records_write hcontent (hnew ▸ hcopy)
    · exact (h.files e hold copy hcopy).extend hextends
  · obtain ⟨k, htruthful, hk⟩ := h.tasks i
    exact ⟨k, htruthful, hk.extend hextends⟩

/-- **What is read from a file** records only what belongs together. -/
theorem records_load (h : w.Consistent) (path : String) :
    ∀ copy, Command.copyOf? (w.files.load path) = some copy → w.Records copy := by
  intro copy hcopy
  obtain ⟨e, he, hread⟩ := Files.exists_mem_of_copyOf? hcopy
  exact h.files e he copy hread

end Consistent

-- How links are read is of no interest here, and takes long to unfold.
attribute [local irreducible] Link.parse

/-- **The commands of an author are truthful.** -/
theorem truthful_procedure (e : Errand) : Procedure.Truthful (fun _ _ => True) e.procedure k := by
  cases e with
  | pull id path => exact Command.truthful_pull id path
  | openLink link path => exact Command.truthful_openLink link path
  | push ctx path newLink => exact Command.truthful_push ctx path { newLink }
  | protect ctx path p => exact Command.truthful_protect ctx path p
  | paste text path => exact Command.truthful_paste text path
  | listDatasets path => exact Command.truthful_listDatasets path
  | addDataset path name => exact Command.truthful_addDataset path name
  | removeDataset path name => exact Command.truthful_removeDataset path name

/-- **One step leaves a workspace consistent.** -/
theorem Consistent.step (h : w.Consistent) (step : Step w w') : w'.Consistent := by
  cases step with
  | start i e => exact h.put ⟨.nothing, truthful_procedure e, confirms_nothing w⟩ i
  | push i ctx path o =>
    exact h.put ⟨.nothing, Command.truthful_push ctx path o, confirms_nothing w⟩ i
  | @exchange i r next env ids task =>
    have hanswered := Store.answered_send env r w.store
    generalize w.store.send env r = answer at hanswered
    obtain ⟨reply, s⟩ := answer
    obtain ⟨k, htruthful, hk⟩ := h.tasks i
    rw [task] at htruthful
    -- What the reply tells is known to this client from then on.
    exact (h.take hanswered).put ⟨k.hear r reply,
      htruthful reply (hanswered.honest h.store ids), hk.hear hanswered h.store ids⟩ i
  | @askPassword i q next task answer =>
    obtain ⟨k, htruthful, hk⟩ := h.tasks i
    rw [task] at htruthful
    exact h.put ⟨k, htruthful answer, hk⟩ i
  | @confirm i q next task answer =>
    obtain ⟨k, htruthful, hk⟩ := h.tasks i
    rw [task] at htruthful
    exact h.put ⟨k, htruthful answer, hk⟩ i
  | @load i path next task =>
    obtain ⟨k, htruthful, hk⟩ := h.tasks i
    rw [task] at htruthful
    have hrecords := h.records_load path
    exact h.put ⟨k.read (w.files.load path),
      htruthful _ fun copy hcopy => (hrecords copy hcopy).sound, hk.read hrecords⟩ i
  | @save i path content next task =>
    obtain ⟨k, htruthful, hk⟩ := h.tasks i
    rw [task] at htruthful
    exact (h.write hk htruthful.1).put
      ⟨k, htruthful.2 _, hk.extend (extends_write w path content)⟩ i
  | inject f =>
    -- Faults to come change no document and no file.
    have hextends : Extends { w with store := w.store.inject f } w := ⟨fun _ _ _ h => h, fun _ h => h⟩
    refine ⟨h.store, h.current, h.past, h.unique, h.filed,
      fun e he copy hcopy => (h.files e he copy hcopy).extend hextends, fun i => ?_⟩
    obtain ⟨k, htruthful, hk⟩ := h.tasks i
    exact ⟨k, htruthful, hk.extend hextends⟩

/-- A workspace is always consistent. -/
theorem Reachable.consistent (reached : Reachable w) : w.Consistent := by
  induction reached with
  | initial new => exact new.consistent
  | step _ step ih => exact ih.step step

/-- **A clean working copy holds what the store held.** Whatever commands have been carried out, if a
linked working copy counts as clean and no collision has happened, then the store has held exactly one
document at the revision that the working copy records, and the working copy holds what that document
holds, but for tabs in variables and template and for white space at the ends of texts. -/
theorem clean_eq_held (reached : Reachable w) (secure : w.CollisionFree) {e : Place × Bytes}
    (file : e ∈ w.files.contents) (read : Command.copyOf? (.ok e.2) = some copy) {r : SyncRecord}
    (linked : copy.record = some r) (clean : copy.isDirty = false) :
    ∃ d, w.held r.id r.revision d ∧ (∀ d', w.held r.id r.revision d' → d' = d) ∧
      (∃ dt, d.Holds dt) ∧ ∀ dt, d.Holds dt → copy.template.core = dt.core := by
  have hconsistent := reached.consistent
  have hrecords := hconsistent.files e file copy read
  have hfiled := hrecords.filed r linked
  have hsynced : copy.synced = some copy.template.checksum := by
    simpa [WorkingCopy.isDirty] using clean
  obtain ⟨x, hx, hchecksum, d, dt, hheld, hdt, hcore⟩ := hrecords.synced r linked _ hsynced
  -- The document for which the checksum was recorded is the one that is there.
  obtain rfl : x = copy.template := DataTemplate.eq_of_render_eq (hconsistent.filed x hx)
    (hconsistent.filed _ hfiled) (secure x _ hx hfiled hchecksum)
  exact ⟨d, hheld, fun d' hheld' => hconsistent.unique _ _ d d' hheld hheld', ⟨dt, hdt⟩,
    fun dt' hdt' => hcore.symm.trans (hdt.core_eq hdt')⟩

/-! ## A document that is fetched -/

open Collaboration (noteSetting noteStore keptNote noteCopy noteFetched wellFormed_note
  isValid_noteSetting parse_keptNote parse_noteCopy steps_noteFile)

/-- **The steps of a fetch into a new file**: the file is looked for, the document is requested, and
the file is written. -/
theorem steps_pull_note : ∃ looked fetched,
    (Command.pull "doc1" "a" : Dialogue (Except Error Report)) = .loadFile "a" looked ∧
      looked (.error .notFound) = .exchange (Sync.fetchRequest "doc1" none) fetched ∧
        ∀ reply summary s, Sync.applyFetch (({} : Session).beginLoad "doc1").2
            ⟨(({} : Session).beginLoad "doc1").1, none⟩ reply = (.ok (.loaded summary), s) →
          ∃ written, fetched reply =
            .saveFile "a" (Utf8.encode (WorkingCopy.ofSession s).render) written := by
  refine ⟨_, _, rfl, rfl, fun reply summary s h => ?_⟩
  show ∃ written, (((Dialogue.done (Sync.applyFetch (({} : Session).beginLoad "doc1").2
    ⟨(({} : Session).beginLoad "doc1").1, none⟩ reply)).bind _).bind _).bind _ = _
  rw [h]
  exact ⟨_, rfl⟩

/-- A store into which the document was put, and no files. -/
def noteWorkspace : Workspace := { store := noteStore, held := noteStore.Holds }

/-- A document is fetched into a new file, which then is clean and holds what the store holds. -/
theorem clean_eq_held_pull : ∃ w e copy r, Reachable w ∧ w.CollisionFree ∧ e ∈ w.files.contents ∧
    Command.copyOf? (.ok e.2) = some copy ∧ copy.record = some r ∧ copy.isDirty = false ∧
    ∃ d, w.held r.id r.revision d ∧ (∀ d', w.held r.id r.revision d' → d' = d) ∧
      (∃ dt, d.Holds dt) ∧ ∀ dt, d.Holds dt → copy.template.core = dt.core := by
  obtain ⟨looked, fetched, hpull, hlooked, hfetched⟩ := steps_pull_note
  have hnew : noteWorkspace.IsNew := by
    refine ⟨?_, fun _ _ _ => Iff.rfl, fun _ => not_false, fun _ => rfl, fun e he => (nomatch he)⟩
    exact .seed .empty noteSetting "doc1" wellFormed_note 3 none none
  -- The document is requested, as there is no such file yet.
  have habsent : noteWorkspace.files.load "a" = .error .notFound := by
    rw [Files.load, Files.locate, steps_noteFile]
    rfl
  have hlooking := ((Reachable.initial hnew).step (.start 0 (.pull "doc1" "a"))).step
    (.load (i := 0) hpull)
  have hloaded : (noteWorkspace.put 0 (Errand.pull "doc1" "a").procedure).files.load "a" =
      .error .notFound := habsent
  rw [hloaded, hlooked] at hlooking
  -- The store answers with the document, which is written.
  have hasking := hlooking.step (.exchange (i := 0) isValid_noteSetting rfl)
  have hreply : (noteStore.send noteSetting (Sync.fetchRequest "doc1" none)).1 =
    .ok (Store.okResponse keptNote.text) := rfl
  have hfetch := Sharing.applyFetch_document (s := (({} : Session).beginLoad "doc1").2)
    (p := ⟨(({} : Session).beginLoad "doc1").1, none⟩) (r := Store.okResponse keptNote.text) rfl rfl
    parse_keptNote
  obtain ⟨written, hwritten⟩ : ∃ written, fetched (.ok (Store.okResponse keptNote.text)) =
    .saveFile "a" (Utf8.encode noteCopy.render) written := hfetched _ _ _ hfetch
  have hwriting := hasking.step (.save (i := 0) hwritten)
  have hfiles : ((Files.write {} "a" (Utf8.encode noteCopy.render)).2) = noteFetched.files := by
    have hsave : Files.save {} "a" (Utf8.encode noteCopy.render) = .ok noteFetched.files := by
      rw [Files.save, steps_noteFile]
      rfl
    rw [Files.write, hsave]
  have hread : Command.copyOf? (.ok (Utf8.encode noteCopy.render)) = some noteCopy := by
    refine Knowledge.copyOf?_eq_some.2 ⟨noteCopy.render, ?_, parse_noteCopy⟩
    rw [Command.textOf, Utf8.decode_encode]
  have hclean : noteCopy.isDirty = false := bne_self_eq_false _
  obtain ⟨w, hreached, hwfiles, hfiled⟩ : ∃ w, Reachable w ∧ w.files = noteFetched.files ∧
      ∀ x, w.filed x → x = noteCopy.template := by
    refine ⟨_, hwriting, hfiles, ?_⟩
    rintro x (hx | ⟨copy, hcopy, rfl⟩)
    · cases hx
    · rw [Option.some.inj (hread.symm.trans hcopy)]
  have hsecure : w.CollisionFree := fun x y hx hy _ => by rw [hfiled x hx, hfiled y hy]
  have hmem : (["a"], Utf8.encode noteCopy.render) ∈ w.files.contents := by
    rw [hwfiles]
    exact List.mem_singleton.2 rfl
  exact ⟨w, _, noteCopy, _, hreached, hsecure, hmem, hread, rfl, hclean,
    clean_eq_held hreached hsecure hmem hread rfl hclean⟩

end Workspace

end TemplateShare
