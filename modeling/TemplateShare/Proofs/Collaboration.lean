import TemplateShare.Proofs.Command.Careful
import TemplateShare.Proofs.Command.Run
import TemplateShare.Proofs.Sharing
import TemplateShare.Proofs.Files
import TemplateShare.Proofs.WorkingCopy.Session

/-! # No update is lost

Any number of authors over one store, each at a desk with files of their own. Their commands take
turns, request by request and file by file, and none of the authors agrees to overwrite a later
revision. Beside each desk stands what its author has been told: the revisions that the store has
handed out to commands at this desk, or that it has accepted from them. An update that the store
accepts replaces the revision that is recorded in the file that the command has opened, of which its
author has been told.

* **`Task`**, **`Desk`**, **`Collaboration`** — commands in progress, authors, authors that share a
  store.
* **`Errand`** — the commands of an author.
* **`Desk.Step`**, **`Collaboration.Step`**, **`Collaboration.Reachable`** — what can happen.
* **`Desk.Informed`** — an author knows only of revisions that there are, and acts only on what they
  know; **`Collaboration.Reachable.informed`** — it is always so.
* **`Collaboration.accepted_update`** — no update is lost. -/

namespace TemplateShare

/-! ## Commands at a desk -/

/-- **A working copy that is read** is the content of a file. -/
theorem Files.exists_mem_of_copyOf? {fs : Files} {path : String} {copy : WorkingCopy}
    (h : Command.copyOf? (fs.load path) = some copy) :
    ∃ e ∈ fs.contents, Command.copyOf? (.ok e.2) = some copy := by
  cases hload : fs.load path with
  | error e =>
    rw [hload] at h
    cases h
  | ok content =>
    obtain ⟨p, hp⟩ := mem_of_load hload
    exact ⟨_, hp, hload ▸ h⟩

/-- **A command that is being carried out**: what is left of it, and the working copy that it has
opened last. -/
structure Task where
  rest : Dialogue (Except Error Report)
  opened : Option WorkingCopy := none

/-- **The commands of an author.** A push does not force, so it asks before it overwrites. -/
inductive Errand where
  | pull (id path : String)
  | openLink (link path : String)
  | push (ctx : Command.Context) (path : String) (newLink : Bool)
  | protect (ctx : Command.Context) (path : String) (p : Protection)
  | paste (text path : String)
  | listDatasets (path : String)
  | addDataset (path name : String)
  | removeDataset (path name : String)

/-- What a command does. -/
def Errand.procedure : Errand → Procedure Report
  | .pull id path => Command.pull id path
  | .openLink link path => Command.openLink link path
  | .push ctx path newLink => Command.push ctx path { newLink }
  | .protect ctx path p => Command.protect ctx path p
  | .paste text path => Command.paste text path
  | .listDatasets path => Command.listDatasets path
  | .addDataset path name => Command.addDataset path name
  | .removeDataset path name => Command.removeDataset path name

/-- **A desk**: the files of an author, the commands that are being carried out on them, and the
revisions of which the author has been told. -/
structure Desk where
  files : Files := {}
  tasks : Nat → Task := fun _ => ⟨.done (.ok {}), none⟩
  told : String → Nat → Prop := fun _ _ => False

namespace Desk

/-- A desk after one of its commands has gone on. -/
def put (d : Desk) (i : Nat) (t : Task) : Desk :=
  { d with tasks := fun j => if j = i then t else d.tasks j }

@[simp] theorem tasks_put_self (d : Desk) (i : Nat) (t : Task) : (d.put i t).tasks i = t := if_pos rfl

theorem tasks_put_of_ne {i j : Nat} (h : j ≠ i) (d : Desk) (t : Task) :
    (d.put i t).tasks j = d.tasks j := if_neg h

/-- A desk whose author has been told of what a reply tells. -/
def hear (d : Desk) (r : Request) (x : Reply) : Desk :=
  { d with told := fun id n => d.told id n ∨ Sync.Tells r x id n }

/-- The working copy that a command has opened last after it has read a file. -/
def openedAfter (d : Desk) (i : Nat) (path : String) : Option WorkingCopy :=
  (Command.copyOf? (d.files.load path)).or (d.tasks i).opened

/-- A desk after a file is to be written. -/
def write (d : Desk) (path : String) (content : Bytes) : Desk :=
  { d with files := (d.files.write path content).2 }

/-- **What can happen at a desk** and to the store: a command is started, or the next step of one is
taken. The user gives any answers, except that they do not agree to overwrite. Any two steps may be
those of different commands, and a command may be given up for another one. -/
inductive Step (d : Desk) (s : Store) : Desk → Store → Prop
  | start (i : Nat) (e : Errand) : Step d s (d.put i ⟨e.procedure, none⟩) s
  | exchange {i : Nat} {r : Request} {next : Reply → Dialogue (Except Error Report)}
      {env : Store.Setting} (ids : ∀ n, DocumentId.isValid (env.idAt n) = true)
      (task : (d.tasks i).rest = .exchange r next) :
      Step d s ((d.hear r (s.send env r).1).put i ⟨next (s.send env r).1, (d.tasks i).opened⟩)
        (s.send env r).2
  | askPassword {i : Nat} {q : String} {next : Option String → Dialogue (Except Error Report)}
      (task : (d.tasks i).rest = .askPassword q next) (answer : Option String) :
      Step d s (d.put i ⟨next answer, (d.tasks i).opened⟩) s
  | confirm {i : Nat} {q : String} {next : Bool → Dialogue (Except Error Report)}
      (task : (d.tasks i).rest = .confirm q next) {answer : Bool}
      (careful : q = Command.overwriteQuestion → answer = false) :
      Step d s (d.put i ⟨next answer, (d.tasks i).opened⟩) s
  | load {i : Nat} {path : String} {next : Except FileError Bytes → Dialogue (Except Error Report)}
      (task : (d.tasks i).rest = .loadFile path next) :
      Step d s (d.put i ⟨next (d.files.load path), d.openedAfter i path⟩) s
  | save {i : Nat} {path : String} {content : Bytes}
      {next : Except FileError Unit → Dialogue (Except Error Report)}
      (task : (d.tasks i).rest = .saveFile path content next) :
      Step d s ((d.write path content).put i
        ⟨next (d.files.write path content).1, (d.tasks i).opened⟩) s

/-! ## What an author knows -/

/-- **What is known at a desk**, with the copy that a command has opened. -/
def knowledge (d : Desk) (opened : Option WorkingCopy) : Knowledge :=
  ⟨d.told, opened.bind (·.record)⟩

/-- **A command that follows what is known** at its desk: it goes on from there, and the copy that it
has opened is of a revision that is known. -/
structure Follows (d : Desk) (t : Task) : Prop where
  guarded : Procedure.Guarded (fun _ _ => True) t.rest (d.knowledge t.opened)
  opened : ∀ r ∈ t.opened.bind (·.record), d.told r.id r.revision

/-- **An informed author**: what they have been told of is in the store, or a later revision of it,
their files record only such revisions, and their commands follow them. -/
structure Informed (d : Desk) (s : Store) : Prop where
  told : ∀ id n, d.told id n → ∃ x, s.get? id = some x ∧ n ≤ x.revision
  files : ∀ e ∈ d.files.contents, (d.knowledge none).Backs e.2
  tasks : ∀ i, d.Follows (d.tasks i)

variable {d d' : Desk} {s s' : Store} {t : Task}

-- How links are read is of no interest here, and takes long to unfold.
attribute [local irreducible] Link.parse

/-- A command that has not read anything yet follows what is known. -/
theorem follows_start (d : Desk) (e : Errand) : d.Follows ⟨e.procedure, none⟩ := by
  refine ⟨?_, fun r hr => (nomatch hr)⟩
  cases e with
  | pull id path => exact Command.guarded_pull id path
  | openLink link path => exact Command.guarded_openLink link path
  | push ctx path newLink => exact Command.guarded_push ctx path newLink
  | protect ctx path p => exact Command.guarded_protect ctx path p
  | paste text path => exact Command.guarded_paste text path
  | listDatasets path => exact Command.guarded_listDatasets path
  | addDataset path name => exact Command.guarded_addDataset path name
  | removeDataset path name => exact Command.guarded_removeDataset path name

/-- **A command goes on to follow** what is known when its author is told of more. -/
theorem Follows.of_told (h : d.Follows t) (htold : ∀ id n, d.told id n → d'.told id n) :
    d'.Follows t :=
  ⟨h.guarded.of_within ⟨htold, rfl⟩, fun r hr => htold _ _ (h.opened r hr)⟩

/-- **An author stays informed** while revisions in the store only rise. -/
theorem Informed.of_store (h : d.Informed s)
    (hs : ∀ id x, s.get? id = some x → ∃ x', s'.get? id = some x' ∧ x.revision ≤ x'.revision) :
    d.Informed s' := by
  refine ⟨fun id n hn => ?_, h.files, h.tasks⟩
  obtain ⟨x, hx, hle⟩ := h.told id n hn
  obtain ⟨x', hx', hrise⟩ := hs id x hx
  exact ⟨x', hx', Nat.le_trans hle hrise⟩

/-- An author stays informed when a command goes on that follows what is known. -/
theorem Informed.put (h : d.Informed s) (ht : d.Follows t) (i : Nat) : (d.put i t).Informed s := by
  refine ⟨h.told, h.files, fun j => ?_⟩
  -- The other commands have not gone on.
  by_cases hj : j = i
  · rw [hj, tasks_put_self]
    exact ht.of_told fun id n hn => hn
  · rw [tasks_put_of_ne hj]
    exact (h.tasks j).of_told fun id n hn => hn

/-- **An author stays informed by the replies of the store.** -/
theorem Informed.hear (h : d.Informed s) {r : Request} {x : Reply}
    (hx : ∀ id n, Sync.Tells r x id n → ∃ y, s.get? id = some y ∧ n ≤ y.revision) :
    (d.hear r x).Informed s := by
  have htold : ∀ id n, d.told id n → (d.hear r x).told id n := fun id n hn => .inl hn
  refine ⟨?_, fun e he => ?_, fun i => (h.tasks i).of_told htold⟩
  · rintro id n (hn | hn)
    · exact h.told id n hn
    · exact hx id n hn
  · exact (h.files e he).of_within ⟨htold, rfl⟩

/-- **An author stays informed of what is in their files** when a command writes one of them. -/
theorem Informed.write (h : d.Informed s) {path : String} {content : Bytes}
    (hcontent : (d.knowledge none).Backs content) : (d.write path content).Informed s := by
  refine ⟨h.told, fun e he => ?_, fun i => (h.tasks i).of_told fun id n hn => hn⟩
  obtain hnew | hold := Files.mem_of_write he
  · rw [hnew]
    exact hcontent
  · exact h.files e hold

/-- **What is known after a file has been read** was known at the desk before. -/
theorem Informed.within_load (h : d.Informed s) (i : Nat) (path : String) :
    ((d.knowledge (d.tasks i).opened).load (d.files.load path)).Within
        (d.knowledge (d.openedAfter i path)) ∧
      (∀ copy, Command.copyOf? (d.files.load path) = some copy → copy.Sound) ∧
        ∀ r ∈ (d.openedAfter i path).bind (·.record), d.told r.id r.revision := by
  unfold openedAfter
  cases hcopy : Command.copyOf? (d.files.load path) with
  | none =>
    refine ⟨?_, fun copy hc => (nomatch hc), (h.tasks i).opened⟩
    rw [Knowledge.load, hcopy]
    exact ⟨fun id n hn => hn, rfl⟩
  | some copy =>
    obtain ⟨e, he, hread⟩ := Files.exists_mem_of_copyOf? hcopy
    obtain ⟨hsound, htold⟩ := h.files e he copy hread
    refine ⟨?_, fun c hc => Option.some.inj hc ▸ hsound, htold⟩
    rw [Knowledge.load_eq hcopy]
    refine ⟨?_, rfl⟩
    rintro id n (hn | ⟨r, hr, rfl, rfl⟩)
    · exact hn
    · exact htold r hr

/-- **One step at a desk leaves its author informed**, and the store sound. -/
theorem Informed.step (h : d.Informed s) (hs : s.Sound) (step : Step d s d' s') :
    d'.Informed s' ∧ s'.Sound := by
  cases step with
  | start i e => exact ⟨h.put (follows_start d e) i, hs⟩
  | @exchange i r next env ids task =>
    have hanswered := Store.answered_send env r s
    generalize s.send env r = answer at hanswered
    obtain ⟨reply, s'⟩ := answer
    obtain ⟨hguarded, hopened⟩ := h.tasks i
    rw [task] at hguarded
    -- The reply tells only of what the store holds.
    have hhear : (d.hear r reply).Informed s' :=
      (h.of_store fun id x => hanswered.revision_le).hear fun id n => hanswered.tells hs ids
    have ht : (d.hear r reply).Follows ⟨next reply, (d.tasks i).opened⟩ :=
      ⟨hguarded.2 reply (hanswered.honest hs ids), fun x hx => .inl (hopened x hx)⟩
    exact ⟨hhear.put ht i, hs.answered hanswered⟩
  | @askPassword i q next task answer =>
    obtain ⟨hguarded, hopened⟩ := h.tasks i
    rw [task] at hguarded
    have ht : d.Follows ⟨next answer, (d.tasks i).opened⟩ := ⟨hguarded answer, hopened⟩
    exact ⟨h.put ht i, hs⟩
  | @confirm i q next task answer careful =>
    obtain ⟨hguarded, hopened⟩ := h.tasks i
    rw [task] at hguarded
    have ht : d.Follows ⟨next answer, (d.tasks i).opened⟩ := ⟨hguarded answer careful, hopened⟩
    exact ⟨h.put ht i, hs⟩
  | @load i path next task =>
    obtain ⟨hguarded, -⟩ := h.tasks i
    rw [task] at hguarded
    obtain ⟨hwithin, hsound, htold⟩ := h.within_load i path
    have hnext : Procedure.Guarded (fun _ _ => True) (next (d.files.load path))
      ((d.knowledge (d.tasks i).opened).load (d.files.load path)) := hguarded _ hsound
    have ht : d.Follows ⟨next (d.files.load path), d.openedAfter i path⟩ :=
      ⟨hnext.of_within hwithin, htold⟩
    exact ⟨h.put ht i, hs⟩
  | @save i path content next task =>
    obtain ⟨hguarded, hopened⟩ := h.tasks i
    rw [task] at hguarded
    have ht : d.Follows ⟨next (d.files.write path content).1, (d.tasks i).opened⟩ :=
      ⟨hguarded.2 _, hopened⟩
    exact ⟨(h.write hguarded.1).put (ht.of_told fun id n hn => hn) i, hs⟩

/-- **No step at a desk lowers a revision.** -/
theorem Step.revision_le (step : Step d s d' s') {id : String} {x : Store.Document}
    (hx : s.get? id = some x) : ∃ x', s'.get? id = some x' ∧ x.revision ≤ x'.revision := by
  cases step with
  | @exchange i r next env ids task => exact (Store.answered_send env r s).revision_le hx
  | _ => exact ⟨x, hx, Nat.le_refl _⟩

end Desk

/-! ## Authors that share a store -/

/-- **Authors that share a store**, as many as one likes. -/
structure Collaboration where
  store : Store := {}
  desks : Nat → Desk := fun _ => {}

/-- **A store with documents that were put into it** without a request. -/
inductive Store.Seeded : Store → Prop
  | empty : Seeded {}
  | seed {s : Store} (seeded : Seeded s) (env : Store.Setting) (id : String) {dt : DataTemplate}
      (wellFormed : dt.registry.WellFormed) (revision : Nat)
      (openPassword modifyPassword : Option String) :
      Seeded (s.seed env id dt revision openPassword modifyPassword)

/-- A store with such documents is sound. -/
theorem Store.Seeded.sound {s : Store} (h : s.Seeded) : s.Sound := by
  induction h with
  | empty => exact fun id d hd => (nomatch hd)
  | seed _ env id wellFormed revision openPassword modifyPassword ih =>
    exact ih.put (Document.sound_write wellFormed env revision (isHashText_map id openPassword)
      (isHashText_map id modifyPassword)) id

/-- **A new desk**: no command is being carried out, the author has been told of nothing, and no file
has a link to a copy in a store. -/
structure Desk.IsNew (d : Desk) : Prop where
  told : ∀ id n, ¬d.told id n
  tasks : ∀ i, d.tasks i = ⟨.done (.ok {}), none⟩
  files : ∀ e ∈ d.files.contents, ∀ copy, Command.copyOf? (.ok e.2) = some copy →
    copy.record = none

/-- The author at a new desk is informed. -/
theorem Desk.IsNew.informed {d : Desk} (h : d.IsNew) (s : Store) : d.Informed s := by
  refine ⟨fun id n hn => absurd hn (h.told id n), fun e he copy hcopy => ?_, fun i => ?_⟩
  · have hrecord := h.files e he copy hcopy
    obtain ⟨text, -, hparse⟩ := Knowledge.copyOf?_eq_some.1 hcopy
    exact ⟨WorkingCopy.sound_of_unlinked hparse hrecord, fun r hr => by rw [hrecord] at hr; cases hr⟩
  · rw [h.tasks i]
    exact ⟨trivial, fun r hr => (nomatch hr)⟩

namespace Collaboration

variable {w w' : Collaboration}

/-- The desks after something has happened at one of them. -/
def replace (w : Collaboration) (j : Nat) (d : Desk) : Nat → Desk :=
  fun k => if k = j then d else w.desks k

/-- **What can happen**: a step at one of the desks, or a fault is to meet a later request. -/
inductive Step (w : Collaboration) : Collaboration → Prop
  | desk {j : Nat} {d : Desk} {s : Store} (step : Desk.Step (w.desks j) w.store d s) :
      Step w ⟨s, w.replace j d⟩
  | inject (f : Store.Fault) : Step w { w with store := w.store.inject f }

/-- **What can be reached** from new desks over a store into which documents were put. -/
inductive Reachable : Collaboration → Prop
  | initial {store : Store} (seeded : store.Seeded) {desks : Nat → Desk}
      (new : ∀ j, (desks j).IsNew) : Reachable ⟨store, desks⟩
  | step {w w' : Collaboration} (reached : Reachable w) (step : Step w w') : Reachable w'

/-- **The store is sound, and all authors are informed.** -/
structure Informed (w : Collaboration) : Prop where
  store : w.store.Sound
  desks : ∀ j, (w.desks j).Informed w.store

/-- **One step leaves all authors informed.** -/
theorem Informed.step (h : w.Informed) (step : Step w w') : w'.Informed := by
  cases step with
  | @desk j d s step =>
    obtain ⟨hd, hs⟩ := (h.desks j).step h.store step
    refine ⟨hs, fun k => ?_⟩
    by_cases hk : k = j
    · show (w.replace j d k).Informed s
      rw [replace, if_pos hk]
      exact hd
    · -- The other desks only see that revisions have risen.
      show (w.replace j d k).Informed s
      rw [replace, if_neg hk]
      exact (h.desks k).of_store fun id x => step.revision_le
  | inject f => exact ⟨h.store, fun j => (h.desks j).of_store fun id x hx => ⟨x, hx, Nat.le_refl _⟩⟩

/-- **All authors are always informed.** -/
theorem Reachable.informed (reached : Reachable w) : w.Informed := by
  induction reached with
  | initial seeded new => exact ⟨seeded.sound, fun j => (new j).informed _⟩
  | step _ step ih => exact ih.step step

/-- **No update is lost.** Whenever the store itself answers a request to update a document, and
accepts it, the command that sends it has opened a file whose record is of this document. The
revision of the record is the one that the update replaces, its author has been told of it, and the
update raises it by one. -/
theorem accepted_update (reached : Reachable w) {j i : Nat} {r : Request}
    {next : Reply → Dialogue (Except Error Report)} {id : String} {x : Response}
    (sent : ((w.desks j).tasks i).rest = .exchange r next) (method : r.method = .post)
    (path : r.path = documentPath (some id)) (env : Store.Setting) (faults : w.store.faults = [])
    (answered : (w.store.send env r).1 = .ok x) (accepted : x.status = 200) :
    ∃ copy record before after, ((w.desks j).tasks i).opened = some copy ∧
      copy.record = some record ∧ record.id = id ∧ w.store.get? id = some before ∧
      before.revision = record.revision ∧ (w.desks j).told id before.revision ∧
      (w.store.send env r).2.get? id = some after ∧ after.revision = before.revision + 1 := by
  have hinformed := reached.informed.desks j
  obtain ⟨hguarded, hopened⟩ := hinformed.tasks i
  rw [sent] at hguarded
  -- The request is for the document of the opened record, and to the revision after the record's.
  obtain ⟨record, hrecord, rfl, hnext⟩ := hguarded.1 id method path
  have htold := hopened record hrecord
  obtain ⟨copy, hcopy, hrecord⟩ := Option.bind_eq_some_iff.1 hrecord
  have hanswered := Store.answered_send env r w.store
  have hstatus := Store.isSome_acceptedId? faults method answered accepted
  generalize w.store.send env r = answer at hanswered answered hstatus ⊢
  cases hanswered with
  | bare _ none => rw [none] at hstatus; cases hstatus
  | fetched get => cases get.symm.trans method
  | @written t dt revision s' _ target _ requested later documents _ =>
    obtain rfl := Store.Answered.target_of_path target path
    obtain ⟨before, hbefore, hle⟩ := hinformed.told record.id record.revision htold
    -- The store holds no earlier revision than the record's, and no later one than it is asked for.
    have hlater : before.revision < revision := later before hbefore
    obtain rfl := hnext revision requested
    have heq : before.revision = record.revision := by omega
    refine ⟨copy, record, before, _, hcopy, hrecord, rfl, hbefore, heq, ?_,
      (Store.get?_of_written documents).1, ?_⟩
    · rw [heq]
      exact htold
    · rw [heq]
      rfl

/-! ## Commands that nothing disturbs -/

/-- What can be reached in one step at a desk. -/
theorem Reachable.desk (reached : Reachable w) {j : Nat} {d : Desk} {s : Store}
    (step : Desk.Step (w.desks j) w.store d s) :
    ∃ w', Reachable w' ∧ w'.desks j = d ∧ w'.store = s :=
  ⟨_, reached.step (.desk step), if_pos rfl, rfl⟩

/-- **A command that nothing disturbs** can be carried out at a desk, one step after the other. -/
theorem Reachable.runs {σ σ' : Surroundings} {t t' : Dialogue (Except Error Report)}
    (runs : t.Runs (fun q answer => q = Command.overwriteQuestion → answer = false) σ σ' t')
    {j i : Nat} (reached : Reachable w) (files : (w.desks j).files = σ.files)
    (store : w.store = σ.store) (task : ((w.desks j).tasks i).rest = t) :
    ∃ w', Reachable w' ∧ (w'.desks j).files = σ'.files ∧ w'.store = σ'.store ∧
      ((w'.desks j).tasks i).rest = t' := by
  have htask (d : Desk) (t : Task) : ((d.put i t).tasks i).rest = t.rest := by
    rw [Desk.tasks_put_self]
  -- Each step of the run is a step at the desk, with the store and the files as they are by then.
  induction runs generalizing w with
  | refl => exact ⟨w, reached, files, store, task⟩
  | exchange ids _ ih =>
    obtain ⟨w', hw', hd, hs⟩ := reached.desk (.exchange ids task)
    rw [store] at hd hs
    exact ih hw' (by rw [hd]; exact files) hs (by rw [hd]; exact htask _ _)
  | askPassword answer _ ih =>
    obtain ⟨w', hw', hd, hs⟩ := reached.desk (.askPassword task answer)
    exact ih hw' (by rw [hd]; exact files) (hs.trans store) (by rw [hd]; exact htask _ _)
  | confirm agreed _ ih =>
    obtain ⟨w', hw', hd, hs⟩ := reached.desk (.confirm task agreed)
    exact ih hw' (by rw [hd]; exact files) (hs.trans store) (by rw [hd]; exact htask _ _)
  | loadFile _ ih =>
    obtain ⟨w', hw', hd, hs⟩ := reached.desk (.load task)
    refine ih hw' (by rw [hd]; exact files) (hs.trans store) ?_
    rw [hd, htask, files]
  | saveFile _ ih =>
    obtain ⟨w', hw', hd, hs⟩ := reached.desk (.save task)
    refine ih hw' ?_ (hs.trans store) ?_
    · rw [hd, ← files]
      rfl
    · rw [hd, htask, files]

/-! ## An update that is accepted -/

/-- A document. -/
def noteDocument : DataTemplate := .single "" "" "t"

/-- What a store depends on. -/
def noteSetting : Store.Setting := ⟨fun _ => "new", 0⟩

/-- A store into which the document was put. -/
def noteStore : Store := Store.seed noteSetting "doc1" noteDocument 3 none none {}

/-- The document as the store keeps it. -/
def keptNote : Store.Document := .write noteSetting noteDocument 3 none none

/-- The hash of the document. -/
def noteHash : String := RemoteDocument.hashOf noteDocument 3

/-- A working copy of the document. -/
def noteCopy : WorkingCopy where
  template := noteDocument
  record := some ⟨"doc1", 3, some noteHash, false, some ⟨0, 0⟩⟩
  synced := some noteDocument.checksum

/-- The working copy in a file, and the store from which it was fetched. -/
def noteFetched : Surroundings where
  files := ⟨[(["a"], Utf8.encode noteCopy.render)], []⟩
  store := { noteStore with requests := [Sync.fetchRequest "doc1" none] }

theorem readable_note : Portable.IsReadable noteDocument :=
  ⟨by decide, Portable.templateEntries_short rfl 0⟩

theorem wellFormed_note : noteDocument.registry.WellFormed := DataTemplate.wellFormed_single _ _ _

/-- The ids that the store draws are valid. -/
theorem isValid_noteSetting (n : Nat) : DocumentId.isValid (noteSetting.idAt n) = true := by
  show DocumentId.isValid "new" = true
  decide

/-- The document is read as the store keeps it. -/
theorem parse_keptNote : RemoteDocument.parse keptNote.text =
    .ok ⟨noteDocument, noteHash, some 3, some ⟨0, 0⟩, false⟩ := by
  have hnone := Store.isHashText_map "doc1" none
  refine (RemoteDocument.parse_print wellFormed_note (Sha256.isHashText_hex _) hnone hnone _).2
    ⟨⟨readable_note, by decide⟩, ?_⟩
  rfl

/-- The working copy is read as it is written, also with changes that have not been saved. -/
theorem parse_changed {dt : DataTemplate} (hdt : dt.registry.WellFormed)
    (readable : Portable.IsReadable dt) (reloaded : dt.reloaded = dt) :
    WorkingCopy.parse { noteCopy with template := dt }.render =
      .ok { noteCopy with template := dt } := by
  have hsound : WorkingCopy.Sound { noteCopy with template := dt } := by
    refine ⟨hdt, fun r hr => ?_, fun t ht => ?_⟩
    · obtain rfl := Option.some.inj hr
      refine ⟨by decide, by decide, fun h hh => ?_⟩
      obtain rfl := Option.some.inj hh
      exact Sha256.isHashText_hex _
    · obtain rfl := Option.some.inj ht
      exact Sha256.isHashText_hex _
  have hlink : WorkingCopy.rereadLink { noteCopy with template := dt } = some noteCopy.link :=
    WorkingCopy.rereadLink_eq_link fun r hr => by
      obtain rfl := Option.some.inj hr
      decide
  refine (WorkingCopy.parse_render hsound.legible _).2 ⟨readable, _, hlink, ?_⟩
  show _ = WorkingCopy.mk dt.reloaded _ _
  rw [reloaded]
  rfl

/-- The working copy is read as it is written. -/
theorem parse_noteCopy : WorkingCopy.parse noteCopy.render = .ok noteCopy :=
  parse_changed wellFormed_note readable_note rfl

/-- The path of the file has one step. -/
theorem steps_noteFile : Files.steps "a" = ["a"] := by decide

/-- The document is fetched into a new file. -/
theorem runs_pull_note (agrees : String → Bool → Prop) : ∃ report,
    Procedure.Runs agrees ⟨{}, noteStore⟩ (Command.pull "doc1" "a") noteFetched (pure report) := by
  have habsent : Files.load {} "a" = .error .notFound := by
    rw [Files.load, Files.locate, steps_noteFile]
    rfl
  have hsave : Files.save {} "a" (Utf8.encode noteCopy.render) = .ok noteFetched.files := by
    rw [Files.save, steps_noteFile]
    rfl
  have hreply : (noteStore.send noteSetting (Sync.fetchRequest "doc1" none)).1 =
    .ok (Store.okResponse keptNote.text) := rfl
  have hfetch := Sharing.applyFetch_document (s := (({} : Session).beginLoad "doc1").2)
    (p := ⟨(({} : Session).beginLoad "doc1").1, none⟩) (r := Store.okResponse keptNote.text) rfl rfl
    parse_keptNote
  rw [← hreply] at hfetch
  exact @Command.runs_pull _ ⟨{}, noteStore⟩ _ _ (by decide) _ habsent rfl _ isValid_noteSetting _ _
    hfetch _ hsave

/-- A password is sent for the document, with the revision after the fetched one. -/
theorem runs_protect_note (agrees : String → Bool → Prop) (ctx : Command.Context) :
    ∃ s next, s.registry.WellFormed ∧ Procedure.Runs agrees noteFetched
      (Command.protect ctx "a" ⟨some "pw", none, .inl rfl⟩) noteFetched
      (.exchange (Sync.updateRequest ctx.options s "doc1" 4 none) next) := by
  have hload : noteFetched.files.load "a" = .ok (Utf8.encode noteCopy.render) := by
    rw [Files.load, Files.locate, steps_noteFile]
    rfl
  obtain ⟨s, hprotect, hid, hrevision, hcredential, hs⟩ : ∃ s,
      noteCopy.session.protect ⟨some "pw", none, .inl rfl⟩ = .ok s ∧ s.remoteId = some "doc1" ∧
        s.revision = 3 ∧ s.updateCredential = none ∧ s.registry.WellFormed :=
    ⟨_, rfl, rfl, rfl, rfl, wellFormed_note⟩
  obtain ⟨next, hrun⟩ : ∃ next, Procedure.Runs agrees noteFetched (Command.protect ctx "a" _) _
    (.exchange _ next) := Command.runs_protect ctx hload parse_noteCopy hprotect hid
  rw [hrevision, hcredential] at hrun
  exact ⟨s.beginSave.2, next, hs, hrun⟩

/-- An author fetches a document and sets a password for it, so that it is updated in the store. -/
theorem accepted_update_protect : ∃ w r next x, Reachable w ∧
    ((w.desks 0).tasks 0).rest = .exchange r next ∧ r.method = .post ∧
    r.path = documentPath (some "doc1") ∧ w.store.faults = [] ∧
    (w.store.send noteSetting r).1 = .ok x ∧ x.status = 200 ∧
    ∃ copy record before after, ((w.desks 0).tasks 0).opened = some copy ∧
      copy.record = some record ∧ record.id = "doc1" ∧ w.store.get? "doc1" = some before ∧
      before.revision = record.revision ∧ (w.desks 0).told "doc1" before.revision ∧
      (w.store.send noteSetting r).2.get? "doc1" = some after ∧
      after.revision = before.revision + 1 := by
  have hinitial : Reachable ⟨noteStore, fun _ => {}⟩ :=
    .initial (.seed .empty noteSetting "doc1" wellFormed_note 3 none none)
      fun _ => ⟨fun _ _ => not_false, fun _ => rfl, fun e he => (nomatch he)⟩
  obtain ⟨w₁, hw₁, hd₁, hs₁⟩ := hinitial.desk (j := 0) (.start 0 (.pull "doc1" "a"))
  obtain ⟨report, hpull⟩ := runs_pull_note _
  obtain ⟨w₂, hw₂, hfiles₂, hs₂, -⟩ := hw₁.runs hpull (i := 0) (by rw [hd₁]; rfl) hs₁
    (by rw [hd₁]; rfl)
  obtain ⟨w₃, hw₃, hd₃, hs₃⟩ := hw₂.desk (j := 0)
    (.start 0 (.protect ⟨⟨1024, ⟨0, 0⟩⟩, "", 3⟩ "a" ⟨some "pw", none, .inl rfl⟩))
  obtain ⟨s, next, hs, hprotect⟩ := runs_protect_note _ ⟨⟨1024, ⟨0, 0⟩⟩, "", 3⟩
  obtain ⟨w₄, hw₄, -, hs₄, htask⟩ := hw₃.runs hprotect (i := 0) (by rw [hd₃]; exact hfiles₂)
    (hs₃.trans hs₂) (by rw [hd₃]; rfl)
  -- The store accepts the update, since it is to a later revision.
  have hkept : w₄.store.get? "doc1" = some keptNote := by
    rw [hs₄]
    rfl
  have hfaults : w₄.store.faults = [] := by
    rw [hs₄]
    rfl
  have hmethod := Sync.method_updateRequest ⟨1024, ⟨0, 0⟩⟩ s "doc1" 4 none
  have hpath := Sync.path_updateRequest ⟨1024, ⟨0, 0⟩⟩ s "doc1" 4 none
  have htarget : Store.target? (documentPath (some "doc1")) = some (.document "doc1") := by
    rw [Store.target?_documentPath, if_pos (by decide)]
  have hrequested : Store.requestedRevision? (Sync.updateRequest ⟨1024, ⟨0, 0⟩⟩ s "doc1" 4 none) =
      some 4 := Store.requestedRevision?_updateRequest ⟨1024, ⟨0, 0⟩⟩ s "doc1" 4 none
  obtain ⟨x, hx, hstatus⟩ := Store.send_later noteSetting hfaults hmethod (hpath ▸ htarget) hkept rfl
    (Store.bodyDocument?_updateRequest hs ⟨1024, ⟨0, 0⟩⟩ "doc1" 4 none) hrequested (by decide)
  exact ⟨w₄, _, _, x, hw₄, htask, hmethod, hpath, hfaults, hx, hstatus,
    accepted_update hw₄ htask hmethod hpath noteSetting hfaults hx hstatus⟩

end Collaboration

end TemplateShare
