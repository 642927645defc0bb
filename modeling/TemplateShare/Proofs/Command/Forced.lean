import TemplateShare.Proofs.Collaboration
import TemplateShare.Proofs.Command.Outcome
import TemplateShare.Proofs.Core
import TemplateShare.Proofs.WorkingCopy.Session

/-! # Pushes that are forced

A push that is to overwrite a later revision meets two obstacles: the store wants a password, and it
holds a later revision. It gets through where it meets at most one of them. A conflict that follows
the answer to a question is not taken for one that may be overwritten, so with both obstacles the push
fails, for any password.

* **`Command.Forced`** — a working copy with changes, its document and a user who knows the password.
* **`Command.GotThrough`**, **`Command.Failed`** — the two ends of a push.
* **`Command.Forced.unguarded_fresh`**, **`Command.Forced.guarded_fresh`**,
  **`Command.Forced.overwritten`**, **`Command.Forced.guarded_stale`**,
  **`Command.Forced.unreadable`** — which of them it comes to.
* **`Command.Forced.gotThrough_iff`** — a forced push gets through with at most one obstacle.
* **`Command.exists_forced_conflict`** — a forced push with the right password that fails. -/

namespace TemplateShare

namespace Command

/-! ## A push and its ends -/

/-- **A push that is to be forced**: a working copy with changes, which can be written again, its
document in a store without faults and what that holds, and a user who answers every question with
the password that guards the document. The clock shows a time that can be read again, and there is a
link to the document. -/
structure Forced (ctx : Context) (path : String) (u : User) (σ : Surroundings) (copy : WorkingCopy)
    (r : SyncRecord) (d : Store.Document) (dt : DataTemplate) : Prop where
  read : copyOf? (σ.files.load path) = some copy
  linked : copy.record = some r
  dirty : copy.isDirty = true
  readable : Portable.IsReadable copy.template
  id : DocumentId.isValid r.id = true
  faults : σ.store.faults = []
  stored : σ.store.get? r.id = some d
  holds : d.Holds dt
  recorded : r.revision + 1 < Nat.pow 2 64
  held : d.revision + 1 < Nat.pow 2 64
  password : ∀ g, d.guard? = some g →
    ∃ p, (∀ q, u.password q = some p) ∧ Text.isBlank p = false ∧ Store.passwordHash r.id p = g
  attempts : 0 < ctx.attempts
  link : ∃ link, Link.remote ctx.linkBase r.id = .ok link
  time : WorkingCopy.rereadTime (some ctx.options.now) = some (some ctx.options.now)

/-- **What a push comes to that got through** to a revision: it says so, the store holds the document
of the working copy under that revision and with the passwords from before, the working copy is in step
with it, and both hold the same document, but for tabs in variables and template and for white space at
the ends of texts. -/
structure GotThrough (path : String) (σ : Surroundings) (copy : WorkingCopy) (r : SyncRecord)
    (d : Store.Document) (revision : Nat) (out : Except Error Report × Surroundings) : Prop where
  told : ∃ report, out.1 = .ok report ∧ report.messages.getLast? =
    some ⟨.success, "Link Updated (revision " ++ toString revision ++ ")"⟩
  stored : ∃ d', out.2.store.get? r.id = some d' ∧ d'.Holds copy.template.sent ∧
    d'.revision = revision ∧ d'.openHash = d.openHash ∧ d'.modifyHash = d.modifyHash
  others : ∀ id ≠ r.id, out.2.store.get? id = σ.store.get? id
  filed : ∃ copy' r', copyOf? (out.2.files.load path) = some copy' ∧
    copy'.template = copy.template.reloaded ∧ copy'.record = some r' ∧ r'.id = r.id ∧
    r'.revision = revision ∧ copy'.isDirty = false
  agree : ∀ d' dt' copy', out.2.store.get? r.id = some d' → d'.Holds dt' →
    copyOf? (out.2.files.load path) = some copy' → dt'.core = copy'.template.core

/-- **What a push comes to that failed**: a fault, and nothing has changed. -/
structure Failed (σ : Surroundings) (e : Error) (out : Except Error Report × Surroundings) : Prop where
  fault : out.1 = .error e
  files : out.2.files = σ.files
  documents : out.2.store.documents = σ.store.documents

/-- The session of a working copy with changes, once a save has been started. -/
def saving (copy : WorkingCopy) (r : SyncRecord) : Session :=
  (Session.linked copy.template r true).beginSave.2

/-- The same session, once the save is in conflict with a later revision. -/
def conflicting (copy : WorkingCopy) (r : SyncRecord) : Session :=
  (saving copy r).markState ⟨0, .loaded⟩ .conflict

/-- The first request of a push: it presents no password, since a file holds none. -/
def firstRequest (ctx : Context) (copy : WorkingCopy) (r : SyncRecord) : Request :=
  Sync.updateRequest ctx.options (saving copy r) r.id (r.revision + 1) none

/-- What failed did not get through. -/
theorem Failed.not_gotThrough {path : String} {σ : Surroundings} {copy : WorkingCopy} {r : SyncRecord}
    {d : Store.Document} {revision : Nat} {e : Error} {out : Except Error Report × Surroundings}
    (h : Failed σ e out) : ¬ GotThrough path σ copy r d revision out := by
  intro hgot
  obtain ⟨report, hreport, -⟩ := hgot.told
  cases h.fault.symm.trans hreport

namespace Forced

variable {ctx : Context} {path : String} {u : User} {σ : Surroundings} {copy : WorkingCopy}
  {r : SyncRecord} {d : Store.Document} {dt : DataTemplate} (h : Forced ctx path u σ copy r d dt)
  (envs : Nat → Store.Setting)

include h

/-! ## The session of the working copy -/

/-- The session is linked and has changes. -/
theorem session_eq : copy.session = .linked copy.template r true := by
  unfold WorkingCopy.session
  rw [h.linked, h.dirty]

/-- The document of the working copy is well-formed. -/
theorem wellFormed : copy.template.registry.WellFormed := by
  obtain ⟨text, -, hparse⟩ := Knowledge.copyOf?_eq_some.1 h.read
  obtain ⟨x, hx, hparse⟩ := Except.bind_eq_ok.1 hparse
  obtain ⟨link, -, hparse⟩ := Except.bind_eq_ok.1 hparse
  obtain rfl := Except.ok.inj hparse
  obtain ⟨ds, hds⟩ := Portable.exists_ofDatasets_of_parse hx
  exact Registry.wellFormed_of_ofDatasets hds

/-- All that lasts of it stays when a save is started. -/
theorem kept_saving : (saving copy r).kept = copy.session.kept := by
  rw [h.session_eq]
  rfl

/-- And when overwriting is started. -/
theorem kept_conflicting : (conflicting copy r).beginSave.2.kept = copy.session.kept :=
  (Session.kept_markState _ _ _).trans h.kept_saving

/-- A save starts as an update to the next revision, and presents no password. -/
theorem run_save {out : Sync.Outcome Sync.SaveOutcome × Surroundings}
    (hfirst : (Sync.sendUpdate ctx.options (saving copy r) ⟨0, .loaded⟩ (r.revision + 1) none).run
      (.settled envs u) σ = out) :
    (Sync.save ctx.options copy.session).run (.settled envs u) σ = out := by
  rw [h.session_eq, Sync.save_eq_update rfl, Sync.update_eq_sendUpdate rfl rfl]
  exact hfirst

/-- A request that is noted brings no faults. -/
theorem faults_noted (q : Request) : (σ.noted q).store.faults = [] := h.faults

/-- There is a file. -/
theorem exists_load : ∃ old, σ.files.load path = .ok old := by
  obtain ⟨text, htext, -⟩ := Knowledge.copyOf?_eq_some.1 h.read
  cases hload : σ.files.load path with
  | ok old => exact ⟨old, rfl⟩
  | error e =>
    rw [hload] at htext
    cases htext

/-! ## Getting through -/

/-- **The working copy that is written** after an update is read again, and clean. -/
theorem parse_updated {x : Session} (hx : x.kept = copy.session.kept) {revision : Nat}
    (hrevision : revision < Nat.pow 2 64) (sent : DataTemplate) (presented : Option String)
    {s : Session} (hs : s = x.completeUpdate revision (some (RemoteDocument.hashOf sent revision))
      presented ctx.options.now) :
    ∃ copy' r', WorkingCopy.parse (copy.updateFrom s).render = .ok copy' ∧
      copy'.template = copy.template.reloaded ∧ copy'.record = some r' ∧ r'.id = r.id ∧
      r'.revision = revision ∧ copy'.isDirty = false := by
  rw [h.session_eq] at hx
  obtain ⟨hregistry, hsnapshot, hrecord, hclean⟩ := Session.completeUpdate_linked hx revision
    (RemoteDocument.hashOf sent revision) presented ctx.options.now
  rw [← hs] at hregistry hsnapshot hrecord hclean
  have hlinked : s.remoteId = some r.id := by
    obtain ⟨id, hid, heq⟩ := Option.map_eq_some_iff.1 hrecord
    rw [hid, ← congrArg SyncRecord.id heq]
  have hreads : ∀ r' ∈ s.syncRecord, r'.ReadsBack := by
    intro r' hr'
    obtain rfl := Option.some.inj (hrecord.symm.trans hr')
    refine ⟨SyncRecord.Sound.legible ⟨h.id, hrevision, fun t ht => ?_⟩, h.time⟩
    obtain rfl := Option.some.inj ht
    exact Sha256.isHashText_hex _
  have hwell : s.WellFormed := by
    rw [Session.WellFormed, hregistry]
    exact h.wellFormed
  rw [WorkingCopy.updateFrom_of_clean hclean, WorkingCopy.parse_render_ofSession hwell hlinked hreads
    (by rw [hsnapshot]; exact h.readable), hclean, if_neg Bool.false_ne_true, hsnapshot]
  refine ⟨_, _, rfl, rfl, hrecord, rfl, rfl, ?_⟩
  rw [WorkingCopy.isDirty, Portable.checksum_reloaded, bne_self_eq_false]

/-- **An update that is accepted lets the push through**, whatever was exchanged before it. -/
theorem gotThrough_of_accepted {x s : Session} (hx : x.kept = copy.session.kept)
    (presented : Option String) {revision : Nat} (hrevision : revision < Nat.pow 2 64)
    {outcome : Sync.SaveOutcome} (report : Report) {σ₁ ρ : Surroundings} {env : Store.Setting}
    (hsave : (saveWithPrompt ctx.options ctx.attempts s outcome).run (.settled envs u) σ₁ =
      ((.ok (.updated r.id revision), x.completeUpdate revision
        (some (RemoteDocument.hashOf x.snapshot.sent revision)) presented ctx.options.now),
        ρ.put r.id (Store.updatedDocument env r.id x revision d)))
    (hfiles : ρ.files = σ.files) (hdocuments : ρ.store.documents = σ.store.documents) :
    GotThrough path σ copy r d revision
      ((finishPush ctx path copy s report outcome).run (.settled envs u) σ₁) := by
  obtain ⟨old, hold⟩ := h.exists_load
  obtain ⟨link, hlink⟩ := h.link
  have hload : (ρ.put r.id (Store.updatedDocument env r.id x revision d)).files.load path = .ok old := by
    rw [← hold, ← hfiles]
    rfl
  obtain ⟨fs, hwritten, hrun⟩ := run_finishPush_updated ctx copy report hsave hload
  rw [hlink] at hrun
  obtain ⟨copy', r', hparse, hreloaded, hfiled⟩ := h.parse_updated hx hrevision _ presented rfl
  have hkept : x.kept = (Session.linked copy.template r true).kept := h.session_eq ▸ hx
  -- Nothing that was exchanged has changed the content or left passwords pending.
  have hsnapshot : x.snapshot = copy.template := by
    rw [Session.eq_update_of_kept_eq hkept]
    exact Session.snapshot_linked copy.template r true
  have hpending : x.pendingProtection = none := by
    rw [Session.eq_update_of_kept_eq hkept]
    rfl
  have hread : copyOf? (fs.load path) = some copy' := by
    refine Knowledge.copyOf?_eq_some.2 ⟨_, ?_, hparse⟩
    rw [hwritten, textOf, Utf8.decode_encode]
  have hdocument : Store.updatedDocument env r.id x revision d =
      .write env copy.template.sent revision d.openHash d.modifyHash := by
    rw [Store.updatedDocument, hpending, hsnapshot]
  rw [hrun, hdocument]
  have hstored := Store.get?_put_self ρ.store r.id
    (.write env copy.template.sent revision d.openHash d.modifyHash)
  have hsent : copy.template.sent.registry.WellFormed :=
    DataTemplate.wellFormed_rewritten (f := Dataset.expandTabs) (fun _ => rfl) h.wellFormed
  have hholds := Store.Document.holds_write hsent env revision h.holds.openHash h.holds.modifyHash
  refine ⟨⟨_, rfl, ?_⟩, ⟨_, hstored, hholds, rfl, rfl, rfl⟩, fun id hid => ?_,
    ⟨copy', r', hread, hreloaded, hfiled⟩, fun d' dt' copy'' hd' hdt' hcopy'' => ?_⟩
  · show (report.messages ++ [_]).getLast? = _
    rw [List.getLast?_concat]
  · exact (Store.get?_put_of_ne hid _ _).trans (Store.get?_congr hdocuments id)
  · obtain rfl := Option.some.inj (hstored.symm.trans hd')
    obtain rfl := Option.some.inj (hread.symm.trans hcopy'')
    rw [hreloaded, DataTemplate.core_reloaded, hdt'.core_eq hholds, DataTemplate.core_sent]

/-! ## At most one obstacle -/

/-- **Nothing stands in the way**: the update is accepted at once. -/
theorem unguarded_fresh (hguard : d.guard? = none) (hfresh : d.revision ≤ r.revision) :
    GotThrough path σ copy r d (r.revision + 1)
      ((push ctx path { force := true }).run (.settled envs u) σ) := by
  have hadmits : d.admits r.id none = true := Store.Document.admits_of_unguarded hguard none
  rw [run_push_saved h.read (h.run_save envs (Sync.run_sendUpdate_accepted h.id rfl h.wellFormed
    h.recorded h.faults h.stored rfl hadmits (Nat.lt_succ_of_le hfresh)))]
  exact h.gotThrough_of_accepted envs h.kept_saving none h.recorded {}
    (run_saveWithPrompt_updated ..) rfl rfl

/-- **The store wants a password**: it is asked for, and what the update with it comes to decides. -/
theorem asked {g : String} (hguard : d.guard? = some g) : ∃ given,
    d.admits r.id (some given) = true ∧
    ∀ {result : Except Error Sync.SaveOutcome} {s' : Session} {ρ : Surroundings},
      (Sync.sendUpdate ctx.options (saving copy r) ⟨0, .loaded⟩ (r.revision + 1) (some given)).run
          (.settled envs u) (σ.noted (firstRequest ctx copy r)) = ((result, s'), ρ) →
      (∀ p, result ≠ .ok (.passwordRequired p)) →
      ∃ p, (push ctx path { force := true }).run (.settled envs u) σ =
          (finishPush ctx path copy (saving copy r) {} (.passwordRequired p)).run (.settled envs u)
            (σ.noted (firstRequest ctx copy r)) ∧
        (saveWithPrompt ctx.options ctx.attempts (saving copy r) (.passwordRequired p)).run
          (.settled envs u) (σ.noted (firstRequest ctx copy r)) = ((result, s'), ρ) := by
  obtain ⟨given, hgiven, hblank, hhash⟩ := h.password g hguard
  have hrefused : d.admits r.id none = false := Store.Document.not_admits_none hguard
  have hadmits : d.admits r.id (some given) = true := by
    rw [Store.Document.admits, hguard]
    simpa using hhash
  have hsave := h.run_save envs
    (Sync.run_sendUpdate_asked h.id rfl h.wellFormed h.recorded h.faults h.stored hrefused)
  refine ⟨given, hadmits, fun hanswered hsettled => ⟨_, run_push_saved h.read hsave, ?_⟩⟩
  exact run_saveWithPrompt h.attempts rfl (hgiven _) hblank hanswered hsettled

/-- **The store wants a password and holds no later revision**: the answer is accepted. -/
theorem guarded_fresh {g : String} (hguard : d.guard? = some g) (hfresh : d.revision ≤ r.revision) :
    GotThrough path σ copy r d (r.revision + 1)
      ((push ctx path { force := true }).run (.settled envs u) σ) := by
  obtain ⟨given, hadmits, hpush⟩ := h.asked envs hguard
  obtain ⟨p, hrun, hsave⟩ := hpush (Sync.run_sendUpdate_accepted h.id rfl h.wellFormed h.recorded
    h.faults h.stored rfl hadmits (Nat.lt_succ_of_le hfresh)) fun p hp => (nomatch hp)
  rw [hrun]
  exact h.gotThrough_of_accepted envs h.kept_saving (some given) h.recorded {} hsave rfl rfl

/-- **The store holds a later revision and wants a password**: the answer leads to a conflict, which
ends the push. -/
theorem guarded_stale {g : String} (hguard : d.guard? = some g) (hstale : r.revision < d.revision) :
    Failed σ (.conflict r.revision)
      ((push ctx path { force := true }).run (.settled envs u) σ) := by
  obtain ⟨given, hadmits, hpush⟩ := h.asked envs hguard
  obtain ⟨p, hrun, hsave⟩ := hpush (Sync.run_sendUpdate_conflict h.id rfl h.wellFormed h.recorded
    h.faults h.stored hadmits hstale) fun p hp => (nomatch hp)
  rw [hrun, run_finishPush_error {} hsave]
  exact ⟨rfl, rfl, rfl⟩

/-- What overwriting comes to, if nothing guards the document: the end of the push. -/
theorem push_overwritten (hguard : d.guard? = none) (hstale : r.revision < d.revision)
    {second : Except Error Sync.SaveOutcome} {s' : Session} {ρ : Surroundings}
    (hoverwrite : (Sync.overwrite ctx.options (conflicting copy r) r.id).run (.settled envs u)
      (σ.noted (firstRequest ctx copy r)) = ((second, s'), ρ)) :
    (push ctx path { force := true }).run (.settled envs u) σ =
      (settle second >>= finishPush ctx path copy s'
        (({} : Report).tell .warning "Remote DataTemplate is a Later Revision")).run
          (.settled envs u) ρ := by
  have hadmits : d.admits r.id none = true := Store.Document.admits_of_unguarded hguard none
  exact run_push_overwritten h.read (h.run_save envs (Sync.run_sendUpdate_conflict h.id rfl
    h.wellFormed h.recorded h.faults h.stored hadmits hstale)) rfl rfl hoverwrite

/-- **The store holds a later revision**, which can be read: it is overwritten. -/
theorem overwritten (hguard : d.guard? = none) (hstale : r.revision < d.revision)
    (hread : Portable.IsReadable dt) : GotThrough path σ copy r d (d.revision + 1)
      ((push ctx path { force := true }).run (.settled envs u) σ) := by
  have hadmits : d.admits r.id none = true := Store.Document.admits_of_unguarded hguard none
  have hopens : d.opens r.id (conflicting copy r).fetchCredential = true :=
    Store.Document.opens_of_admits hadmits
  obtain ⟨x, hx⟩ := h.holds.exists_parse_text.2 ⟨hread, Nat.lt_of_succ_lt h.held⟩
  have hheld := (h.holds.parse_text hx).2.2.1
  have hsent : (Sync.overwrite ctx.options (conflicting copy r) r.id).run (.settled envs u)
      (σ.noted (firstRequest ctx copy r)) = _ :=
    Sync.run_overwrite h.id rfl (h.faults_noted _) h.stored hopens hx hheld
  rw [h.push_overwritten envs hguard hstale (hsent.trans (Sync.run_sendUpdate_accepted h.id rfl
    h.wellFormed h.held h.faults h.stored rfl hadmits (Nat.lt_succ_self _))),
    Procedure.run_bind_ok (Procedure.run_settle _)]
  exact h.gotThrough_of_accepted envs h.kept_conflicting none h.held _
    (run_saveWithPrompt_updated ..) rfl rfl

/-- **The store holds a later revision that cannot be read**: the push ends with that fault. -/
theorem unreadable (hguard : d.guard? = none) (hstale : r.revision < d.revision)
    (hread : ¬ Portable.IsReadable dt) : ∃ e, Failed σ (.encoding e)
      ((push ctx path { force := true }).run (.settled envs u) σ) := by
  have hopens : d.opens r.id (conflicting copy r).fetchCredential = true :=
    Store.Document.opens_of_admits (Store.Document.admits_of_unguarded hguard none)
  cases hx : RemoteDocument.parse d.text with
  | ok x => exact absurd (h.holds.exists_parse_text.1 ⟨x, hx⟩).1 hread
  | error e =>
    have hended : (Sync.overwrite ctx.options (conflicting copy r) r.id).run (.settled envs u)
        (σ.noted (firstRequest ctx copy r)) = _ :=
      Sync.run_overwrite_unreadable h.id rfl (h.faults_noted _) h.stored hopens hx
    rw [h.push_overwritten envs hguard hstale hended,
      Procedure.run_bind_error (Procedure.run_settle _)]
    exact ⟨e, rfl, rfl, rfl⟩

/-! ## The ends of a push -/

/-- **A forced push gets through if and only if it meets at most one obstacle**, a guard or a later
revision, where the later revision has to be one that can be read. With both obstacles it ends with a
conflict, although the user knows the password; with a later revision that cannot be read it ends with
that fault. Then nothing has changed. -/
theorem gotThrough_iff :
    (GotThrough path σ copy r d (max r.revision d.revision + 1)
        ((push ctx path { force := true }).run (.settled envs u) σ) ↔
      d.revision ≤ r.revision ∨ d.guard? = none ∧ Portable.IsReadable dt) ∧
    (r.revision < d.revision → d.guard? ≠ none → Failed σ (.conflict r.revision)
      ((push ctx path { force := true }).run (.settled envs u) σ)) ∧
    (r.revision < d.revision → d.guard? = none → ¬ Portable.IsReadable dt →
      ∃ e, Failed σ (.encoding e)
        ((push ctx path { force := true }).run (.settled envs u) σ)) := by
  have hconflict : r.revision < d.revision → d.guard? ≠ none → Failed σ (.conflict r.revision)
      ((push ctx path { force := true }).run (.settled envs u) σ) := by
    intro hstale hguard
    obtain ⟨g, hg⟩ := Option.ne_none_iff_exists'.1 hguard
    exact h.guarded_stale envs hg hstale
  refine ⟨⟨fun hgot => ?_, ?_⟩, hconflict, fun hstale hguard => h.unreadable envs hguard hstale⟩
  · by_cases hfresh : d.revision ≤ r.revision
    · exact .inl hfresh
    · have hstale := Nat.lt_of_not_le hfresh
      have hguard : d.guard? = none := Classical.not_not.1 fun hguard =>
        (hconflict hstale hguard).not_gotThrough hgot
      refine .inr ⟨hguard, Classical.not_not.1 fun hread => ?_⟩
      obtain ⟨e, hfailed⟩ := h.unreadable envs hguard hstale hread
      exact hfailed.not_gotThrough hgot
  · rintro (hfresh | ⟨hguard, hread⟩)
    · rw [Nat.max_eq_left hfresh]
      cases hguard : d.guard? with
      | none => exact h.unguarded_fresh envs hguard hfresh
      | some g => exact h.guarded_fresh envs hguard hfresh
    · by_cases hfresh : d.revision ≤ r.revision
      · rw [Nat.max_eq_left hfresh]
        exact h.unguarded_fresh envs hguard hfresh
      · have hstale := Nat.lt_of_not_le hfresh
        rw [Nat.max_eq_right (Nat.le_of_lt hstale)]
        exact h.overwritten envs hguard hstale hread

end Forced

/-! ## A draft -/

open Collaboration (noteDocument noteSetting keptNote noteCopy wellFormed_note steps_noteFile
  parse_changed)

/-- A working copy that has changed since it was fetched at revision 3. -/
def draft : WorkingCopy := { noteCopy with template := .single "" "" "changed" }

/-- The link of the draft. -/
def draftRecord : SyncRecord := ⟨"doc1", 3, some Collaboration.noteHash, false, some ⟨0, 0⟩⟩

/-- The document of the draft at a revision, guarded by a password. -/
def guardedNote (revision : Nat) : Store.Document :=
  .write noteSetting noteDocument revision none (some (Store.passwordHash "doc1" "pw"))

/-- The draft in a file, and the document in the store. -/
def draftSurroundings (revision : Nat) : Surroundings where
  files := ⟨[(["a"], Utf8.encode draft.render)], []⟩
  store := Store.seed noteSetting "doc1" noteDocument revision none (some "pw") {}

/-- How the draft is pushed. -/
def draftContext : Context := ⟨⟨1024, ⟨0, 0⟩⟩, "http://localhost/open", 3⟩

/-- A user who knows the password. -/
def draftUser : User := ⟨fun _ => some "pw", fun _ => true⟩

/-- The document of the draft can be read. -/
theorem readable_draft : Portable.IsReadable draft.template :=
  ⟨by decide, Portable.templateEntries_short rfl 0⟩

/-- The draft is read as it is written. -/
theorem parse_draft : WorkingCopy.parse draft.render = .ok draft :=
  parse_changed (DataTemplate.wellFormed_single _ _ _) readable_draft rfl

/-- The draft is read from its file. -/
theorem copyOf?_draft (revision : Nat) :
    copyOf? ((draftSurroundings revision).files.load "a") = some draft := by
  refine Knowledge.copyOf?_eq_some.2 ⟨draft.render, ?_, parse_draft⟩
  have hload : (draftSurroundings revision).files.load "a" = .ok (Utf8.encode draft.render) := by
    rw [Files.load, Files.locate, steps_noteFile]
    rfl
  rw [hload, textOf, Utf8.decode_encode]

/-- The draft has changes. -/
theorem isDirty_draft : draft.isDirty = true := by decide +kernel

/-- The draft can be pushed by force over any revision below the last two. -/
theorem forced_draft (revision : Nat) (h : revision + 1 < Nat.pow 2 64) :
    Forced draftContext "a" draftUser (draftSurroundings revision) draft draftRecord
      (guardedNote revision) noteDocument where
  read := copyOf?_draft revision
  linked := rfl
  dirty := isDirty_draft
  readable := readable_draft
  id := by decide
  faults := rfl
  stored := Store.get?_put_self _ _ _
  holds := Store.Document.holds_write wellFormed_note _ _ (Store.isHashText_map "doc1" none)
    (Store.isHashText_map "doc1" (some "pw"))
  recorded := by decide
  held := h
  password g hg := ⟨"pw", fun _ => rfl, by decide, Option.some.inj hg⟩
  attempts := by decide
  link := ⟨_, rfl⟩
  time := by decide

/-- The draft gets through to the document that it was fetched from, with the password that was set
since. -/
theorem gotThrough_draft : Forced draftContext "a" draftUser (draftSurroundings 3) draft draftRecord
      (guardedNote 3) noteDocument ∧
    GotThrough "a" (draftSurroundings 3) draft draftRecord (guardedNote 3) 4
      ((push draftContext "a" { force := true }).run (.settled (fun _ => noteSetting) draftUser)
        (draftSurroundings 3)) := by
  have h := forced_draft 3 (by decide)
  exact ⟨h, (h.gotThrough_iff fun _ => noteSetting).1.2 (.inl (Nat.le_refl 3))⟩

/-- **A forced push that fails although the user knows the password**: it is asked for, and accepted,
and then the store refuses the revision. -/
theorem exists_forced_conflict : ∃ ctx path u σ copy r d dt,
    Forced ctx path u σ copy r d dt ∧ d.guard? = some (Store.passwordHash r.id "pw") ∧
      u.password "Modify password" = some "pw" ∧
      Failed σ (.conflict r.revision)
        ((push ctx path { force := true }).run (.settled (fun _ => noteSetting) u) σ) := by
  have h := forced_draft 4 (by decide)
  exact ⟨_, _, _, _, _, _, _, _, h, rfl, rfl, h.guarded_stale _ rfl (by decide)⟩

end Command

end TemplateShare
