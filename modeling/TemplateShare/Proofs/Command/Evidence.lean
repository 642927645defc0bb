import TemplateShare.Proofs.Core
import TemplateShare.Proofs.Command.Covered

/-! # Dialogues that write what they have evidence of

A file records, beside its document, a revision and the checksum that the document had at that
revision. Two things are evidence for such a pair: a file that has been read and records it, and a
reply that tells of the revision and of a document with this checksum. A truthful dialogue writes no
pair without evidence.

* **`Evidence`** — what a command has heard and read; **`Evidence.Backs`** — contents of files that
  record nothing else.
* **`Dialogue.Truthful`** — the truthful dialogues, with a condition on how they end.
* **`Evidence.Carries`** — sessions that may be written back to a working copy;
  **`Evidence.Carries.backs_updateFrom`** — what is then written.
* **`Evidence.carries_read`** — sessions that are opened from files. -/

namespace TemplateShare

/-! ## Evidence -/

/-- **What a command has evidence of** while it is carried out. -/
structure Evidence where
  /-- The store holds, or held, a document with this core at this revision of the id. -/
  contents : String → Nat → DataTemplate → Prop
  /-- Some file records this checksum for this revision of the id. -/
  checksums : String → Nat → String → Prop

namespace Evidence

/-- A command has no evidence at its start. -/
def nothing : Evidence := ⟨fun _ _ _ => False, fun _ _ _ => False⟩

/-- **What there is evidence of after a reply.** -/
def hear (k : Evidence) (r : Request) (x : Reply) : Evidence :=
  { k with
    contents := fun id n c => k.contents id n c ∨
      (Sync.Tells r x id n ∧ ∃ dt, Sync.content? r x = some dt ∧ dt.core = c) }

/-- **What there is evidence of after a file has been read.** -/
def read (k : Evidence) (x : Except FileError Bytes) : Evidence :=
  { k with
    checksums := fun id n t => k.checksums id n t ∨ ∃ copy, Command.copyOf? x = some copy ∧
      copy.synced = some t ∧ ∃ r ∈ copy.record, r.id = id ∧ r.revision = n }

/-- **Evidence for a checksum** at a revision: it is recorded, or it is the checksum of a document
whose core the store held. -/
def Attests (k : Evidence) (id : String) (n : Nat) (t : String) (dt : DataTemplate) : Prop :=
  k.checksums id n t ∨ (t = dt.checksum ∧ k.contents id n dt.core)

/-- **A working copy that goes by the evidence**, in the form in which it is read. -/
structure Backed (k : Evidence) (copy : WorkingCopy) : Prop where
  sound : copy.Sound
  readsBack : Portable.parse (Portable.render .plain copy.template) = .ok copy.template
  synced : ∀ r ∈ copy.record, ∀ t ∈ copy.synced, k.Attests r.id r.revision t copy.template

/-- **Contents of files that go by the evidence.** A content that is no working copy says nothing. -/
def Backs (k : Evidence) (content : Bytes) : Prop :=
  ∀ copy, Command.copyOf? (.ok content) = some copy → k.Backed copy

end Evidence

/-! ## Dialogues -/

namespace Dialogue

variable {α β : Type} {Q Q' : α → Evidence → Prop} {k : Evidence}

/-- **A truthful dialogue**, with what holds at its end. Replies can be relied on, files that are read
are sound, and the user gives any answers. -/
def Truthful (Q : α → Evidence → Prop) : Dialogue α → Evidence → Prop
  | .done a, k => Q a k
  | .exchange r next, k => ∀ x, Sync.Honest r x → (next x).Truthful Q (k.hear r x)
  | .askPassword _ next, k => ∀ x, (next x).Truthful Q k
  | .confirm _ next, k => ∀ x, (next x).Truthful Q k
  | .loadFile _ next, k =>
    ∀ x, (∀ copy, Command.copyOf? x = some copy → copy.Sound) → (next x).Truthful Q (k.read x)
  | .saveFile _ content next, k => k.Backs content ∧ ∀ x, (next x).Truthful Q k

/-- **A dialogue that goes on is truthful** if its first part ends where the second can start. -/
@[simp] theorem truthful_bind {d : Dialogue β} {f : β → Dialogue α} :
    (d.bind f).Truthful Q k ↔ d.Truthful (fun b k => (f b).Truthful Q k) k := by
  induction d generalizing k with
  | done a => exact Iff.rfl
  | exchange r next ih => exact forall_congr' fun x => forall_congr' fun _ => ih x
  | askPassword q next ih => exact forall_congr' fun x => ih x
  | confirm q next ih => exact forall_congr' fun x => ih x
  | loadFile p next ih => exact forall_congr' fun x => forall_congr' fun _ => ih x
  | saveFile p c next ih => exact and_congr_right' (forall_congr' fun x => ih x)

/-- A truthful dialogue ends also where less is asked for. -/
theorem Truthful.mono {d : Dialogue α} (h : d.Truthful Q k) (hQ : ∀ a k, Q a k → Q' a k) :
    d.Truthful Q' k := by
  induction d generalizing k with
  | done a => exact hQ a k h
  | exchange r next ih => exact fun x hx => ih x (h x hx)
  | askPassword q next ih => exact fun x => ih x (h x)
  | confirm q next ih => exact fun x => ih x (h x)
  | loadFile p next ih => exact fun x hx => ih x (h x hx)
  | saveFile p c next ih => exact ⟨h.1, fun x => ih x (h.2 x)⟩

end Dialogue

/-! ## Procedures -/

namespace Procedure

variable {α β : Type} {Q Q' : α → Evidence → Prop} {k : Evidence}

/-- **A truthful procedure**, with what holds at its end if no fault has ended it. -/
def Truthful (Q : α → Evidence → Prop) (x : Procedure α) (k : Evidence) : Prop :=
  Dialogue.Truthful (fun r k => ∀ a, r = .ok a → Q a k) x k

/-- A procedure that ends at once. -/
theorem truthful_pure {a : α} (h : Q a k) : Truthful Q (pure a) k :=
  fun _ ha => Except.ok.inj ha ▸ h

/-- **A procedure that goes on is truthful** if its first part ends where the second can start. -/
theorem truthful_bind {x : Procedure β} {f : β → Procedure α}
    (h : Truthful (fun b k => Truthful Q (f b) k) x k) : Truthful Q (x >>= f) k := by
  show Dialogue.Truthful _ (Dialogue.bind x _) k
  rw [Dialogue.truthful_bind]
  refine Dialogue.Truthful.mono h fun r k hr => ?_
  cases r with
  | ok b => exact hr b rfl
  | error e => exact fun _ ha => (nomatch ha)

/-- A truthful procedure ends also where less is asked for. -/
theorem Truthful.mono {x : Procedure α} (h : Truthful Q x k) (hQ : ∀ a k, Q a k → Q' a k) :
    Truthful Q' x k :=
  Dialogue.Truthful.mono h fun _ k hr a ha => hQ a k (hr a ha)

/-- A fault ends a procedure, else it goes on. -/
theorem truthful_settle {x : Except Error α} (h : ∀ a, x = .ok a → Q a k) :
    Truthful Q (Command.settle x) k := h

/-- A dialogue as a part of a procedure. -/
theorem truthful_perform {d : Dialogue α} (h : d.Truthful Q k) :
    Truthful Q (Command.perform d) k := by
  show Dialogue.Truthful _ (d.bind _) k
  rw [Dialogue.truthful_bind]
  exact h.mono fun _ _ hQ _ ha => Except.ok.inj ha ▸ hQ

end Procedure

/-- No revision is known to be wrong. -/
def Knowledge.anything : Knowledge := ⟨fun _ _ => True, none⟩

/-- A session of a known revision is one of any revision. -/
theorem Knowledge.Covers.anything {k : Knowledge} {s : Session} (h : k.Covers s) :
    Knowledge.anything.Covers s :=
  ⟨h.registry, fun id hid => ⟨(h.identity id hid).1, (h.identity id hid).2.1, trivial⟩, h.hash⟩

namespace Evidence

variable {k : Evidence} {s s' : Session} {copy : WorkingCopy}

/-! ## Sessions -/

/-- **A session at a revision for which the checksum is recorded** that a working copy remembers. -/
def Anchors (k : Evidence) (copy : WorkingCopy) (s : Session) : Prop :=
  ∀ id ∈ s.remoteId, ∀ t ∈ copy.synced, k.checksums id s.revision t

/-- **A session that may be written back to a working copy.** If nothing is left to save, the checksum
of its document will be recorded, and else the one that the working copy remembers. -/
structure Carries (k : Evidence) (copy : WorkingCopy) (s : Session) : Prop where
  covers : Knowledge.anything.Covers s
  clean : s.dirty = false → ∀ id ∈ s.remoteId,
    k.Attests id s.revision s.snapshot.checksum s.snapshot
  dirty : s.dirty = true → k.Anchors copy s

namespace Carries

/-- What a reply tells adds to the evidence. -/
theorem hear (h : k.Carries copy s) (r : Request) (x : Reply) : (k.hear r x).Carries copy s :=
  ⟨h.covers, fun hclean id hid => (h.clean hclean id hid).imp_right (And.imp_right .inl), h.dirty⟩

/-- A session with the same lasting part may be written back as well. -/
theorem of_kept (h : k.Carries copy s) (hkept : s'.kept = s.kept) : k.Carries copy s' := by
  obtain ⟨hregistry, heditor, htemplate, hid, hdirty, -⟩ := Session.eq_of_kept_eq hkept
  have hrevision : s'.revision = s.revision := show s'.kept.revision = _ by rw [hkept]; rfl
  have hsnapshot : s'.snapshot = s.snapshot := by
    rw [Session.snapshot, hregistry, heditor, htemplate, Session.snapshot]
  refine ⟨h.covers.of_kept hkept, ?_, ?_⟩
  · rw [hdirty, hid, hrevision, hsnapshot]
    exact h.clean
  · rw [hdirty, Anchors, hid, hrevision]
    exact h.dirty

/-- A session without a copy in the store may be written anywhere. -/
theorem of_unlinked (hregistry : s.registry.WellFormed) (hid : s.remoteId = none)
    (hhash : s.contentHash = none) : k.Carries copy s := by
  have hnone : ∀ id, id ∉ s.remoteId := by
    intro id hmem
    rw [hid] at hmem
    cases hmem
  exact ⟨.of_unlinked hregistry hid hhash, fun _ id hmem => absurd hmem (hnone id),
    fun _ id hmem => absurd hmem (hnone id)⟩

/-- **A session in step with the store** may be written anywhere, if a reply has told of its document
at its revision. -/
theorem of_told (hcovers : Knowledge.anything.Covers s) (hclean : s.dirty = false)
    (htold : ∀ id ∈ s.remoteId, k.contents id s.revision s.snapshot.core) : k.Carries copy s :=
  ⟨hcovers, fun _ id hid => .inr ⟨rfl, htold id hid⟩, fun hdirty => (nomatch hclean.symm.trans hdirty)⟩

/-- **A session that has been changed** may be written back to the working copy that it comes from. -/
theorem of_changed (h : k.Anchors copy s) (hcovers : Knowledge.anything.Covers s')
    (hid : s'.remoteId = s.remoteId) (hrevision : s'.revision = s.revision)
    (hdirty : s'.dirty = true) : k.Carries copy s' := by
  refine ⟨hcovers, fun hclean => (nomatch hdirty.symm.trans hclean), fun _ => ?_⟩
  rw [Anchors, hid, hrevision]
  exact h

end Carries

/-! ## Files -/

/-- **What is written of a session** goes by the evidence. -/
theorem Carries.backs_updateFrom (h : k.Carries copy s)
    (hsynced : ∀ t ∈ copy.synced, IsHashText t) :
    k.Backs (Utf8.encode (copy.updateFrom s).render) := by
  intro read hread
  obtain ⟨hsound, -⟩ := h.covers.updateFrom hsynced
  obtain ⟨hreadSound, -⟩ := Knowledge.backs_render hsound (k := .anything) (fun _ _ => trivial)
    read hread
  obtain ⟨text, htext, hparse⟩ := Knowledge.copyOf?_eq_some.1 hread
  rw [Command.textOf, Utf8.decode_encode] at htext
  obtain rfl := Except.ok.inj htext
  obtain ⟨hreadable, link, hlink, rfl⟩ := (WorkingCopy.parse_render hsound.legible read).1 hparse
  refine ⟨hreadSound, DataTemplate.parse_render_reloaded hsound.template hreadable, ?_⟩
  intro r hr t ht
  obtain ⟨y, rfl, rfl⟩ := Option.map_eq_some_iff.1 hr
  obtain rfl := Option.some.inj ht
  -- The link that is read is the one that has been written, up to its time.
  obtain ⟨r, time, hrecord, hwritten, heq⟩ := WorkingCopy.rereadLink_eq_some hlink
  obtain ⟨id, hid, rfl⟩ := Option.map_eq_some_iff.1 hrecord
  show k.Attests y.1.id y.1.revision y.2 s.snapshot.reloaded
  rw [heq]
  show k.Attests id s.revision y.2 s.snapshot.reloaded
  have hlinked : s.isUnsaved = false := by rw [Session.isUnsaved, hid]; rfl
  have hchecksum : (if s.dirty then copy.synced else some s.snapshot.checksum) = some y.2 := by
    rw [← hwritten, WorkingCopy.updateFrom]
    simp only [hlinked, Bool.false_eq_true, if_false]
  cases hdirty : s.dirty with
  | true =>
    rw [hdirty, if_pos rfl] at hchecksum
    exact .inl (h.dirty hdirty id hid _ hchecksum)
  | false =>
    rw [hdirty, if_neg Bool.false_ne_true] at hchecksum
    rw [← Option.some.inj hchecksum, Attests, Portable.checksum_reloaded,
      DataTemplate.core_reloaded]
    exact h.clean hdirty id hid

/-- **A session that is opened from a file** may be written back to it, also after changes. -/
theorem carries_read {x : Except FileError Bytes} (h : Command.copyOf? x = some copy)
    (hc : copy.Sound) : (k.read x).Carries copy copy.session ∧
      (k.read x).Anchors copy copy.session := by
  have hcovers := (Knowledge.nothing.covers_load h hc).1.anything
  obtain ⟨dt, record, synced⟩ := copy
  cases record with
  | none => exact ⟨.of_unlinked hc.template rfl rfl, fun id hid => (nomatch hid)⟩
  | some r =>
    have hanchors : (k.read x).Anchors ⟨dt, some r, synced⟩
        (WorkingCopy.session ⟨dt, some r, synced⟩) := by
      intro id hid t ht
      obtain rfl := Option.some.inj hid
      exact .inr ⟨_, h, ht, r, rfl, rfl, rfl⟩
    refine ⟨⟨hcovers, fun hclean id hid => .inl ?_, fun _ => hanchors⟩, hanchors⟩
    -- Where nothing has changed, the checksum that is recorded is that of the document.
    have hsynced : synced = some dt.checksum := by
      have hdirty : (synced != some dt.checksum) = false := hclean
      simpa using hdirty
    rw [WorkingCopy.session, Session.snapshot_linked]
    exact hanchors id hid _ hsynced

end Evidence

end TemplateShare
