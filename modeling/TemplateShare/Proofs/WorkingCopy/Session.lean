import TemplateShare.Proofs.Portable.Readable
import TemplateShare.Proofs.Portable.RoundTrip
import TemplateShare.Proofs.Session.WellFormed

/-! # Sessions that are written and opened again

A session goes into a working copy, and the working copy into a file. A link is written with the
checksum of the document as it was last in step with the store. A working copy that remembers one keeps
its link, whatever is changed; where a session with changes makes a working copy of its own there is
none, and the link is lost.

* **`WorkingCopy.link`** — the link that is written.
* **`WorkingCopy.parse_render_updateFrom`** — what is read of a session that has been written.
* **`WorkingCopy.record_of_parse_updateFrom`** — links that are kept.
* **`WorkingCopy.record_of_parse_ofSession`** — links of sessions that make working copies of their own.
* **`WorkingCopy.exists_lost_link`** — a link that is lost. -/

namespace TemplateShare

open Yaml

/-- **A record that reads back**: it can be written, and its time is read as it is. -/
structure SyncRecord.ReadsBack (r : SyncRecord) : Prop where
  legible : r.Legible
  time : WorkingCopy.rereadTime r.updated = some r.updated

namespace WorkingCopy

variable {c : WorkingCopy} {s : Session} {id : String}

/-! ## Links that are written -/

/-- **The link that is written**, with its checksum: there is none without one. -/
def link (c : WorkingCopy) : Option (SyncRecord × String) :=
  c.record.bind fun r => c.synced.map (r, ·)

/-- **The link of a session that is taken over.** Where nothing is left to save it has the checksum of
the document, and else the one that the working copy remembers. -/
theorem link_updateFrom (c : WorkingCopy) (s : Session) : (c.updateFrom s).link =
    s.syncRecord.bind fun r => (if s.dirty then c.synced else some s.snapshot.checksum).map (r, ·) := by
  unfold link updateFrom
  -- Without a copy in the store there is no record, and so no link whatever the checksum.
  cases hid : s.remoteId with
  | none =>
    have hrecord : s.syncRecord = none := by rw [Session.syncRecord, hid]; rfl
    simp only [hrecord, Option.bind_none]
  | some id =>
    have hunsaved : s.isUnsaved = false := by rw [Session.isUnsaved, hid]; rfl
    simp only [hunsaved, Bool.false_eq_true, if_false]

/-- A link whose time reads back is read back. -/
theorem rereadLink_eq_link (h : ∀ r ∈ c.record, rereadTime r.updated = some r.updated) :
    c.rereadLink = some c.link := by
  obtain ⟨dt, record, synced⟩ := c
  cases record with
  | none => rfl
  | some r =>
    cases synced with
    | none => rfl
    | some t =>
      have htime : rereadTime r.updated = some r.updated := h r rfl
      show (rereadTime r.updated).map _ = _
      rw [htime]
      rfl

/-! ## Sessions that are written -/

/-- **What is read of a session that has been written** over a working copy: its document, and the link
that was written. -/
theorem parse_render_updateFrom (hc : ∀ t ∈ c.synced, Scalar.ReadsBack t) (hs : s.WellFormed)
    (hrecord : ∀ r ∈ s.syncRecord, r.ReadsBack) (hread : Portable.IsReadable s.snapshot) :
    parse (c.updateFrom s).render = .ok ⟨s.snapshot.reloaded, (c.updateFrom s).link.map (·.1),
      (c.updateFrom s).link.map (·.2)⟩ := by
  -- The checksum is the one that was remembered, or that of the document.
  have hsynced : ∀ t ∈ (c.updateFrom s).synced, Scalar.ReadsBack t := by
    intro t ht
    rcases mem_synced_updateFrom ht with ht | rfl
    · exact hc t ht
    · exact (Sha256.isHashText_hex _).readsBack
  have hlegible : (c.updateFrom s).Legible :=
    ⟨hs.snapshot, fun r hr => (hrecord r hr).legible, hsynced⟩
  exact (parse_render hlegible _).2
    ⟨hread, _, rereadLink_eq_link fun r hr => (hrecord r hr).time, rfl⟩

/-- **A working copy with a link keeps it.** Whatever has been changed in a session, the record of its
copy in the store is read again from the file in which it was. -/
theorem record_of_parse_updateFrom {t : String} (hc : c.synced = some t) (ht : Scalar.ReadsBack t)
    (hs : s.WellFormed) (hrecord : ∀ r ∈ s.syncRecord, r.ReadsBack)
    (hread : Portable.IsReadable s.snapshot) :
    ∃ c', parse (c.updateFrom s).render = .ok c' ∧ c'.record = s.syncRecord := by
  have hsynced : ∀ t' ∈ c.synced, Scalar.ReadsBack t' := by
    intro t' ht'
    obtain rfl := Option.some.inj (hc.symm.trans ht')
    exact ht
  refine ⟨_, parse_render_updateFrom hsynced hs hrecord hread, ?_⟩
  rw [link_updateFrom, hc]
  cases s.syncRecord with
  | none => rfl
  | some r => cases s.dirty <;> rfl

/-! ## Sessions that make working copies -/

/-- What a file is to remember of a session with a copy in the store. -/
theorem syncRecord_eq (hid : s.remoteId = some id) :
    s.syncRecord = some ⟨id, s.revision, s.contentHash, !s.capabilities.canProtect, s.updated⟩ := by
  rw [Session.syncRecord, hid]
  rfl

/-- Where nothing is left to save, nothing is taken over from the working copy before. -/
theorem updateFrom_of_clean (h : s.dirty = false) (c : WorkingCopy) :
    c.updateFrom s = ofSession s := by
  simp only [ofSession, updateFrom, h]
  rfl

/-- **A session that makes a working copy of its own**, read again. Its link is there if and only if
nothing was left to save. -/
theorem parse_render_ofSession (hs : s.WellFormed) (hid : s.remoteId = some id)
    (hrecord : ∀ r ∈ s.syncRecord, r.ReadsBack) (hread : Portable.IsReadable s.snapshot) :
    parse (ofSession s).render = .ok
      (if s.dirty then { template := s.snapshot.reloaded }
        else ⟨s.snapshot.reloaded, s.syncRecord, some s.snapshot.checksum⟩) := by
  have hnone : ∀ t ∈ ({ template := {} } : WorkingCopy).synced, Scalar.ReadsBack t := fun _ ht =>
    (nomatch ht)
  rw [ofSession, parse_render_updateFrom hnone hs hrecord hread, link_updateFrom, syncRecord_eq hid]
  cases s.dirty <;> rfl

/-- **A session that is opened again has its link if and only if nothing was left to save.** The working
copy that is made of a session with a copy in the store can be read, and the session opened from it has
changes if and only if the first one had. It has the record of the first one, with its id, revision and
hash, exactly where that one had no changes. -/
theorem record_of_parse_ofSession {x : DataTemplate} (hs : s.WellFormed) (hid : s.remoteId = some id)
    (hrecord : ∀ r ∈ s.syncRecord, r.ReadsBack)
    (hread : Portable.parse (Portable.render .plain s.snapshot) = .ok x) :
    ∃ c, parse (ofSession s).render = .ok c ∧ c.template = x ∧ c.session.dirty = s.dirty ∧
      (c.record = s.syncRecord ↔ s.dirty = false) ∧
      (c.session.remoteId = s.remoteId ↔ s.dirty = false) ∧
      (s.dirty = false → c.session.revision = s.revision ∧ c.session.contentHash = s.contentHash) := by
  obtain ⟨hreadable, rfl⟩ := (Portable.parse_render hs.snapshot x).1 hread
  refine ⟨_, parse_render_ofSession hs hid hrecord hreadable, ?_⟩
  have hsome := syncRecord_eq hid
  -- With changes nothing is linked; without them the checksum of the reread document agrees.
  cases hdirty : s.dirty with
  | true =>
    rw [if_pos rfl, hid, hsome]
    exact ⟨rfl, rfl, ⟨fun h => (nomatch h), fun h => (nomatch h)⟩,
      ⟨fun h => (nomatch h), fun h => (nomatch h)⟩, fun h => (nomatch h)⟩
  | false =>
    rw [if_neg Bool.false_ne_true, hid, hsome]
    have hclean : isDirty ⟨s.snapshot.reloaded,
        some ⟨id, s.revision, s.contentHash, !s.capabilities.canProtect, s.updated⟩,
        some s.snapshot.checksum⟩ = false := by
      rw [isDirty, Portable.checksum_reloaded, bne_self_eq_false]
    exact ⟨rfl, hclean, iff_of_true rfl rfl, iff_of_true rfl rfl, fun _ => ⟨rfl, rfl⟩⟩

/-- A record of a copy in the store. -/
def tableRecord : SyncRecord := ⟨"abc123", 2, some "deadbeef", false, none⟩

/-- A session with a table, and whether it has changed. -/
def tableSession (dirty : Bool) : Session := .linked (.single "a,b\n1,2" "x: 1" "t") tableRecord dirty

/-- The document of the session is well-formed. -/
theorem wellFormed_tableSession (dirty : Bool) : (tableSession dirty).WellFormed :=
  DataTemplate.wellFormed_single "a,b\n1,2" "x: 1" "t"

/-- The record of the session reads back. -/
theorem readsBack_tableSession (dirty : Bool) :
    ∀ r ∈ (tableSession dirty).syncRecord, r.ReadsBack := by
  have hsound : tableRecord.Sound := by
    refine ⟨by decide, by decide, fun h hh => ?_⟩
    obtain rfl := Option.some.inj hh
    exact ⟨by decide, by decide⟩
  intro r hr
  obtain rfl := Option.some.inj hr
  exact ⟨hsound.legible, rfl⟩

/-- The document of the session can be read. -/
theorem isReadable_tableSession (dirty : Bool) :
    Portable.IsReadable (tableSession dirty).snapshot := by
  have hsingle : (tableSession dirty).snapshot = .single "a,b\n1,2" "x: 1" "t" := rfl
  rw [hsingle]
  exact (Portable.isReadable_iff (DataTemplate.wellFormed_single _ _ _)).2 (by decide)

/-- Without changes it is opened with its link. -/
theorem record_of_parse_ofSession_table : (tableSession false).WellFormed ∧
    (tableSession false).remoteId = some "abc123" ∧
    (∀ r ∈ (tableSession false).syncRecord, r.ReadsBack) ∧
    ∃ x, Portable.parse (Portable.render .plain (tableSession false).snapshot) = .ok x ∧
      ∃ c, parse (ofSession (tableSession false)).render = .ok c ∧ c.template = x ∧
        c.session.dirty = (tableSession false).dirty ∧
        (c.record = (tableSession false).syncRecord ↔ (tableSession false).dirty = false) ∧
        (c.session.remoteId = (tableSession false).remoteId ↔ (tableSession false).dirty = false) ∧
        ((tableSession false).dirty = false →
          c.session.revision = (tableSession false).revision ∧
            c.session.contentHash = (tableSession false).contentHash) := by
  have hs := wellFormed_tableSession false
  have hread := (Portable.parse_render hs.snapshot _).2 ⟨isReadable_tableSession false, rfl⟩
  exact ⟨hs, rfl, readsBack_tableSession false, _, hread,
    record_of_parse_ofSession hs rfl (readsBack_tableSession false) hread⟩

/-- **A link that is lost**: the working copy of a session with changes is written without it. -/
theorem exists_lost_link : ∃ (s : Session) (c : WorkingCopy) (x : DataTemplate),
    s.remoteId = some "abc123" ∧ Portable.parse (Portable.render .plain s.snapshot) = .ok x ∧
      parse (ofSession s).render = .ok c ∧ c.record ≠ s.syncRecord ∧ c.session.remoteId = none := by
  have hs := wellFormed_tableSession true
  exact ⟨tableSession true, _, _, rfl,
    (Portable.parse_render hs.snapshot _).2 ⟨isReadable_tableSession true, rfl⟩,
    parse_render_ofSession hs rfl (readsBack_tableSession true) (isReadable_tableSession true),
    fun h => (nomatch h), rfl⟩

end WorkingCopy

end TemplateShare
