import TemplateShare.Proofs.Command.Guarded
import TemplateShare.Proofs.Session.Kept
import TemplateShare.Proofs.Session.WellFormed

/-! # Sessions and files that go by what is known

A session is covered by what a command knows if there is the revision that it says it stands at. What
is written of such a session is read back as a record of that same revision.

* **`Knowledge.Covers`**, **`Knowledge.IsAt`** — sessions of known revisions, and of the record that
  has been opened.
* **`Knowledge.Covers.backs_updateFrom`** — files that are written from them.
* **`Knowledge.covers_load`** — sessions that are opened from files. -/

namespace TemplateShare

namespace Knowledge

/-- **A session of a revision that is known**, with a well-formed document. -/
structure Covers (k : Knowledge) (s : Session) : Prop where
  registry : s.registry.WellFormed
  identity : ∀ id ∈ s.remoteId,
    DocumentId.isValid id = true ∧ s.revision < Nat.pow 2 64 ∧ k.revisions id s.revision
  hash : ∀ h ∈ s.contentHash, IsHashText h

/-- **A session at the record that has been opened**, if it has a copy in the store at all. -/
def IsAt (k : Knowledge) (s : Session) : Prop :=
  ∀ id ∈ s.remoteId, ∃ record, k.opened = some record ∧ record.id = id ∧
    record.revision = s.revision

variable {k k' : Knowledge} {s s' : Session} {c : WorkingCopy}

/-! ## Sessions -/

namespace Covers

/-- Nothing is unlearned. -/
theorem learn (h : k.Covers s) (r : Request) (x : Reply) : (k.learn r x).Covers s :=
  ⟨h.registry, fun id hid => ⟨(h.identity id hid).1, (h.identity id hid).2.1,
    .inl (h.identity id hid).2.2⟩, h.hash⟩

/-- A session that differs only in its datasets stays at its revision. -/
theorem of_registry (h : k.Covers s) (hregistry : s'.registry.WellFormed)
    (hid : s'.remoteId = s.remoteId) (hrevision : s'.revision = s.revision)
    (hhash : s'.contentHash = s.contentHash) : k.Covers s' :=
  ⟨hregistry, by rw [hid, hrevision]; exact h.identity, by rw [hhash]; exact h.hash⟩

/-- An edit leaves the revision that a session is at. -/
theorem of_edits (h : k.Covers s) {op : Session.Operation} {result : Session.Result}
    (hedits : Session.Edits s op result s') : k.Covers s' := by
  obtain ⟨hid, hrevision, hhash⟩ := hedits.edited.identity
  exact h.of_registry (Session.WellFormed.edits h.registry hedits) hid hrevision hhash

/-- A session with the same lasting part stays at its revision. -/
theorem of_kept (h : k.Covers s) (hkept : s'.kept = s.kept) : k.Covers s' := by
  refine h.of_registry (Session.WellFormed.of_kept h.registry hkept) ?_ ?_ ?_
  · exact (Session.eq_of_kept_eq hkept).2.2.2.1
  · show s'.kept.revision = s.kept.revision
    rw [hkept]
  · show s'.kept.contentHash = s.kept.contentHash
    rw [hkept]

/-- A session without a copy in the store is at no revision. -/
theorem of_unlinked (hregistry : s.registry.WellFormed) (hid : s.remoteId = none)
    (hhash : s.contentHash = none) : k.Covers s :=
  ⟨hregistry, by rw [hid]; exact fun id hmem => (nomatch hmem),
    by rw [hhash]; exact fun h hmem => (nomatch hmem)⟩

end Covers

/-! ## Files -/

/-- What has been read, if it is a working copy. -/
theorem copyOf?_eq_some {x : Except FileError Bytes} :
    Command.copyOf? x = some c ↔
      ∃ text, Command.textOf x = .ok text ∧ WorkingCopy.parse text = .ok c := by
  have htoOption {ε α : Type} {y : Except ε α} {a : α} : y.toOption = some a ↔ y = .ok a := by
    cases y <;> simp [Except.toOption]
  rw [Command.copyOf?, Option.bind_eq_some_iff]
  exact exists_congr fun text => and_congr htoOption htoOption

/-- **A sound working copy of a known revision** is written as what is known. -/
theorem backs_render (h : c.Sound) (hk : ∀ r ∈ c.record, k.revisions r.id r.revision) :
    k.Backs (Utf8.encode c.render) := by
  intro copy hcopy
  obtain ⟨text, htext, hparse⟩ := copyOf?_eq_some.1 hcopy
  rw [Command.textOf, Utf8.decode_encode] at htext
  obtain rfl := Except.ok.inj htext
  -- What is read of the copy is its own document and its own link.
  obtain ⟨-, link, hlink, rfl⟩ := (WorkingCopy.parse_render h.legible copy).1 hparse
  have hlinked : ∀ y ∈ link, y.1.Sound ∧ k.revisions y.1.id y.1.revision ∧ IsHashText y.2 := by
    intro y hy
    obtain rfl : link = some y := hy
    obtain ⟨r, t, hr, hs, heq⟩ := WorkingCopy.rereadLink_eq_some hlink
    rw [heq]
    exact ⟨⟨(h.record r hr).id, (h.record r hr).revision, (h.record r hr).hash⟩, hk r hr,
      h.synced _ hs⟩
  refine ⟨⟨?_, ?_, ?_⟩, ?_⟩
  · exact DataTemplate.wellFormed_reloaded h.template
  · intro r hr
    obtain ⟨y, hy, rfl⟩ := Option.map_eq_some_iff.1 hr
    exact (hlinked y hy).1
  · intro t ht
    obtain ⟨y, hy, rfl⟩ := Option.map_eq_some_iff.1 ht
    exact (hlinked y hy).2.2
  · intro r hr
    obtain ⟨y, hy, rfl⟩ := Option.map_eq_some_iff.1 hr
    exact (hlinked y hy).2.1

/-- **What is written of a session** is sound and of a known revision. -/
theorem Covers.updateFrom (h : k.Covers s) (hsynced : ∀ t ∈ c.synced, IsHashText t) :
    (c.updateFrom s).Sound ∧ ∀ r ∈ (c.updateFrom s).record, k.revisions r.id r.revision := by
  have hrecord : ∀ r ∈ s.syncRecord, r.Sound ∧ k.revisions r.id r.revision := by
    intro r hr
    obtain ⟨id, hid, rfl⟩ := Option.map_eq_some_iff.1 hr
    obtain ⟨hvalid, hlimit, hknown⟩ := h.identity id hid
    exact ⟨⟨hvalid, hlimit, h.hash⟩, hknown⟩
  refine ⟨⟨Session.WellFormed.snapshot h.registry, fun r hr => (hrecord r hr).1, ?_⟩,
    fun r hr => (hrecord r hr).2⟩
  intro t ht
  rcases WorkingCopy.mem_synced_updateFrom ht with ht | rfl
  · exact hsynced t ht
  · exact Sha256.isHashText_hex _

/-- **A file that is written from a session** goes by what is known. -/
theorem Covers.backs_updateFrom (h : k.Covers s) (hsynced : ∀ t ∈ c.synced, IsHashText t) :
    k.Backs (Utf8.encode (c.updateFrom s).render) :=
  backs_render (h.updateFrom hsynced).1 (h.updateFrom hsynced).2

/-- What is known after a working copy has been read. -/
theorem load_eq {x : Except FileError Bytes} (h : Command.copyOf? x = some c) :
    k.load x = ⟨fun id n => k.revisions id n ∨ ∃ r ∈ c.record, r.id = id ∧ r.revision = n,
      c.record⟩ := by
  rw [load, h]

/-- **A session that is opened from a file** is at a known revision, that of the file's record. -/
theorem covers_load {x : Except FileError Bytes} (h : Command.copyOf? x = some c) (hc : c.Sound) :
    (k.load x).Covers c.session ∧ (k.load x).IsAt c.session := by
  rw [load_eq h]
  obtain ⟨dt, record, synced⟩ := c
  cases record with
  | none => exact ⟨.of_unlinked hc.template rfl rfl, fun id hid => (nomatch hid)⟩
  | some r =>
    have hr := hc.record r rfl
    refine ⟨⟨hc.template, fun id hid => ?_, hr.hash⟩, fun id hid => ?_⟩
    · obtain rfl := Option.some.inj hid
      exact ⟨hr.id, hr.revision, .inr ⟨r, rfl, rfl, rfl⟩⟩
    · obtain rfl := Option.some.inj hid
      exact ⟨r, rfl, rfl, rfl⟩

end Knowledge

end TemplateShare
