import TemplateShare.Proofs.Content
import TemplateShare.Proofs.Registry.Operations
import TemplateShare.Proofs.Session.Kept

/-! # Sessions without changes

What a session that has a copy in the store and is not marked as changed has to do with that copy.
Edits are marked when they are made. Making a dataset active without keeping the edits so far takes
them back, and is not marked: after a save the edits are part of the copy in the store, but still
only in the editor, so that taking them back makes a difference to the copy.

* **`Session.History`** — a session with the document at the last time it was in step with the
  store, and whether edits have been dropped since.
* **`Session.History.sameContent_iff_not_dropped`** — a linked session without changes holds the
  document it was in step with if and only if no edits have been dropped since then.
* **`Session.History.exists_hidden_difference`** — a run at whose end a difference is hidden. -/

namespace TemplateShare

namespace Session

variable {s s' : Session} {es : List (Request × Reply)} {result : Result} {op : Operation}

/-! ## What an unmarked edit changes -/

/-- **The edits are stored**: the registry holds the texts that are in the editor. -/
def IsStored (s : Session) : Prop := s.editor = s.registry.active.buffers

/-- **Whether an operation takes edits back**: it makes a dataset active without keeping edits that
are not stored. -/
def Operation.dropsEdits (s : Session) : Operation → Bool
  | .switchDataset name false => s.registry.contains name && s.registry.active.buffers != s.editor
  | _ => false

/-- Texts that are stored are replaced by the edits in any case. -/
theorem snapshot_setActive (s : Session) (b : Buffers) :
    snapshot { s with registry := s.registry.setActive b } = s.snapshot :=
  congrArg (DataTemplate.mk · s.template) (s.registry.setActive_setActive b s.editor)

/-- A session whose edits are stored shows the datasets of its registry. -/
theorem datasets_snapshot_of_isStored (h : s.IsStored) :
    s.snapshot.datasets = s.registry.datasets :=
  Registry.datasets_setActive_eq_iff.2 h

/-- **A change of the content that is not marked**: dropped edits leave the stored datasets, and
anything else leaves the content alone. -/
structure Unmarked (s : Session) (drops : Bool) (s' : Session) : Prop where
  remoteId : s'.remoteId = s.remoteId
  dirty : s'.dirty = s.dirty
  template : s'.template = s.template
  datasets : if drops then s'.registry.datasets = s.registry.datasets ∧ s'.IsStored
    else s'.snapshot.datasets = s.snapshot.datasets ∧ (s.IsStored → s'.IsStored)

/-- A session that stays as it is has no unmarked change. -/
theorem Unmarked.refl (s : Session) : Unmarked s false s := ⟨rfl, rfl, rfl, rfl, id⟩

/-- Another dataset becomes active. -/
theorem unmarked_of_switch {name : String} {persist : Bool} {r : Registry}
    (hr : s.registry.switch name (if persist then some s.editor else none) = .ok r) :
    Unmarked s (Operation.dropsEdits s (.switchDataset name persist))
      { s with registry := r, editor := r.active.buffers } := by
  have hds := (Registry.switch_eq_ok hr).2
  have hstored : IsStored { s with registry := r, editor := r.active.buffers } := rfl
  refine ⟨rfl, rfl, rfl, ?_⟩
  rw [datasets_snapshot_of_isStored hstored]
  cases persist with
  | true => exact ⟨hds, fun _ => hstored⟩
  | false =>
    split
    · exact ⟨hds, hstored⟩
    · next hdrop =>
      refine ⟨?_, fun _ => hstored⟩
      have hmem : s.registry.contains name = true := by
        rw [← Registry.isOk_switch s.registry name none]
        exact congrArg Except.isOk hr
      have hsame : s.registry.active.buffers = s.editor := by
        simpa [Operation.dropsEdits, hmem] using hdrop
      exact hds.trans (datasets_snapshot_of_isStored hsame.symm).symm

/-- Where the name is unknown, no edits are dropped. -/
theorem dropsEdits_of_switch {name : String} {persist : Bool} {e : ValidationError}
    (hr : s.registry.switch name (if persist then some s.editor else none) = .error e) :
    Operation.dropsEdits s (.switchDataset name persist) = false := by
  cases persist with
  | true => rfl
  | false =>
    have hmem : s.registry.contains name = false := by
      rw [← Registry.isOk_switch s.registry name none]
      exact congrArg Except.isOk hr
    rw [Operation.dropsEdits, hmem, Bool.false_and]

/-- A dataset that cannot be removed leaves the content alone; one that is removed is marked. -/
theorem unmarked_removeNow (s : Session) (name : String) :
    (s.removeNow name).2.dirty = true ∨ Unmarked s false (s.removeNow name).2 := by
  unfold removeNow
  dsimp only
  split
  · refine .inr ?_
    split
    · have hstored : IsStored { s with registry := s.registry.setActive s.editor } := by
        rw [IsStored, Registry.setActive_active]
      exact ⟨rfl, rfl, rfl, datasets_snapshot_of_isStored hstored, fun _ => hstored⟩
    · exact Unmarked.refl s
  · exact .inl rfl

/-- **An edit marks the session as changed or makes an unmarked change.** -/
theorem Edits.dirty_or_unmarked (h : Edits s op result s') :
    s'.dirty = true ∨ Unmarked s (op.dropsEdits s) s' := by
  cases h with
  | data | vars | template | added => exact .inl rfl
  | sameData | sameVars | sameTemplate | notAdded | unknown | last | asked =>
    exact .inr (Unmarked.refl s)
  | notSwitched refused =>
    rw [dropsEdits_of_switch refused]
    exact .inr (Unmarked.refl s)
  | switched switched => exact .inr (unmarked_of_switch switched)
  | removed | confirmed => exact unmarked_removeNow s _

/-- **A local operation marks the session as changed or makes an unmarked change.** -/
theorem dirty_or_unmarked_of_step (h : Step s op es result s') (hx : op.isExchange = false) :
    s'.dirty = true ∨ Unmarked s (op.dropsEdits s) s' := by
  cases (acts_of_step h hx).2 with
  | edits hedits => exact hedits.dirty_or_unmarked
  | pastes | confirms | protects => exact .inl rfl
  | asks | notProtected => exact .inr (Unmarked.refl s)
  | invalid | begins => cases hx

/-! ## Runs -/

/-- **A session with its past**: the document at the last time the session was in step with the
store, if it ever was, and whether edits have been dropped since. -/
structure History where
  session : Session
  synced : Option DataTemplate := none
  dropped : Bool := false

namespace History

/-- The past after an operation with a result. -/
def next (h : History) (op : Operation) (result : Result) (s' : Session) : History :=
  if result.isSync then ⟨s', some s'.snapshot, false⟩
  else ⟨s', h.synced, h.dropped || op.dropsEdits h.session⟩

/-- **The sessions that can be reached**: from a session without a copy in the store, or one that a
file remembers a copy of, by any operations with any replies. -/
inductive Reachable : History → Prop
  | initial : Reachable ⟨{}, none, false⟩
  | ofTemplate (dt : DataTemplate) : Reachable ⟨Session.ofTemplate dt, none, false⟩
  | unsaved (dt : DataTemplate) : Reachable ⟨Session.unsaved dt, none, false⟩
  | linked (dt : DataTemplate) (r : SyncRecord) :
      Reachable ⟨Session.linked dt r false, some dt, false⟩
  | linkedDirty (dt : DataTemplate) (r : SyncRecord) :
      Reachable ⟨Session.linked dt r true, none, false⟩
  | step {h : History} (reached : Reachable h) {op : Operation} {es : List (Request × Reply)}
      {result : Result} {s' : Session} (step : Step h.session op es result s') :
      Reachable (h.next op result s')

/-- **What an unchanged session holds**: the document it was in step with, or the texts that were
stored before, if edits have been dropped. -/
def Faithful (h : History) : Prop :=
  h.session.remoteId ≠ none → h.session.dirty = false → ∃ dt, h.synced = some dt ∧
    if h.dropped then ¬h.session.snapshot.SameContent dt ∧ h.session.IsStored
    else h.session.snapshot.SameContent dt

/-- Edits are dropped only where some are not stored. -/
theorem not_isStored_of_dropsEdits {op : Operation} (h : op.dropsEdits s = true) :
    ¬s.IsStored := by
  intro hstored
  cases op with
  | switchDataset name persist =>
    cases persist with
    | true => cases h
    | false =>
      rw [Operation.dropsEdits, ← (show s.editor = s.registry.active.buffers from hstored)] at h
      simp at h
  | _ => cases h

/-- An unmarked change goes on from a faithful history. -/
theorem Faithful.unmarked {h : History} (hf : h.Faithful) {op : Operation}
    (hu : Unmarked h.session (op.dropsEdits h.session) s') :
    Faithful ⟨s', h.synced, h.dropped || op.dropsEdits h.session⟩ := by
  intro hid hclean
  obtain ⟨dt, hsynced, hdt⟩ := hf (hu.remoteId ▸ hid) (hu.dirty ▸ hclean)
  refine ⟨dt, hsynced, ?_⟩
  have htemplate : s'.snapshot.template = h.session.snapshot.template := hu.template
  have hds := hu.datasets
  cases hdrops : op.dropsEdits h.session with
  | true =>
    -- What is dropped was not stored, so that the stored datasets differ from those in the editor.
    rw [hdrops, if_pos rfl] at hds
    obtain ⟨hregistry, hstored⟩ := hds
    have hnot := not_isStored_of_dropsEdits hdrops
    have hsame : h.session.snapshot.SameContent dt := by
      cases hd : h.dropped with
      | true => exact absurd (by rw [hd, if_pos rfl] at hdt; exact hdt.2) hnot
      | false => rw [hd] at hdt; exact hdt
    rw [Bool.or_true, if_pos rfl]
    refine ⟨fun hsame' => hnot ?_, hstored⟩
    rw [IsStored, ← Registry.datasets_setActive_eq_iff]
    calc (h.session.registry.setActive h.session.editor).datasets
        = dt.datasets := hsame.1
      _ = s'.snapshot.datasets := hsame'.1.symm
      _ = s'.registry.datasets := datasets_snapshot_of_isStored hstored
      _ = h.session.registry.datasets := hregistry
  | false =>
    rw [hdrops] at hds
    obtain ⟨hsnapshot, hstored⟩ := hds
    have hcontent : s'.snapshot.SameContent h.session.snapshot := ⟨hsnapshot, htemplate⟩
    rw [Bool.or_false]
    cases hd : h.dropped with
    | true =>
      rw [hd, if_pos rfl] at hdt
      exact ⟨fun hsame => hdt.1 (hcontent.symm.trans hsame), hstored hdt.2⟩
    | false =>
      rw [hd] at hdt
      exact hcontent.trans hdt

/-- **One operation keeps a history faithful.** -/
theorem Faithful.next {h : History} (hf : h.Faithful) {op : Operation}
    (step : Step h.session op es result s') : (h.next op result s').Faithful := by
  unfold History.next
  cases hsync : result.isSync with
  | true =>
    rw [if_pos rfl]
    exact fun _ _ => ⟨s'.snapshot, rfl, .refl _⟩
  | false =>
    rw [if_neg Bool.false_ne_true]
    cases hx : op.isExchange with
    | true =>
      obtain ⟨hr, he, ht, hid, hdirty, -⟩ := eq_of_kept_eq (kept_of_step step hx hsync)
      have hdrops : op.dropsEdits h.session = false := by
        cases op with
        | switchDataset name persist => cases hx
        | _ => rfl
      refine hf.unmarked ⟨hid, hdirty, ht, ?_⟩
      rw [hdrops]
      exact ⟨by rw [snapshot, snapshot, hr, he]; rfl, fun hs => by rw [IsStored, hr, he]; exact hs⟩
    | false =>
      obtain hdirty | hu := dirty_or_unmarked_of_step step hx
      · exact fun _ hclean => absurd (hdirty.symm.trans hclean) Bool.noConfusion
      · exact hf.unmarked hu

/-- A history that can be reached is faithful. -/
theorem Reachable.faithful {h : History} (reached : Reachable h) : h.Faithful := by
  induction reached with
  | initial => exact fun hid => absurd rfl hid
  | ofTemplate dt => exact fun hid => absurd rfl hid
  | unsaved dt => exact fun hid => absurd rfl hid
  | linked dt r =>
    have hsame : (Session.linked dt r false).snapshot.SameContent dt := by
      rw [snapshot_linked]
      exact .refl dt
    exact fun _ _ => ⟨dt, rfl, hsame⟩
  | linkedDirty dt r => exact fun _ hclean => Bool.noConfusion hclean
  | step _ hstep ih => exact ih.next hstep

/-- **An unchanged session holds what it was in step with, unless edits were dropped.** A session
that has a copy in the store and is not marked as changed was in step with the store before, an
update of it answers that nothing has changed, and its content is that of the last time it was in
step if and only if no edits have been dropped since. -/
theorem sameContent_iff_not_dropped {h : History} (reached : Reachable h)
    (hid : h.session.remoteId ≠ none) (hclean : h.session.dirty = false) :
    (∃ dt, h.synced = some dt ∧ (h.session.snapshot.SameContent dt ↔ h.dropped = false)) ∧
      ∀ o, Sync.update o h.session = .done (.ok .noChanges, h.session) := by
  refine ⟨?_, fun o => ?_⟩
  · obtain ⟨dt, hsynced, hdt⟩ := reached.faithful hid hclean
    refine ⟨dt, hsynced, ?_⟩
    cases hd : h.dropped with
    | true =>
      rw [hd, if_pos rfl] at hdt
      exact ⟨fun hsame => absurd hsame hdt.1, fun hf => Bool.noConfusion hf⟩
    | false =>
      rw [hd] at hdt
      exact ⟨fun _ => rfl, fun _ => hdt⟩
  · have hunsaved : h.session.isUnsaved = false := by
      rw [isUnsaved, Option.isNone_eq_false_iff]
      exact Option.isSome_iff_ne_none.2 hid
    rw [Sync.update, hunsaved, hclean]
    rfl

/-- A document that was edited and saved, and whose edits were then dropped. -/
def droppedEdit : History where
  session :=
    { Session.linked (.single "old" "" "t") ⟨"doc1", 1, none, false, none⟩ false with
      contentHash := some "h"
      revision := 2
      updated := some ⟨0, 0⟩
      state := .saved }
  synced := some (.single "new" "" "t")
  dropped := true

/-- It is reached by an edit, an update and a change to the dataset that is active already. -/
theorem reachable_droppedEdit : Reachable droppedEdit := by
  have h₀ := Reachable.linked (.single "old" "" "t") ⟨"doc1", 1, none, false, none⟩
  have h₁ := h₀.step (show Step _ (.editData "new") _ _ _ from .done _)
  have h₂ := h₁.step (show Step _ (.update ⟨1024, ⟨0, 0⟩⟩) [(_, .ok ⟨200, "doc1:h\r\n", none⟩)] _ _
    from .exchange (.done _))
  have h₃ := h₂.step (show Step _ (.switchDataset "Default" false) _ _ _ from .done _)
  exact h₃

/-- The history of dropped edits tells a hidden difference. -/
theorem sameContent_iff_not_dropped_droppedEdit :
    droppedEdit.session.remoteId ≠ none ∧ droppedEdit.session.dirty = false ∧
      ∃ dt, droppedEdit.synced = some dt ∧
        (droppedEdit.session.snapshot.SameContent dt ↔ droppedEdit.dropped = false) :=
  ⟨by decide, rfl, (sameContent_iff_not_dropped reachable_droppedEdit (by decide) rfl).1⟩

/-- **A hidden difference**: a session that has a copy in the store and is not marked as changed,
but whose content is not that of the last time it was in step with the store. -/
theorem exists_hidden_difference :
    ∃ h, Reachable h ∧ h.session.remoteId ≠ none ∧ h.session.dirty = false ∧
      ∃ dt, h.synced = some dt ∧ ¬h.session.snapshot.SameContent dt :=
  ⟨droppedEdit, reachable_droppedEdit, by decide, rfl, .single "new" "" "t", rfl, by decide⟩

end History

end Session

end TemplateShare
