import TemplateShare.Proofs.Session.Operation

/-! # What operations without the store come to

Edits, pastes, passwords to set and fetches to start take one step each, and send nothing. Each of
them is opened once, here: a statement about them goes by cases on what they come to, with all the
guards that they have passed.

* **`Session.Edits`** — what an edit comes to, of the texts or of the list of datasets.
* **`Session.Acts`** — what any of them comes to. -/

namespace TemplateShare.Session

variable {s s' : Session} {op : Operation} {result : Result}

/-! ## Edits -/

/-- **Edits**: of the texts, and of the list of datasets. -/
def Operation.isEdit : Operation → Bool
  | .editData _ | .editVars _ | .editTemplate _ | .addDataset _ | .switchDataset .. |
    .removeDataset _ | .confirmRemove _ => true
  | _ => false

/-- **What an edit comes to.** A text is the same as before or is replaced; a dataset is added or made
active, or cannot be; a dataset is removed, at once or after the user has agreed, or stays. -/
inductive Edits (s : Session) : Operation → Result → Session → Prop
  | sameData {text : String} (same : s.editor.data = text) :
      Edits s (.editData text) (.edited (.ok ())) s
  | data {text : String} (new : s.editor.data ≠ text) :
      Edits s (.editData text) (.edited (.ok ()))
        { s with editor := { s.editor with data := text }, dirty := true }
  | sameVars {text : String} (same : s.editor.vars = text) :
      Edits s (.editVars text) (.edited (.ok ())) s
  | vars {text : String} (new : s.editor.vars ≠ text) :
      Edits s (.editVars text) (.edited (.ok ()))
        { s with editor := { s.editor with vars := text }, dirty := true }
  | sameTemplate {text : String} (same : s.template = text) :
      Edits s (.editTemplate text) (.edited (.ok ())) s
  | template {text : String} (new : s.template ≠ text) :
      Edits s (.editTemplate text) (.edited (.ok ())) { s with template := text, dirty := true }
  | notAdded {name : String} {e : ValidationError} (refused : s.addDataset name = .error e) :
      Edits s (.addDataset name) (.edited (.error e)) s
  | added {name : String} {r r' : Registry} (added : s.registry.add name = .ok r)
      (switched : r.switch name (some s.editor) = .ok r') :
      Edits s (.addDataset name) (.edited (.ok ()))
        { s with registry := r', editor := r'.active.buffers, dirty := true }
  | notSwitched {name : String} {persist : Bool} {e : ValidationError}
      (refused : s.registry.switch name (if persist then some s.editor else none) = .error e) :
      Edits s (.switchDataset name persist) (.edited (.error e)) s
  | switched {name : String} {persist : Bool} {r : Registry}
      (switched : s.registry.switch name (if persist then some s.editor else none) = .ok r) :
      Edits s (.switchDataset name persist) (.edited (.ok ()))
        { s with registry := r, editor := r.active.buffers }
  | unknown {name : String} {e : ValidationError} (unknown : s.isBlankDataset name = .error e) :
      Edits s (.removeDataset name) (.removed (.error e)) s
  | last {name : String} (last : s.registry.size = 1) :
      Edits s (.removeDataset name) (.removed (.error .lastDataset)) s
  | asked {name : String} {q : Question String} (others : s.registry.size ≠ 1)
      (full : s.isBlankDataset name = .ok false) :
      Edits s (.removeDataset name) (.removed (.ok (.ask q))) s
  | removed {name : String} (others : s.registry.size ≠ 1)
      (blank : s.isBlankDataset name = .ok true) :
      Edits s (.removeDataset name) (.removed ((s.removeNow name).1.map .done))
        (s.removeNow name).2
  | confirmed {name : String} :
      Edits s (.confirmRemove name) (.removed ((s.removeNow name).1.map .done))
        (s.removeNow name).2

/-- Only edits come to what an edit comes to. -/
theorem Edits.isEdit (h : Edits s op result s') : op.isEdit = true := by
  cases h <;> rfl

/-- A question before a removal leaves the session as it is. -/
theorem Edits.eq_of_asked {q : Question String} (h : Edits s op (.removed (.ok (.ask q))) s') :
    s' = s := by
  generalize hresult : Result.removed (.ok (.ask q)) = result at h
  cases h with
  | asked => rfl
  | @removed name | @confirmed name =>
    cases hremoved : (s.removeNow name).1 <;> rw [hremoved] at hresult <;> cases hresult
  | _ => cases hresult

/-- What a change to the texts comes to. -/
theorem edits_of_text (text : String) :
    Edits s (.editData text) (.edited (.ok ())) (s.editData text) ∧
      Edits s (.editVars text) (.edited (.ok ())) (s.editVars text) ∧
        Edits s (.editTemplate text) (.edited (.ok ())) (s.editTemplate text) := by
  refine ⟨?_, ?_, ?_⟩
  · unfold editData
    split
    · next same => exact .sameData same
    · next new => exact .data new
  · unfold editVars
    split
    · next same => exact .sameVars same
    · next new => exact .vars new
  · unfold editTemplate
    split
    · next same => exact .sameTemplate same
    · next new => exact .template new

/-- What an addition comes to. -/
theorem edits_of_addDataset (name : String) : Edits s (.addDataset name)
    (s.edited (s.addDataset name)).1 (s.edited (s.addDataset name)).2 := by
  cases hadd : s.addDataset name with
  | error e => exact .notAdded hadd
  | ok x =>
    obtain ⟨r, hadded, hx⟩ := Except.bind_eq_ok.1 hadd
    obtain ⟨y, hswitch, hx⟩ := Except.bind_eq_ok.1 hx
    obtain ⟨r', hswitched, rfl⟩ := switchDataset_eq_ok hswitch
    obtain rfl := Except.ok.inj hx
    exact .added hadded hswitched

/-- What an addition that is possible comes to. -/
theorem edits_of_added {name : String} (h : s.addDataset name = .ok s') :
    Edits s (.addDataset name) (.edited (.ok ())) s' := by
  have hedits := edits_of_addDataset (s := s) name
  rw [h] at hedits
  exact hedits

/-- What a change of the active dataset comes to. -/
theorem edits_of_switchDataset (name : String) (persist : Bool) :
    Edits s (.switchDataset name persist) (s.edited (s.switchDataset name persist)).1
      (s.edited (s.switchDataset name persist)).2 := by
  unfold switchDataset
  cases hswitch : s.registry.switch name (if persist then some s.editor else none) with
  | error e => exact .notSwitched hswitch
  | ok r => exact .switched hswitch

/-- What a removal comes to. -/
theorem edits_of_removeDataset (name : String) : Edits s (.removeDataset name)
    (.removed (s.removeDataset name).1) (s.removeDataset name).2 := by
  unfold removeDataset
  cases hblank : s.isBlankDataset name with
  | error e => exact .unknown hblank
  | ok blank =>
    dsimp only
    split
    · next hlast => exact .last hlast
    · next hothers =>
      cases blank with
      | true => exact .removed hothers hblank
      | false => exact .asked hothers hblank

/-! ## Operations without the store -/

/-- **What an operation without the store comes to**: an edit, a paste or a question before it,
passwords to set, or a fetch that is started. -/
inductive Acts (s : Session) : Operation → Result → Session → Prop
  | edits {op : Operation} {result : Result} {s' : Session} (edits : Edits s op result s') :
      Acts s op result s'
  | asks {dt : DataTemplate} {q : Question DataTemplate} (changed : s.dirty = true) :
      Acts s (.paste dt) (.pasted (.ask q)) s
  | pastes {dt : DataTemplate} (unchanged : s.dirty = false) :
      Acts s (.paste dt) (.pasted (.done ())) (s.applyPasted dt)
  | confirms {dt : DataTemplate} :
      Acts s (.confirmPaste dt) (.pasted (.done ())) (s.applyPasted dt)
  | notProtected {p : Protection} {e : ValidationError} (refused : s.protect p = .error e) :
      Acts s (.protect p) (.edited (.error e)) s
  | protects {p : Protection} {id : String} (linked : s.remoteId = some id)
      (able : s.capabilities.canProtect = true) :
      Acts s (.protect p) (.edited (.ok ()))
        { s with pendingProtection := some p, openPassword := none, modifyPassword := none,
                 dirty := true }
  | invalid {id : String} (invalid : DocumentId.isValid id = false) :
      Acts s (.beginFetch id) (.started (.error (.validation (.invalidRemoteId id)))) s
  | begins {id : String} {p : Sync.PendingFetch} (valid : DocumentId.isValid id = true)
      (begins : Sync.beginFetch s id = .ok (p, (s.beginLoad id).2)) :
      Acts s (.beginFetch id) (.started (.ok p)) (s.beginLoad id).2

/-- What a paste comes to. -/
theorem acts_of_paste (dt : DataTemplate) :
    Acts s (.paste dt) (.pasted (s.paste dt).1) (s.paste dt).2 := by
  unfold paste
  cases hdirty : s.dirty with
  | true => exact .asks hdirty
  | false => exact .pastes hdirty

/-- **Passwords that are to be set** take the place of those that are held, in a session with a copy
in the store that has none. -/
theorem protect_eq_ok {p : Protection} (h : s.protect p = .ok s') :
    (∃ id, s.remoteId = some id) ∧ s.capabilities.canProtect = true ∧
      s' = { s with pendingProtection := some p, openPassword := none, modifyPassword := none,
                    dirty := true } := by
  unfold protect at h
  split at h
  · cases h
  · next hsaved =>
    split at h
    · cases h
    · next hable =>
      rw [isUnsaved, Bool.not_eq_true, Option.isNone_eq_false_iff, Option.isSome_iff_exists] at hsaved
      rw [Bool.not_eq_true, Bool.not_eq_false'] at hable
      exact ⟨hsaved, hable, (Except.ok.inj h).symm⟩

/-- What setting passwords comes to. -/
theorem acts_of_protect (p : Protection) :
    Acts s (.protect p) (s.edited (s.protect p)).1 (s.edited (s.protect p)).2 := by
  cases hprotect : s.protect p with
  | error e => exact .notProtected hprotect
  | ok x =>
    obtain ⟨⟨id, hlinked⟩, hable, rfl⟩ := protect_eq_ok hprotect
    exact .protects hlinked hable

/-- What starting a fetch comes to. -/
theorem acts_of_beginFetch (id : String) : Acts s (.beginFetch id)
    (s.started (Sync.beginFetch s id)).1 (s.started (Sync.beginFetch s id)).2 := by
  cases hid : DocumentId.isValid id with
  | false =>
    rw [Sync.beginFetch, hid]
    exact .invalid hid
  | true =>
    obtain ⟨p, hbegin⟩ : ∃ p, Sync.beginFetch s id = .ok (p, (s.beginLoad id).2) := by
      rw [Sync.beginFetch, hid]
      exact ⟨_, rfl⟩
    rw [hbegin]
    exact .begins hid hbegin

end TemplateShare.Session
