import TemplateShare.Proofs.Session.Dirty
import TemplateShare.Proofs.Session.Run

/-! # Edits that fail

What an edit that fails leaves behind. Each edit finds its fault before it changes anything, except
the removal of the active dataset once the user has agreed: its edits are stored first, and only then
it may turn out that no other dataset is left.

* **`Session.addDataset_eq_error_iff`** — a dataset that cannot be added fails before it is added.
* **`Session.unchanged_iff_of_fault`** — an edit that fails leaves the session as it was, unless it
  stores edits (**`Session.Operation.storesEdits`**).
* **`Session.exists_stored_edit`** — a run in which a removal that fails changes what is stored. -/

namespace TemplateShare

namespace Session

variable {s s' : Session} {es : List (Request × Reply)} {result : Result} {op : Operation}

/-! ## Faults -/

/-- **The fault of an edit**, if it has failed. -/
def Result.fault? : Result → Option ValidationError
  | .edited (.error e) => some e
  | .removed (.error e) => some e
  | _ => none

/-- **A dataset that cannot be added fails before it is added**: once it is, it becomes active. -/
theorem addDataset_eq_error_iff {name : String} {e : ValidationError} :
    s.addDataset name = .error e ↔ s.registry.add name = .error e := by
  unfold addDataset
  cases hadd : s.registry.add name with
  | error x => simp [bind, Except.bind]
  | ok r =>
    have hswitch := Registry.isOk_switch r name (some s.editor)
    rw [Registry.contains_of_add hadd] at hswitch
    cases hr : r.switch name (some s.editor) with
    | error x => rw [hr] at hswitch; cases hswitch
    | ok r' => simp [bind, Except.bind, pure, Except.pure, switchDataset, hr, Except.map]

/-- **The removal of the active dataset stores its edits**, even where it fails. -/
def Operation.storesEdits (s : Session) (op : Operation) : Prop :=
  op = .confirmRemove s.registry.activeName ∧ ¬s.IsStored

/-- Edits that are stored make a difference unless they have been stored before. -/
theorem setActive_editor_eq_iff : s.registry.setActive s.editor = s.registry ↔ s.IsStored := by
  refine ⟨fun h => ?_, fun h => ?_⟩
  · have hbuffers := congrArg (·.active.buffers) h
    rwa [Registry.setActive_active] at hbuffers
  · rw [h, Registry.setActive_self]

/-- **What a removal that fails changes**: it stores the edits if the dataset is the active one, and
is then the last one. -/
theorem removeNow_of_error {name : String} {e : ValidationError}
    (h : (s.removeNow name).1 = .error e) :
    (name ≠ s.registry.activeName ∧ (s.removeNow name).2 = s) ∨
      (name = s.registry.activeName ∧ s.registry.size = 1 ∧ e = .lastDataset ∧
        (s.removeNow name).2 = { s with registry := s.registry.setActive s.editor }) := by
  unfold removeNow at h ⊢
  by_cases hname : name = s.registry.activeName
  · simp only [if_pos hname] at h ⊢
    cases hremove : (s.registry.setActive s.editor).remove name with
    | ok x => rw [hremove] at h; cases h
    | error x =>
      rw [hremove] at h
      obtain rfl := Except.error.inj h
      -- The active dataset is known, so it can only be the last one.
      obtain ⟨hunknown, -⟩ | ⟨hsize, -, rfl⟩ := Registry.remove_eq_error_iff.1 hremove
      · rw [Registry.contains_setActive, hname, Registry.contains_activeName] at hunknown
        cases hunknown
      · exact .inr ⟨hname, (s.registry.size_setActive s.editor).symm.trans hsize, rfl, rfl⟩
  · simp only [if_neg hname] at h ⊢
    cases hremove : s.registry.remove name with
    | ok x => rw [hremove] at h; cases h
    | error x => exact .inl ⟨hname, rfl⟩

/-- The fault of a removal. -/
theorem error_of_fault {name : String} {e : ValidationError}
    (h : (Result.removed ((s.removeNow name).1.map .done)).fault? = some e) :
    (s.removeNow name).1 = .error e := by
  cases hremoved : (s.removeNow name).1 with
  | error x =>
    rw [hremoved] at h
    exact congrArg _ (Option.some.inj h)
  | ok x =>
    rw [hremoved] at h
    cases h

/-! ## Edits that fail -/

/-- **What an edit that fails comes to**: nothing has changed, or it is the removal of the last
dataset, whose edits have been stored. -/
theorem Edits.unchanged_or_stored {e : ValidationError} (h : Edits s op result s')
    (hfault : result.fault? = some e) :
    (op ≠ .confirmRemove s.registry.activeName ∧ s' = s) ∨
      (op = .confirmRemove s.registry.activeName ∧ e = .lastDataset ∧
        s' = { s with registry := s.registry.setActive s.editor }) := by
  cases h with
  | notAdded | notSwitched | unknown | last => exact .inl ⟨Operation.noConfusion, rfl⟩
  | removed others =>
    -- A removal that need not ask does not fail halfway, since there are other datasets.
    obtain ⟨-, hsame⟩ | ⟨-, hone, -⟩ := removeNow_of_error (error_of_fault hfault)
    · exact .inl ⟨Operation.noConfusion, hsame⟩
    · exact absurd hone others
  | confirmed =>
    obtain ⟨hname, hsame⟩ | ⟨rfl, -, rfl, hstored⟩ := removeNow_of_error (error_of_fault hfault)
    · exact .inl ⟨fun h => hname (Operation.confirmRemove.inj h), hsame⟩
    · exact .inr ⟨rfl, rfl, hstored⟩
  | _ => cases hfault

/-- Whatever fails as an edit does sends nothing, and leaves what an edit that fails leaves. -/
theorem unchanged_or_stored_of_fault {e : ValidationError} (h : Step s op es result s')
    (hfault : result.fault? = some e) :
    es = [] ∧ ((op ≠ .confirmRemove s.registry.activeName ∧ s' = s) ∨
      (op = .confirmRemove s.registry.activeName ∧ e = .lastDataset ∧
        s' = { s with registry := s.registry.setActive s.editor })) := by
  cases performed_of_step h with
  | acts silent hacts =>
    refine ⟨silent, ?_⟩
    cases hacts with
    | edits hedits => exact hedits.unchanged_or_stored hfault
    | notProtected => exact .inl ⟨Operation.noConfusion, rfl⟩
    | _ => cases hfault
  | loads => cases hfault
  | saves => cases hfault

/-- **An edit that fails leaves the session as it was**, unless it is the removal of the active
dataset after the user has agreed. Then the dataset is the last one, and its edits are in the
registry now. The document is the same in any case, and nothing is sent. -/
theorem unchanged_iff_of_fault {e : ValidationError} (h : Step s op es result s')
    (hfault : result.fault? = some e) :
    es = [] ∧ s'.snapshot = s.snapshot ∧ (s' = s ↔ ¬op.storesEdits s) ∧
      (op.storesEdits s →
        e = .lastDataset ∧ s' = { s with registry := s.registry.setActive s.editor }) ∧
      ∀ name, op = .addDataset name → s.registry.add name = .error e := by
  obtain ⟨hes, hcases⟩ := unchanged_or_stored_of_fault h hfault
  have hadd (name : String) (hop : op = .addDataset name) : s.registry.add name = .error e := by
    subst hop
    cases (edits_of_step h rfl).2 with
    | notAdded refused => exact addDataset_eq_error_iff.1 (Option.some.inj hfault ▸ refused)
    | added => cases hfault
  refine ⟨hes, ?_⟩
  obtain ⟨hop, hsame⟩ | ⟨rfl, rfl, rfl⟩ := hcases
  · have hnot : ¬op.storesEdits s := fun hstores => hop hstores.1
    exact ⟨hsame ▸ rfl, iff_of_true hsame hnot, fun hstores => absurd hstores hnot, hadd⟩
  · refine ⟨s.snapshot_setActive s.editor, ⟨fun h hstores => ?_, fun hnot => ?_⟩,
      fun _ => ⟨rfl, rfl⟩, hadd⟩
    · exact hstores.2 (setActive_editor_eq_iff.1 (congrArg Session.registry h))
    · have hstored : s.IsStored := Classical.byContradiction fun h => hnot ⟨rfl, h⟩
      rw [setActive_editor_eq_iff.2 hstored]

/-- A session with a dataset that holds a text, another text in the editor, and other datasets. -/
def staleSession (stored data : String) (others : List Dataset) : Session where
  registry := .first ⟨"A", ⟨stored, ""⟩⟩ others
  editor := ⟨data, ""⟩
  dirty := true
  generation := 1

/-- A dataset whose name is taken is not added, and edits that are not stored stay so. -/
theorem unchanged_iff_of_fault_addDataset :
    ∃ result s', Step (staleSession "old" "new" []) (.addDataset "A") [] result s' ∧
      result.fault? = some (.duplicateName "A") ∧ s' = staleSession "old" "new" [] := by
  have hadd : (staleSession "old" "new" []).addDataset "A" = .error (.duplicateName "A") := rfl
  have hstep : Step (staleSession "old" "new" []) (.addDataset "A") []
      (.edited (.error (.duplicateName "A"))) (staleSession "old" "new" []) := by
    rw [Step, Operation.perform, hadd]
    exact .done _
  obtain ⟨-, -, hsame, -⟩ := unchanged_iff_of_fault hstep rfl
  exact ⟨_, _, hstep, rfl, hsame.2 fun hstores => Operation.noConfusion hstores.1⟩

/-- **A removal that stores edits and fails**: it is agreed to when the other dataset is gone. -/
theorem exists_stored_edit :
    ∃ calls fin, Run ⟨{}, {}⟩ calls fin ∧ ∃ c ∈ calls, ∃ name,
      c.operation = .confirmRemove name ∧ c.result = .removed (.error .lastDataset) ∧
      c.before.session.registry.active.buffers.data = "old" ∧
      c.session.registry.active.buffers.data = "new" := by
  have hask : (staleSession "old" "old" [⟨"B", {}⟩]).removeDataset "A" =
      (.ok (.ask ⟨"Are you sure Data Set '" ++ "A" ++ "' should be deleted?", "A"⟩),
        staleSession "old" "old" [⟨"B", {}⟩]) := rfl
  have hremove : (staleSession "old" "old" [⟨"B", {}⟩]).removeDataset "B" =
      (.ok (.done ⟨⟨"B", {}⟩, false⟩), staleSession "old" "old" []) := rfl
  have hfail : (staleSession "old" "new" []).removeNow "A" =
      (.error .lastDataset, staleSession "new" "new" []) := rfl
  -- The user is asked about the first dataset, and agrees when the second one is gone.
  have h₁ : Run ⟨{}, {}⟩ _ ⟨staleSession "old" "old" [⟨"B", {}⟩], {}⟩ := Run.nil.quiet
    (.paste ⟨.first ⟨"A", ⟨"old", ""⟩⟩ [⟨"B", {}⟩], ""⟩) trivial rfl
  have h₂ : Run ⟨{}, {}⟩ _ ⟨staleSession "old" "old" [⟨"B", {}⟩], { removals := ["A"] }⟩ :=
    h₁.quiet (.removeDataset "A") trivial (by rw [Operation.perform, hask])
  have h₃ : Run ⟨{}, {}⟩ _ ⟨staleSession "old" "old" [], { removals := ["A"] }⟩ :=
    h₂.quiet (.removeDataset "B") trivial (by rw [Operation.perform, hremove])
  have h₄ : Run ⟨{}, {}⟩ _ ⟨staleSession "old" "new" [], { removals := ["A"] }⟩ :=
    h₃.quiet (.editData "new") trivial rfl
  have h₅ := h₄.quiet (.confirmRemove "A") (List.mem_singleton_self "A")
    (by rw [Operation.perform, hfail])
  exact ⟨_, _, h₅, _, List.mem_append_right _ (List.mem_singleton_self _), "A", rfl, rfl, rfl, rfl⟩

end Session

end TemplateShare
