import TemplateShare.Proofs.Registry.Catalog
import TemplateShare.Proofs.Session.Run
import TemplateShare.Proofs.Session.Saved

/-! # Sessions as notebooks

A session keeps the texts of its active dataset apart from the others, and every operation copies
them to and fro. Seen from outside this makes no difference: the document of a session behaves as a
notebook, a catalog of datasets edited in place with a template, as long as no edits are discarded
on purpose. What an edit answers and what it leaves can be told from the notebook alone.

* **`Session.notebook`** — what a session shows.
* **`Notebook.perform`** — the edits of a notebook, with what they answer.
* **`Notebook.next`** — the notebook after any operation: an edit changes it in place, a load or a
  paste replaces it, and anything else leaves it alone.
* **`Session.notebook_of_step`** — one operation.
* **`Session.Run.edited_in_place`** — every run in which edits are kept. -/

namespace TemplateShare

/-! ## The document under the operations -/

namespace Session

variable {s s' : Session} {name : String}

/-- **The registry with the edits made so far.** -/
theorem snapshot_registry (s : Session) : s.snapshot.registry = s.registry.setActive s.editor := rfl

/-- **Another dataset becomes active in the document**, and the edits so far are part of it. -/
theorem snapshot_switchDataset (s : Session) (name : String) :
    (s.switchDataset name true).map snapshot =
      (s.snapshot.registry.switch name none).map fun r => ⟨r, s.template⟩ := by
  unfold switchDataset
  rw [if_pos rfl, Registry.switch_live, snapshot_registry]
  cases (s.registry.setActive s.editor).switch name none with
  | error e => rfl
  | ok r => exact congrArg (Except.ok <| DataTemplate.mk · s.template) r.setActive_self

/-- **A dataset is added to the document** and becomes active. -/
theorem snapshot_addDataset (s : Session) (name : String) :
    (s.addDataset name).map snapshot =
      ((s.snapshot.registry.add name).bind fun r => r.switch name none).map
        fun r => ⟨r, s.template⟩ := by
  unfold addDataset
  rw [snapshot_registry, Registry.add_setActive]
  cases s.registry.add name with
  | error e => rfl
  | ok r =>
    simp only [bind, Except.bind, Except.map, switchDataset, if_true, Registry.switch_live]
    cases (r.setActive s.editor).switch name none with
    | error e => rfl
    | ok r => exact congrArg (Except.ok <| DataTemplate.mk · s.template) r.setActive_self

/-- **A dataset is removed from the document**: what is reported, and what is left. -/
theorem removeNow_snapshot (s : Session) (name : String) :
    (s.removeNow name).1 = (s.snapshot.registry.remove name).map Prod.fst ∧
      (s.removeNow name).2.snapshot =
        match s.snapshot.registry.remove name with
        | .ok x => ⟨x.2, s.template⟩
        | .error _ => s.snapshot := by
  unfold removeNow
  by_cases hname : name = s.registry.activeName
  · simp only [if_pos hname]
    rw [snapshot_registry]
    cases hremove : (s.registry.setActive s.editor).remove name with
    | error e => exact ⟨rfl, s.snapshot_setActive s.editor⟩
    | ok x =>
      obtain ⟨⟨d, changed⟩, r⟩ := x
      refine ⟨rfl, congrArg (DataTemplate.mk · s.template) ?_⟩
      obtain ⟨xs, ys, -, -, -, ⟨rfl, -, -⟩ | ⟨rfl, hsame, -⟩⟩ := Registry.datasets_of_remove hremove
      · exact r.setActive_self
      · -- The active dataset is the one from before, so its texts are the edits.
        rw [Registry.setActive_active] at hsame
        have hself := r.setActive_self
        rwa [hsame] at hself
  · simp only [if_neg hname]
    rw [snapshot_registry, Registry.remove_setActive _ hname]
    cases hremove : s.registry.remove name with
    | error e => exact ⟨rfl, rfl⟩
    | ok x =>
      obtain ⟨⟨d, changed⟩, r⟩ := x
      obtain ⟨xs, ys, -, -, -, ⟨-, hactive, -⟩ | ⟨rfl, -, -⟩⟩ :=
        Registry.datasets_of_remove hremove
      · exact absurd hactive hname
      · exact ⟨rfl, rfl⟩

/-- Texts that are typed are in the editor. -/
theorem snapshot_editData (s : Session) (text : String) : (s.editData text).snapshot =
    ⟨s.registry.setActive { s.editor with data := text }, s.template⟩ := by
  unfold editData
  split
  · next hsame =>
    rw [← hsame]
    rfl
  · rfl

/-- Variables that are typed are in the editor. -/
theorem snapshot_editVars (s : Session) (text : String) : (s.editVars text).snapshot =
    ⟨s.registry.setActive { s.editor with vars := text }, s.template⟩ := by
  unfold editVars
  split
  · next hsame =>
    rw [← hsame]
    rfl
  · rfl

/-- A template that is typed is there. -/
theorem snapshot_editTemplate (s : Session) (text : String) :
    (s.editTemplate text).snapshot = ⟨s.snapshot.registry, text⟩ := by
  unfold editTemplate
  split
  · next hsame =>
    rw [← hsame]
    rfl
  · rfl

/-! ## What an operation brings -/

/-- The document that has been loaded, from the reply that it came with. -/
def loaded? (reply : Reply) : Result → Option DataTemplate
  | .fetched (.ok (.loaded _)) =>
    match reply with
    | .ok r => (RemoteDocument.parse r.body).toOption.map (·.template)
    | .error _ => none
  | _ => none

/-- **The document that an operation brings**, if it is a load or a paste. -/
def Operation.brings (op : Operation) (es : List (Request × Reply)) (result : Result) :
    Option DataTemplate :=
  match op, result with
  | .paste dt, .pasted (.done _) => some dt
  | .confirmPaste dt, _ => some dt
  | .applyFetch _ reply, _ => loaded? reply result
  | .fetch _, _ | .fetchWithPassword .., _ => es.head?.bind fun e => loaded? e.2 result
  | _, _ => none

/-- **What typing does to the active dataset.** -/
def Operation.typed? : Operation → Option (Buffers → Buffers)
  | .editData text => some fun b => { b with data := text }
  | .editVars text => some fun b => { b with vars := text }
  | _ => none

/-- The dataset that has been removed, if one has. -/
def Result.removed? : Result → Option Dataset
  | .removed (.ok (.done removal)) => some removal.dataset
  | _ => none

/-- **Operations that keep edits**: all but a change to another dataset that discards them. -/
def Operation.keepsEdits : Operation → Bool
  | .switchDataset _ persist => persist
  | _ => true

end Session

/-! ## Notebooks -/

/-- **A notebook**: a catalog of datasets that is edited in place, and a template. -/
structure Notebook where
  catalog : Catalog
  template : String
deriving DecidableEq, Repr

namespace Notebook

open Session (Operation Result)

/-- The notebook of a document. -/
def ofDocument (dt : DataTemplate) : Notebook := ⟨dt.registry.catalog, dt.template⟩

/-- Change the texts of the active dataset. -/
def write (n : Notebook) (f : Buffers → Buffers) : Notebook :=
  { n with catalog := n.catalog.edit n.catalog.active f }

/-- The result of an edit that may fail, which then changes nothing. -/
def edited (n : Notebook) : Except ValidationError Catalog → Result × Notebook
  | .ok c => (.edited (.ok ()), { n with catalog := c })
  | .error e => (.edited (.error e), n)

/-- Remove a dataset. -/
def remove (n : Notebook) (name : String) : Result × Notebook :=
  match n.catalog.remove name with
  | .error e => (.removed (.error e), n)
  | .ok x => (.removed (.ok (.done x.1)), { n with catalog := x.2 })

/-- Remove a dataset, or ask first where it holds something. -/
def removeOrAsk (n : Notebook) (name : String) : Result × Notebook :=
  match n.catalog.find? name with
  | none => (.removed (.error (.unknownDataset name)), n)
  | some d =>
    if n.catalog.entries.length = 1 then (.removed (.error .lastDataset), n)
    else if d.buffers.isBlank then n.remove name
    else
      (.removed (.ok (.ask
        ⟨"Are you sure Data Set '" ++ name ++ "' should be deleted?", name⟩)), n)

/-- **Carry out an edit**, with what it answers. Typing goes to the active dataset, a dataset that is
added is blank and becomes active, and making a dataset active changes nothing else. -/
def perform (n : Notebook) : Operation → Option (Result × Notebook)
  | .editData text => some (.edited (.ok ()), n.write fun b => { b with data := text })
  | .editVars text => some (.edited (.ok ()), n.write fun b => { b with vars := text })
  | .editTemplate text => some (.edited (.ok ()), { n with template := text })
  | .addDataset name =>
    some (n.edited ((n.catalog.add name).map fun c => { c with active := name }))
  | .switchDataset name _ => some (n.edited (n.catalog.activate name))
  | .removeDataset name => some (n.removeOrAsk name)
  | .confirmRemove name => some (n.remove name)
  | _ => none

/-- **The notebook after an operation**: an edit changes it in place, a document that is brought
replaces it, and anything else leaves it as it is. -/
def next (n : Notebook) (op : Operation) (es : List (Request × Reply)) (result : Result) :
    Notebook :=
  match n.perform op with
  | some x => x.2
  | none => (op.brings es result).elim n ofDocument

/-- The edits are what is carried out on a notebook. -/
theorem perform_eq_none_iff {n : Notebook} {op : Operation} :
    n.perform op = none ↔ op.isEdit = false := by
  cases op <;> simp [perform, Operation.isEdit]

/-! ## Texts that stay -/

/-- **Whether an operation changes the texts of a name**: it types into the active dataset and that
has the name, it removes the dataset of the name, or it brings another document. -/
def touches (n : Notebook) (op : Operation) (es : List (Request × Reply)) (result : Result)
    (name : String) : Bool :=
  (op.typed?.isSome && n.catalog.active == name) || result.removed?.any (·.name == name) ||
    (op.brings es result).isSome

/-- An entry stays when one of another name is removed. -/
theorem find?_remove {n : Notebook} {name other : String} {d : Dataset}
    (hremoved : (n.remove other).1.removed?.any (·.name == name) = false)
    (hd : n.catalog.find? name = some d) :
    (n.remove other).2.catalog.find? name = some d := by
  unfold remove at hremoved ⊢
  cases hremove : n.catalog.remove other with
  | error e => exact hd
  | ok x =>
    rw [hremove] at hremoved
    have hname : x.1.dataset.name ≠ name := beq_eq_false_iff_ne.1 hremoved
    rw [Catalog.name_of_find? (Catalog.remove_eq_ok hremove).1] at hname
    rw [← hd]
    exact Catalog.find?_of_remove hremove hname.symm

/-- **An entry that an operation does not touch stays as it is.** -/
theorem find?_next {n : Notebook} {op : Operation} {es : List (Request × Reply)} {result : Result}
    (hresult : ∀ x, n.perform op = some x → result = x.1) {name : String}
    (htouches : n.touches op es result name = false) {d : Dataset}
    (hd : n.catalog.find? name = some d) : (n.next op es result).catalog.find? name = some d := by
  simp only [touches, Bool.or_eq_false_iff] at htouches
  obtain ⟨⟨htyping, hremoved⟩, hbrings⟩ := htouches
  -- Typing writes into the active dataset only, so any other entry is found as before.
  have hwrite (f : Buffers → Buffers) (hname : (n.catalog.active == name) = false) :
      (n.write f).catalog.find? name = some d := by
    rw [write, ← hd]
    exact Catalog.find?_edit_of_ne f (Ne.symm (beq_eq_false_iff_ne.1 hname))
  cases hperform : n.perform op with
  | none =>
    rw [next, hperform, Option.isNone_iff_eq_none.1 (Option.isSome_eq_false_iff.1 hbrings)]
    exact hd
  | some x =>
    obtain rfl := hresult x hperform
    rw [next, hperform]
    cases op with
    | editData text =>
      cases hperform
      exact hwrite _ htyping
    | editVars text =>
      cases hperform
      exact hwrite _ htyping
    | editTemplate text =>
      cases hperform
      exact hd
    | addDataset other =>
      cases hperform
      cases hadd : n.catalog.add other with
      | error e => exact hd
      | ok c => exact Catalog.find?_of_add hadd hd
    | switchDataset other persist =>
      cases hperform
      cases hactivate : n.catalog.activate other with
      | error e => exact hd
      | ok c => exact (Catalog.find?_of_activate hactivate name).trans hd
    | removeDataset other =>
      cases hperform
      -- An entry goes without a question only if it is blank and not the last one.
      unfold removeOrAsk at hremoved ⊢
      cases hfind : n.catalog.find? other with
      | none => exact hd
      | some e =>
        rw [hfind] at hremoved
        dsimp only at hremoved ⊢
        by_cases hone : n.catalog.entries.length = 1
        · rw [if_pos hone]
          exact hd
        · rw [if_neg hone] at hremoved ⊢
          cases hblank : e.buffers.isBlank with
          | false => exact hd
          | true =>
            rw [hblank, if_pos rfl] at hremoved
            exact find?_remove hremoved hd
    | confirmRemove other =>
      cases hperform
      exact find?_remove hremoved hd
    | _ => cases hperform

end Notebook

namespace Session

variable {s s' : Session} {op : Operation} {es : List (Request × Reply)} {result : Result}
  {name : String}

/-- **The notebook that a session shows.** -/
def notebook (s : Session) : Notebook := .ofDocument s.snapshot

/-- The active name of the notebook is that of the registry. -/
@[simp] theorem notebook_active (s : Session) :
    s.notebook.catalog.active = s.registry.activeName :=
  s.registry.setActive_activeName s.editor

/-- A session with the same document shows the same notebook. -/
theorem notebook_eq (hregistry : s'.registry = s.registry) (heditor : s'.editor = s.editor)
    (htemplate : s'.template = s.template) : s'.notebook = s.notebook := by
  rw [notebook, notebook, snapshot, snapshot, hregistry, heditor, htemplate]

/-- **The editor holds the active entry.** -/
theorem find?_notebook_active (hs : s.WellFormed) :
    s.notebook.catalog.find? s.registry.activeName = some ⟨s.registry.activeName, s.editor⟩ := by
  have hfind := Registry.find?_activeName hs.snapshot
  rwa [snapshot_registry, Registry.setActive_activeName, Registry.setActive_active] at hfind

/-! ## One edit -/

/-- The notebook is the registry with the edits so far in the active entry. -/
theorem notebook_catalog (hs : s.WellFormed) : s.notebook.catalog =
    s.registry.catalog.edit s.registry.activeName fun _ => s.editor :=
  Registry.catalog_setActive hs s.editor

/-- **Typing changes the active entry in place.** -/
theorem notebook_write (hs : s.WellFormed) (f : Buffers → Buffers) :
    Notebook.ofDocument ⟨s.registry.setActive (f s.editor), s.template⟩ = s.notebook.write f := by
  rw [Notebook.write, notebook_active, notebook_catalog hs, Catalog.edit_edit, Notebook.ofDocument,
    Registry.catalog_setActive hs]
  rfl

/-- Data that is typed is in the active entry. -/
theorem notebook_editData (hs : s.WellFormed) (text : String) :
    (s.editData text).notebook = s.notebook.write fun b => { b with data := text } := by
  rw [notebook, snapshot_editData]
  exact notebook_write hs fun b => { b with data := text }

/-- Variables that are typed are in the active entry. -/
theorem notebook_editVars (hs : s.WellFormed) (text : String) :
    (s.editVars text).notebook = s.notebook.write fun b => { b with vars := text } := by
  rw [notebook, snapshot_editVars]
  exact notebook_write hs fun b => { b with vars := text }

/-- A template that is typed is in the notebook. -/
theorem notebook_editTemplate (s : Session) (text : String) :
    (s.editTemplate text).notebook = { s.notebook with template := text } := by
  rw [notebook, snapshot_editTemplate]
  rfl

/-- **An edit that may fail** does so on the notebook if it does on the registry that is shown. -/
theorem edited_notebook {r : Except ValidationError Session} {x : Except ValidationError Registry}
    (h : r.map snapshot = x.map fun y => ⟨y, s.template⟩) :
    ((s.edited r).1, (s.edited r).2.notebook) = s.notebook.edited (x.map Registry.catalog) := by
  cases r with
  | error e =>
    cases x with
    | error e' =>
      cases h
      rfl
    | ok y => cases h
  | ok s' =>
    cases x with
    | error e => cases h
    | ok y =>
      have hsnapshot : s'.snapshot = ⟨y, s.template⟩ := Except.ok.inj h
      show (Result.edited (.ok ()), Notebook.ofDocument s'.snapshot) = _
      rw [hsnapshot]
      rfl

/-- **Making a dataset active changes nothing else.** -/
theorem notebook_switchDataset (hs : s.WellFormed) (name : String) :
    ((s.edited (s.switchDataset name true)).1, (s.edited (s.switchDataset name true)).2.notebook) =
      s.notebook.edited (s.notebook.catalog.activate name) := by
  have hactivate : (s.snapshot.registry.switch name none).map Registry.catalog =
      s.notebook.catalog.activate name := Registry.catalog_switch hs.snapshot name none
  rw [edited_notebook (snapshot_switchDataset s name), hactivate]

/-- **A dataset that is added** is blank and active. -/
theorem notebook_addDataset (hs : s.WellFormed) (name : String) :
    ((s.edited (s.addDataset name)).1, (s.edited (s.addDataset name)).2.notebook) =
      s.notebook.edited ((s.notebook.catalog.add name).map fun c => { c with active := name }) := by
  have hadd : (s.snapshot.registry.add name).map Registry.catalog = s.notebook.catalog.add name :=
    Registry.catalog_add _ name
  rw [edited_notebook (snapshot_addDataset s name), ← hadd]
  cases hr : s.snapshot.registry.add name with
  | error e => rfl
  | ok r =>
    -- What has been added is there, so that it can become active.
    have hactivate := Registry.catalog_switch (Registry.wellFormed_add hs.snapshot hr) name none
    have hfind : (r.catalog.find? name).isSome = true := by
      rw [Registry.isSome_find?_catalog]
      exact Registry.contains_of_add hr
    rw [Option.elim, Catalog.activate, hfind, if_pos rfl] at hactivate
    show s.notebook.edited ((r.switch name none).map Registry.catalog) = _
    rw [hactivate]
    rfl

/-- **A dataset that is removed** leaves the notebook, and is reported with its latest texts. -/
theorem notebook_removeNow (hs : s.WellFormed) (name : String) :
    (.removed ((s.removeNow name).1.map .done), (s.removeNow name).2.notebook) =
      s.notebook.remove name := by
  have hremove : (s.snapshot.registry.remove name).map (fun x => (x.1, x.2.catalog)) =
      s.notebook.catalog.remove name := Registry.catalog_remove hs.snapshot name
  obtain ⟨hreport, hleft⟩ := removeNow_snapshot s name
  rw [hreport, notebook, hleft, Notebook.remove, ← hremove]
  cases s.snapshot.registry.remove name <;> rfl

/-- The user is asked about a dataset by what the notebook holds of it. -/
theorem isBlankDataset_eq (hs : s.WellFormed) (name : String) : s.isBlankDataset name =
    match s.notebook.catalog.find? name with
    | some d => .ok d.buffers.isBlank
    | none => .error (.unknownDataset name) := by
  unfold isBlankDataset
  by_cases hname : name = s.registry.activeName
  · rw [if_pos hname, hname, find?_notebook_active hs]
  · -- The edits so far do not matter to another dataset.
    have hfind : s.notebook.catalog.find? name = s.registry.find? name := by
      rw [notebook_catalog hs]
      exact Catalog.find?_edit_of_ne _ hname
    rw [if_neg hname]
    exact hfind ▸ rfl

/-- **A dataset is removed or asked about** by what the notebook holds of it. -/
theorem notebook_removeDataset (hs : s.WellFormed) (name : String) :
    (.removed (s.removeDataset name).1, (s.removeDataset name).2.notebook) =
      s.notebook.removeOrAsk name := by
  unfold removeDataset Notebook.removeOrAsk
  rw [isBlankDataset_eq hs]
  have hsize : s.notebook.catalog.entries.length = s.registry.size :=
    s.registry.size_setActive s.editor
  cases s.notebook.catalog.find? name with
  | none => rfl
  | some d =>
    dsimp only
    rw [hsize]
    by_cases hone : s.registry.size = 1
    · rw [if_pos hone, if_pos hone]
    · rw [if_neg hone, if_neg hone]
      cases d.buffers.isBlank with
      | false => rfl
      | true => exact notebook_removeNow hs name

/-- **An edit on a session is one on its notebook**, with the same answer. -/
theorem notebook_of_edit (h : Step s op es result s') (hs : s.WellFormed)
    (hkeeps : op.keepsEdits = true) {x : Result × Notebook} (hx : s.notebook.perform op = some x) :
    x = (result, s'.notebook) := by
  cases op with
  | editData text =>
    obtain ⟨-, rfl, rfl⟩ := h.of_done rfl
    cases hx
    exact congrArg (Prod.mk _) (notebook_editData hs text).symm
  | editVars text =>
    obtain ⟨-, rfl, rfl⟩ := h.of_done rfl
    cases hx
    exact congrArg (Prod.mk _) (notebook_editVars hs text).symm
  | editTemplate text =>
    obtain ⟨-, rfl, rfl⟩ := h.of_done rfl
    cases hx
    exact congrArg (Prod.mk _) (notebook_editTemplate s text).symm
  | addDataset name =>
    obtain ⟨-, rfl, rfl⟩ := h.of_done rfl
    cases hx
    exact (notebook_addDataset hs name).symm
  | switchDataset name persist =>
    obtain rfl : persist = true := hkeeps
    obtain ⟨-, rfl, rfl⟩ := h.of_done rfl
    cases hx
    exact (notebook_switchDataset hs name).symm
  | removeDataset name =>
    obtain ⟨-, rfl, rfl⟩ := h.of_done rfl
    cases hx
    exact (notebook_removeDataset hs name).symm
  | confirmRemove name =>
    obtain ⟨-, rfl, rfl⟩ := h.of_done rfl
    cases hx
    exact (notebook_removeNow hs name).symm
  | _ => cases hx

/-! ## One operation -/

/-- The registry, the editor and the template are all that a notebook shows. -/
theorem notebook_of_kept (h : s'.kept = s.kept) : s'.notebook = s.notebook := by
  obtain ⟨hregistry, heditor, htemplate, -⟩ := eq_of_kept_eq h
  exact notebook_eq hregistry heditor htemplate

/-- **A document that is loaded** replaces the notebook. -/
theorem notebook_of_fetched {p : Sync.PendingFetch} {reply : Reply}
    {out : Sync.Outcome Sync.FetchOutcome} (h : Sync.Fetched s p reply out) :
    out.2.notebook = (loaded? reply (.fetched out.1)).elim s.notebook .ofDocument := by
  cases h with
  | loaded current answered _ read =>
    rw [answered, loaded?, read]
    exact congrArg Notebook.ofDocument (snapshot_completeLoad current _ _)
  | asked => rfl
  | discarded => rfl
  | failed e state => exact notebook_of_kept (kept_abortLoad _ _ _)

/-- A load leaves the notebook as it is, unless it brings another document. -/
theorem Loads.notebook_eq {out : Sync.Outcome Sync.FetchOutcome} (h : Loads s op es out) :
    out.2.notebook = (op.brings es (.fetched out.1)).elim s.notebook .ofDocument := by
  cases h with
  | invalid => rfl
  | late => rfl
  | givenUp => exact notebook_of_kept (kept_abortLoad _ _ _)
  | applied p reply => exact notebook_of_fetched (Sync.fetched_applyFetch s p reply)
  | @fetched id p reply =>
    have hbegun : (s.beginLoad id).2.notebook = s.notebook := rfl
    rw [notebook_of_fetched (Sync.fetched_applyFetch _ p reply), hbegun]
    rfl
  | answered reply => exact notebook_of_fetched (Sync.fetched_applyFetch s _ reply)

/-- **What is no edit** leaves the notebook as it is, unless it brings another document. -/
theorem notebook_of_brings (h : Step s op es result s') (hop : op.isEdit = false) :
    s'.notebook = (op.brings es result).elim s.notebook .ofDocument := by
  have hnone (hsave : op.isSave = true) : op.brings es result = none := by
    cases op <;> cases hsave <;> rfl
  cases performed_of_step h with
  | acts _ hacts =>
    cases hacts with
    | edits hedits => cases hop.symm.trans hedits.isEdit
    | pastes => exact congrArg Notebook.ofDocument (snapshot_applyPasted _ _)
    | confirms => exact congrArg Notebook.ofDocument (snapshot_applyPasted _ _)
    | _ => rfl
  | loads _ hloads => exact hloads.notebook_eq
  | saves save =>
    obtain ⟨hregistry, heditor, htemplate⟩ := (settled_of_step h save).document
    rw [hnone save]
    exact notebook_eq hregistry heditor htemplate

/-- **One operation on a session is one on its notebook**, if it keeps the edits so far: the notebook
tells what is shown after it, and what an edit answers. -/
theorem notebook_of_step (h : Step s op es result s') (hs : s.WellFormed)
    (hkeeps : op.keepsEdits = true) :
    s'.notebook = s.notebook.next op es result ∧
      ∀ x, s.notebook.perform op = some x → result = x.1 := by
  cases hperform : s.notebook.perform op with
  | some x =>
    obtain rfl := notebook_of_edit h hs hkeeps hperform
    refine ⟨?_, ?_⟩
    · rw [Notebook.next, hperform]
    · intro x hx
      rw [← Option.some.inj hx]
  | none =>
    refine ⟨?_, fun x hx => nomatch hx⟩
    rw [Notebook.next, hperform]
    exact notebook_of_brings h (Notebook.perform_eq_none_iff.1 hperform)

/-! ## Runs -/

/-- **Whether a call changes the texts of a name.** -/
def Call.touches (c : Call) (name : String) : Bool :=
  c.before.session.notebook.touches c.operation c.exchanges c.result name

/-- **A call that keeps the edits** and brings no ill-formed document. -/
structure Call.InPlace (c : Call) : Prop where
  wellFormed : c.operation.WellFormed
  keeps : c.operation.keepsEdits = true

/-- What is typed is in the active entry. -/
theorem notebook_of_typed (h : Step s op es result s') (hs : s.WellFormed) {f : Buffers → Buffers}
    (hop : op.typed? = some f) : s'.notebook.catalog.find? s.registry.activeName =
      some ⟨s.registry.activeName, f s.editor⟩ := by
  have hwritten (g : Buffers → Buffers) : (s.notebook.write g).catalog.find? s.registry.activeName =
      some ⟨s.registry.activeName, g s.editor⟩ := by
    rw [Notebook.write, notebook_active, Catalog.find?_edit, find?_notebook_active hs,
      Option.map_some, Dataset.edit, if_pos rfl]
  cases op with
  | editData text =>
    cases hop
    obtain ⟨-, -, rfl⟩ := h.of_done rfl
    rw [notebook_editData hs]
    exact hwritten _
  | editVars text =>
    cases hop
    obtain ⟨-, -, rfl⟩ := h.of_done rfl
    rw [notebook_editVars hs]
    exact hwritten _
  | _ => cases hop

namespace Run

variable {start fin : Stage} {calls : List Call}

/-- Datasets stay well-formed in a run that brings no ill-formed document. -/
theorem wellFormed (run : Run start calls fin) (hstart : start.session.WellFormed)
    (hcalls : ∀ c ∈ calls, c.InPlace) : fin.session.WellFormed := by
  induction run with
  | nil => exact hstart
  | snoc _ valid ih =>
    have hbefore := ih fun c hc => hcalls c (List.mem_append_left _ hc)
    have hlast := hcalls _ (List.mem_append_right _ (List.mem_singleton_self _))
    exact wellFormed_of_step valid.step hlast.wellFormed hbefore

/-- The notebook of a session changes in place. -/
theorem notebook_eq_foldl (run : Run start calls fin) (hstart : start.session.WellFormed)
    (hcalls : ∀ c ∈ calls, c.InPlace) : fin.session.notebook =
      calls.foldl (fun n c => n.next c.operation c.exchanges c.result) start.session.notebook := by
  induction run with
  | nil => rfl
  | snoc run valid ih =>
    have hearlier := fun c hc => hcalls c (List.mem_append_left _ hc)
    have hlast := hcalls _ (List.mem_append_right _ (List.mem_singleton_self _))
    have hbefore := run.wellFormed hstart hearlier
    rw [List.foldl_append, ← ih hearlier]
    exact (notebook_of_step valid.step hbefore hlast.keeps).1

/-- **An entry that no call touches stays as it is.** -/
theorem find?_of_touches (run : Run start calls fin) (hstart : start.session.WellFormed)
    (hcalls : ∀ c ∈ calls, c.InPlace) {name : String} {d : Dataset}
    (hd : start.session.notebook.catalog.find? name = some d)
    (hstays : ∀ c ∈ calls, c.touches name = false) :
    fin.session.notebook.catalog.find? name = some d := by
  induction run with
  | nil => exact hd
  | @snoc calls c run valid ih =>
    have hearlier := fun c hc => hcalls c (List.mem_append_left _ hc)
    have hmem : c ∈ calls ++ [c] := List.mem_append_right _ (List.mem_singleton_self _)
    obtain ⟨hnext, hresult⟩ := notebook_of_step valid.step (run.wellFormed hstart hearlier)
      (hcalls c hmem).keeps
    have hbefore := ih hearlier fun x hx => hstays x (List.mem_append_left _ hx)
    show c.session.notebook.catalog.find? name = some d
    rw [hnext]
    exact Notebook.find?_next hresult (hstays c hmem) hbefore

/-- **A session is edited in place**, whatever it copies to and fro, as long as no edits are
discarded on purpose. Its notebook is what the calls make of the one at the start, one after the
other, and each edit answers what it answers on the notebook; the editor holds the active entry. No
entry changes unless it is touched, and what has been typed stays under the name that was active
until that is touched again. -/
theorem edited_in_place (run : Run start calls fin) (hstart : start.session.WellFormed)
    (hcalls : ∀ c ∈ calls, c.InPlace) :
    fin.session.notebook =
        calls.foldl (fun n c => n.next c.operation c.exchanges c.result) start.session.notebook ∧
      fin.session.notebook.catalog.find? fin.session.notebook.catalog.active =
        some ⟨fin.session.notebook.catalog.active, fin.session.editor⟩ ∧
      ∀ earlier c later, calls = earlier ++ c :: later →
        (∀ x, c.before.session.notebook.perform c.operation = some x → c.result = x.1) ∧
        (∀ name d, c.before.session.notebook.catalog.find? name = some d →
          (∀ x ∈ c :: later, x.touches name = false) →
            fin.session.notebook.catalog.find? name = some d) ∧
        ∀ f, c.operation.typed? = some f →
          (∀ x ∈ later, x.touches c.before.session.notebook.catalog.active = false) →
            fin.session.notebook.catalog.find? c.before.session.notebook.catalog.active =
              some ⟨c.before.session.notebook.catalog.active, f c.before.session.editor⟩ := by
  simp only [notebook_active]
  refine ⟨run.notebook_eq_foldl hstart hcalls, find?_notebook_active (run.wellFormed hstart hcalls),
    ?_⟩
  rintro earlier c later rfl
  obtain ⟨hfirst, hvalid, hlater⟩ := run.cut
  have hc := hcalls c (List.mem_append_right _ List.mem_cons_self)
  have hrest : ∀ x ∈ later, x.InPlace := fun x hx =>
    hcalls x (List.mem_append_right _ (List.mem_cons_of_mem _ hx))
  have hbefore := hfirst.wellFormed hstart fun x hx => hcalls x (List.mem_append_left _ hx)
  have hafter : c.after.session.WellFormed := wellFormed_of_step hvalid.step hc.wellFormed hbefore
  obtain ⟨hnext, hresult⟩ := notebook_of_step hvalid.step hbefore hc.keeps
  refine ⟨hresult, fun name d hd hstays => ?_, fun f hf hstays => ?_⟩
  · have hd' : c.after.session.notebook.catalog.find? name = some d := by
      rw [show c.after.session.notebook = _ from hnext]
      exact Notebook.find?_next hresult (hstays c List.mem_cons_self) hd
    exact hlater.find?_of_touches hafter hrest hd' fun x hx =>
      hstays x (List.mem_cons_of_mem _ hx)
  · exact hlater.find?_of_touches hafter hrest (notebook_of_typed hvalid.step hbefore hf) hstays

/-- A session with two datasets, in the second of which something may have been typed. -/
def twoDatasets (editor : Buffers) (dirty : Bool) : Session where
  registry := ⟨⟨[⟨"A", ⟨"x", ""⟩⟩, ⟨"B", {}⟩], 1⟩, by decide⟩
  editor
  dirty

/-- What is typed into a dataset goes with it when it is removed, and the other one is active
then. -/
theorem edited_in_place_twoDatasets :
    ∃ calls fin, Run ⟨twoDatasets {} false, {}⟩ calls fin ∧ (∀ c ∈ calls, c.InPlace) ∧
      (∃ c ∈ calls, c.result = .removed (.ok (.done ⟨⟨"B", ⟨"", "v"⟩⟩, true⟩))) ∧
      fin.session.notebook = ⟨⟨[⟨"A", ⟨"x", ""⟩⟩], "A"⟩, ""⟩ ∧ fin.session.editor = ⟨"x", ""⟩ := by
  let typed : Call := .quiet ⟨twoDatasets {} false, {}⟩ (.editVars "v")
    (.edited (.ok ()), twoDatasets ⟨"", "v"⟩ true)
  let asked : Call := .quiet typed.after (.removeDataset "B")
    (.removed (.ok (.ask ⟨"Are you sure Data Set '" ++ "B" ++ "' should be deleted?", "B"⟩)),
      twoDatasets ⟨"", "v"⟩ true)
  let removed : Call := .quiet asked.after (.confirmRemove "B")
    (.removed (.ok (.done ⟨⟨"B", ⟨"", "v"⟩⟩, true⟩)),
      { registry := .first ⟨"A", ⟨"x", ""⟩⟩ [], editor := ⟨"x", ""⟩, dirty := true })
  have run : Run ⟨twoDatasets {} false, {}⟩ [typed, asked, removed] removed.after :=
    ((Run.nil.quiet (.editVars "v") trivial rfl).quiet (.removeDataset "B") trivial rfl).quiet
      (.confirmRemove "B") (List.mem_singleton_self "B") rfl
  have hcalls : ∀ c ∈ [typed, asked, removed], c.InPlace := by
    intro c hc
    simp only [List.mem_cons, List.not_mem_nil, or_false] at hc
    rcases hc with rfl | rfl | rfl <;> exact ⟨trivial, rfl⟩
  have hstart : (twoDatasets {} false).WellFormed := by
    unfold WellFormed
    decide
  obtain ⟨hnotebook, -⟩ := edited_in_place run hstart hcalls
  exact ⟨_, _, run, hcalls, ⟨removed, by simp, rfl⟩, hnotebook.trans rfl, rfl⟩

end Run

end Session

end TemplateShare
