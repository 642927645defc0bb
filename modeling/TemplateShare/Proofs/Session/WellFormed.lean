import TemplateShare.Proofs.RemoteDocument
import TemplateShare.Proofs.Session.Dirty
import TemplateShare.Proofs.Session.Saved

/-! # Sessions with well-formed datasets

Every operation keeps the names of the datasets valid and different, if those that are pasted are.

* **`Registry.wellFormed_of_sublist`** — fewer names are still well-formed.
* **`Session.Operation.WellFormed`** — operations that bring no ill-formed document.
* **`Session.wellFormed_of_step`** — one operation. -/

namespace TemplateShare

namespace Registry

variable {r r' : Registry} {name : String}

/-- **Fewer names are still well-formed.** -/
theorem wellFormed_of_sublist (h : r'.names.Sublist r.names) (hr : r.WellFormed) :
    r'.WellFormed :=
  ⟨fun n hn => hr.1 n (h.subset hn), hr.2.sublist h⟩

/-- Texts do not matter. -/
theorem wellFormed_setActive (hr : r.WellFormed) (b : Buffers) : (r.setActive b).WellFormed :=
  wellFormed_of_sublist (r.setActive_names b ▸ List.Sublist.refl _) hr

/-- A dataset that is added has a valid name of its own. -/
theorem wellFormed_add (hr : r.WellFormed) (h : r.add name = .ok r') : r'.WellFormed := by
  obtain ⟨hvalid, hnew, -⟩ := add_eq_ok_iff.1 h
  have hnames : r'.names = r.names ++ [name] := by
    rw [names, datasets_of_add h, List.map_append]
    rfl
  -- The name is a new one, since taken names are refused.
  have hfresh : name ∉ r.names := by
    intro hmem
    obtain ⟨d, hd, rfl⟩ := List.mem_map.1 hmem
    exact List.any_eq_false.1 hnew d hd (beq_self_eq_true _)
  refine ⟨fun n hn => ?_, ?_⟩
  · rw [hnames, List.mem_append, List.mem_singleton] at hn
    rcases hn with hn | rfl
    · exact hr.1 n hn
    · exact hvalid
  · rw [hnames, List.nodup_append]
    refine ⟨hr.2, List.nodup_cons.2 ⟨List.not_mem_nil, List.nodup_nil⟩,
      fun a ha b hb hab => ?_⟩
    rw [List.mem_singleton] at hb
    exact hfresh (by rw [← hb, ← hab]; exact ha)

/-- What is left is well-formed. -/
theorem wellFormed_remove (hr : r.WellFormed) {removal : Removal}
    (h : r.remove name = .ok (removal, r')) : r'.WellFormed := by
  obtain ⟨xs, ys, hdatasets, hrest, -, -⟩ := datasets_of_remove h
  refine wellFormed_of_sublist (List.Sublist.map _ ?_) hr
  rw [hdatasets, hrest]
  exact (List.Sublist.refl xs).append (List.sublist_cons_self _ ys)

/-- Another active dataset makes no difference. -/
theorem wellFormed_switch (hr : r.WellFormed) {live : Option Buffers}
    (h : r.switch name live = .ok r') : r'.WellFormed := by
  have hnames : r'.names = r.names := by
    rw [names, (switch_eq_ok h).2]
    cases live with
    | none => rfl
    | some b => exact setActive_names r b
  exact wellFormed_of_sublist (hnames ▸ List.Sublist.refl _) hr

end Registry

namespace Session

variable {s s' : Session} {es : List (Request × Reply)} {result : Result} {op : Operation}

/-- **A session with well-formed datasets.** -/
def WellFormed (s : Session) : Prop := s.registry.WellFormed

/-- **Operations that bring no ill-formed document.** -/
def Operation.WellFormed : Operation → Prop
  | .paste dt | .confirmPaste dt => dt.registry.WellFormed
  | _ => True

/-- The document of a session is well-formed. -/
theorem WellFormed.snapshot (h : s.WellFormed) : s.snapshot.registry.WellFormed :=
  Registry.wellFormed_setActive h s.editor

/-- A session with the same lasting part has the same datasets. -/
theorem WellFormed.of_kept (h : s.WellFormed) (hkept : s'.kept = s.kept) : s'.WellFormed := by
  rw [WellFormed, (eq_of_kept_eq hkept).1]
  exact h

/-- A reply that is applied brings a well-formed document, if any. -/
theorem WellFormed.fetched (h : s.WellFormed) {p : Sync.PendingFetch} {reply : Reply}
    {out : Sync.Outcome Sync.FetchOutcome} (hout : Sync.Fetched s p reply out) :
    out.2.WellFormed := by
  cases hout with
  | loaded current _ _ read =>
    unfold completeLoad
    rw [if_neg (not_not_intro current)]
    exact RemoteDocument.wellFormed_of_parse read
  | asked => exact h
  | discarded => exact h
  | failed e state => exact h.of_kept (kept_abortLoad _ _ _)

/-- What is loaded is well-formed. -/
theorem WellFormed.loads (h : s.WellFormed) {out : Sync.Outcome Sync.FetchOutcome}
    (hloads : Loads s op es out) : out.2.WellFormed := by
  cases hloads with
  | invalid => exact h
  | late => exact h
  | givenUp => exact h.of_kept (kept_abortLoad _ _ _)
  | applied => exact h.fetched (Sync.fetched_applyFetch ..)
  | @fetched id =>
    have hbegun : (s.beginLoad id).2.WellFormed := h
    exact hbegun.fetched (Sync.fetched_applyFetch ..)
  | answered => exact h.fetched (Sync.fetched_applyFetch ..)

/-- What is left of the datasets is well-formed. -/
theorem WellFormed.removeNow (h : s.WellFormed) (name : String) :
    (s.removeNow name).2.WellFormed := by
  unfold Session.removeNow
  dsimp only
  have hlive : WellFormed (if name = s.registry.activeName then
      { s with registry := s.registry.setActive s.editor } else s) := by
    split
    · exact Registry.wellFormed_setActive h s.editor
    · exact h
  split
  · exact hlive
  · next hremove => exact Registry.wellFormed_remove hlive hremove

/-- **Edits leave well-formed datasets**: those of texts keep all names, and new names are checked. -/
theorem WellFormed.edits (h : s.WellFormed) (hedits : Edits s op result s') : s'.WellFormed := by
  cases hedits with
  | data | vars | template => exact h
  | sameData | sameVars | sameTemplate | notAdded | notSwitched | unknown | last | asked => exact h
  | added added switched => exact Registry.wellFormed_switch (Registry.wellFormed_add h added) switched
  | switched switched => exact Registry.wellFormed_switch h switched
  | removed | confirmed => exact h.removeNow _

/-- **Every operation leaves well-formed datasets**, if it brings no others. -/
theorem wellFormed_of_step (h : Step s op es result s') (hop : op.WellFormed) (hs : s.WellFormed) :
    s'.WellFormed := by
  cases performed_of_step h with
  | acts _ hacts =>
    cases hacts with
    | edits hedits => exact hs.edits hedits
    | pastes | confirms => exact hop
    | asks | notProtected | protects | invalid | begins => exact hs
  | loads _ hloads => exact hs.loads hloads
  -- A save sends the document and takes nothing over from the store.
  | saves save =>
    rw [WellFormed, (settled_of_step h save).document.1]
    exact hs

end Session

end TemplateShare
