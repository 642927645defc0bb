import TemplateShare.Assoc
import TemplateShare.Proofs.Content

/-! # Registries from lists

Well-formed datasets make a registry and every registry that is made of a list is well-formed, so
that what has been written of a document can be put together again.

* **`Registry.ofDatasets_eq`** — well-formed datasets make a registry.
* **`Registry.wellFormed_of_ofDatasets`** — nothing else does.
* **`Registry.before_of_ofDatasets`** — the first dataset is active.
* **`Assoc.ofList_of_nodup`** — a map with distinct keys is the list of its entries. -/

namespace TemplateShare

/-! ## Registries of datasets -/

namespace Registry

/-- Valid datasets that are new may follow. -/
theorem check_eq_ok {seen : List String} {ds : List Dataset}
    (hvalid : ∀ d ∈ ds, Dataset.isValidName d.name = true)
    (hnew : (seen ++ ds.map Dataset.name).Nodup) : check seen ds = .ok () := by
  induction ds generalizing seen with
  | nil => rfl
  | cons d ds ih =>
    have hfresh : seen.contains d.name = false := by
      rw [List.contains_eq_mem, decide_eq_false_iff_not]
      intro hmem
      exact (List.nodup_append.1 hnew).2.2 _ hmem _ List.mem_cons_self rfl
    rw [check, hvalid d List.mem_cons_self, hfresh]
    refine ih (fun x hx => hvalid x (List.mem_cons_of_mem d hx)) ?_
    simpa using hnew

/-- A registry is made of a list as its slots are. -/
theorem ofDatasets_eq_ok_iff {ds : List Dataset} {r : Registry} :
    ofDatasets ds = .ok r ↔ Slots.ofDatasets ds = .ok r.toSlots := by
  rw [← toSlots_ofDatasets]
  cases ofDatasets ds <;> simp [Except.map, toSlots_inj]

/-- **Well-formed datasets make a registry**, in which the first one is active. -/
theorem ofDatasets_eq {d : Dataset} {ds : List Dataset}
    (hvalid : ∀ x ∈ d :: ds, Dataset.isValidName x.name = true)
    (hnodup : ((d :: ds).map Dataset.name).Nodup) : ofDatasets (d :: ds) = .ok (first d ds) := by
  rw [ofDatasets_eq_ok_iff, Slots.ofDatasets, check_eq_ok hvalid (by simpa using hnodup)]
  rfl

/-- What may follow is valid and new. -/
theorem nodup_of_check {seen : List String} {ds : List Dataset} (hseen : seen.Nodup)
    (h : check seen ds = .ok ()) :
    (∀ d ∈ ds, Dataset.isValidName d.name = true) ∧ (seen ++ ds.map Dataset.name).Nodup := by
  induction ds generalizing seen with
  | nil => exact ⟨List.forall_mem_nil _, by simpa using hseen⟩
  | cons d ds ih =>
    rw [check] at h
    split at h
    · cases h
    · next hvalid =>
      split at h
      · cases h
      · next hfresh =>
        rw [List.contains_eq_mem, decide_eq_true_eq] at hfresh
        have hnext : (seen ++ [d.name]).Nodup := by
          rw [List.nodup_append]
          refine ⟨hseen, List.nodup_cons.2 ⟨List.not_mem_nil, List.nodup_nil⟩,
            fun a ha b hb hab => ?_⟩
          rw [List.mem_singleton] at hb
          exact hfresh (by rw [← hb, ← hab]; exact ha)
        obtain ⟨hvalid', hnodup⟩ := ih hnext h
        refine ⟨fun x hx => ?_, by simpa using hnodup⟩
        rcases List.mem_cons.1 hx with rfl | hx
        · simpa using hvalid
        · exact hvalid' x hx

/-- What makes a registry is a list of datasets that have been checked, the first of which is then
active. -/
theorem ofDatasets_eq_ok {ds : List Dataset} {r : Registry} (h : ofDatasets ds = .ok r) :
    ∃ d more, ds = d :: more ∧ check [] ds = .ok () ∧ r = first d more := by
  rw [ofDatasets_eq_ok_iff, Slots.ofDatasets] at h
  cases ds with
  | nil => cases h
  | cons d ds =>
    rw [if_neg (by simp)] at h
    cases hcheck : check [] (d :: ds) with
    | error e =>
      rw [hcheck] at h
      cases h
    | ok u =>
      rw [hcheck] at h
      exact ⟨d, ds, rfl, rfl, toSlots_inj.1 (Except.ok.inj h).symm⟩

/-- **A registry of datasets is well-formed.** -/
theorem wellFormed_of_ofDatasets {ds : List Dataset} {r : Registry} (h : ofDatasets ds = .ok r) :
    r.WellFormed := by
  obtain ⟨d, more, rfl, hcheck, rfl⟩ := ofDatasets_eq_ok h
  obtain ⟨hvalid, hnodup⟩ := nodup_of_check List.nodup_nil hcheck
  refine ⟨fun n hn => ?_, hnodup⟩
  obtain ⟨x, hx, rfl⟩ := List.mem_map.1 hn
  exact hvalid x hx

/-- **The first dataset of a registry of datasets is active.** -/
theorem before_of_ofDatasets {ds : List Dataset} {r : Registry} (h : ofDatasets ds = .ok r) :
    r.before = [] := by
  obtain ⟨d, more, -, -, rfl⟩ := ofDatasets_eq_ok h
  rfl

/-- A dataset of the default name makes a registry. -/
theorem ofDatasets_default (b : Buffers) :
    ofDatasets [⟨Dataset.defaultName, b⟩] = .ok (first ⟨Dataset.defaultName, b⟩ []) := by
  have hvalid : Dataset.isValidName Dataset.defaultName = true := by decide
  exact ofDatasets_eq (List.forall_mem_singleton.2 hvalid)
    (List.nodup_cons.2 ⟨List.not_mem_nil, List.nodup_nil⟩)

end Registry

/-- **The datasets of a document make a registry** also after they have been written anew, if they keep
their names. -/
theorem DataTemplate.ofDatasets_rewritten {f : Dataset → Dataset} (hname : ∀ d, (f d).name = d.name)
    (g : String → String) {dt : DataTemplate} (h : dt.registry.WellFormed) :
    Registry.ofDatasets (dt.datasets.map f) = .ok (dt.rewritten f g).registry := by
  have hnames : (dt.datasets.map f).map Dataset.name = dt.registry.names := by
    rw [← names_rewritten (g := g) hname, Registry.names, ← datasets_rewritten (g := g)]
    rfl
  have hvalid : ∀ x ∈ dt.datasets.map f, Dataset.isValidName x.name = true := by
    intro x hx
    exact h.1 x.name (by rw [← hnames]; exact List.mem_map_of_mem hx)
  obtain ⟨d, ds, hdatasets⟩ := dt.exists_datasets
  rw [rewritten_eq hdatasets]
  rw [hdatasets] at hnames hvalid ⊢
  exact Registry.ofDatasets_eq hvalid (by rw [← List.map_cons, hnames]; exact h.2)

namespace Assoc

/-- A map with distinct keys is the list of its entries. -/
theorem ofList_of_nodup {α : Type} {es : List (String × α)} (h : (es.map Prod.fst).Nodup) :
    Assoc.ofList es = es := by
  have hinsert {k : String} {v : α} {m : List (String × α)} (hk : k ∉ m.map Prod.fst) :
      Assoc.insert k v m = m ++ [(k, v)] := by
    induction m with
    | nil => rfl
    | cons e m ih =>
      rw [List.map_cons, List.mem_cons, not_or] at hk
      rw [Assoc.insert, if_neg (Ne.symm hk.1), ih hk.2]
      rfl
  have hfold {m : List (String × α)} (hm : ((m ++ es).map Prod.fst).Nodup) :
      es.foldl (fun m e => Assoc.insert e.1 e.2 m) m = m ++ es := by
    induction es generalizing m with
    | nil => rw [List.append_nil]; rfl
    | cons e es ih =>
      have hk : e.1 ∉ m.map Prod.fst := by
        rw [List.map_append, List.nodup_append] at hm
        intro hmem
        exact hm.2.2 _ hmem _ (by simp) rfl
      rw [List.foldl_cons, hinsert hk, ih (List.nodup_cons.1 h).2 (by simpa using hm)]
      simp
  exact hfold (by simpa using h)

end Assoc

namespace DataTemplate

/-- A document of the short form has only the dataset of the default name. -/
theorem datasets_of_isSingle {dt : DataTemplate} (h : dt.isSingle = true) :
    dt.datasets = [⟨Dataset.defaultName, dt.activeBuffers⟩] := by
  simp only [DataTemplate.isSingle, Bool.and_eq_true, beq_iff_eq] at h
  obtain ⟨hsize, hname⟩ := h
  obtain ⟨d, hd⟩ := List.length_eq_one_iff.1 hsize
  have hactive : dt.registry.active = d :=
    List.mem_singleton.1 (hd ▸ dt.registry.active_mem_datasets)
  rw [datasets, hd, ← hname, activeBuffers, Registry.activeName, hactive]

/-- **The short form** is that of a document with nothing but a dataset of the default name. -/
theorem isSingle_iff {dt : DataTemplate} :
    dt.isSingle = true ↔ ∃ b, dt.datasets = [⟨Dataset.defaultName, b⟩] := by
  constructor
  · exact fun h => ⟨_, datasets_of_isSingle h⟩
  · rintro ⟨b, h⟩
    have hactive : dt.registry.active = ⟨Dataset.defaultName, b⟩ :=
      List.mem_singleton.1 (h ▸ dt.registry.active_mem_datasets)
    have hsize : dt.registry.size = 1 := congrArg List.length h
    rw [isSingle, hsize, Registry.activeName, hactive]
    rfl

variable {f : Dataset → Dataset} {g : String → String}

/-- Where names stay, a document keeps its form. -/
theorem isSingle_rewritten (hname : ∀ d, (f d).name = d.name) (dt : DataTemplate) :
    (dt.rewritten f g).isSingle = dt.isSingle := by
  rw [Bool.eq_iff_iff, isSingle_iff, isSingle_iff, datasets_rewritten]
  constructor
  · rintro ⟨b, h⟩
    obtain ⟨d, ds, hds⟩ := dt.exists_datasets
    rw [hds, List.map_cons, List.cons.injEq, List.map_eq_nil_iff] at h
    obtain ⟨hd, rfl⟩ := h
    have hdname : d.name = Dataset.defaultName := by rw [← hname d, hd]
    exact ⟨d.buffers, by rw [hds, ← hdname]⟩
  · rintro ⟨b, h⟩
    rw [h]
    exact ⟨(f ⟨Dataset.defaultName, b⟩).buffers, by
      rw [List.map_singleton]
      exact congrArg (fun name => [(⟨name, _⟩ : Dataset)]) (hname _)⟩

end DataTemplate

end TemplateShare
