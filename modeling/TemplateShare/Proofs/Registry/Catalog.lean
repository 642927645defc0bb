import Mathlib.Data.List.Nodup
import TemplateShare.Proofs.Session.Edit
import TemplateShare.Proofs.Session.WellFormed

/-! # Registries as catalogs

A registry is kept around its active dataset. What it stands for is simpler: named texts in order,
and the name of those that are active. This plain list is the catalog of the registry, with
operations of its own that know no position. As long as names are different, every operation of a
registry does to its catalog what the operation of the same name does there, faults included.

* **`Catalog`** — named texts in order and an active name, with `add`, `remove`, `activate` and
  `edit`.
* **`Registry.catalog`** — the catalog of a registry, which determines it
  (**`Registry.eq_of_catalog_eq`**).
* **`Registry.catalog_add`**, **`Registry.catalog_remove`**, **`Registry.catalog_switch`**,
  **`Registry.catalog_set`** — the operations, one by one. -/

namespace TemplateShare

/-! ## Catalogs -/

/-- **Change the texts of a dataset** if it has the name. -/
def Dataset.edit (name : String) (f : Buffers → Buffers) (d : Dataset) : Dataset :=
  if d.name = name then { d with buffers := f d.buffers } else d

/-- A dataset keeps its name. -/
@[simp] theorem Dataset.name_edit (name : String) (f : Buffers → Buffers) (d : Dataset) :
    (d.edit name f).name = d.name := by
  unfold edit
  split <;> rfl

/-- **A catalog**: named texts in order, of which those with the active name are being edited. -/
structure Catalog where
  entries : List Dataset
  active : String
deriving DecidableEq, Repr

namespace Catalog

variable {c : Catalog} {name : String}

/-- The entry with a name. -/
def find? (c : Catalog) (name : String) : Option Dataset := c.entries.find? (·.name == name)

/-- **Change the texts of a name**, and no others. -/
def edit (c : Catalog) (name : String) (f : Buffers → Buffers) : Catalog :=
  { c with entries := c.entries.map (.edit name f) }

/-- **Add a blank entry at the end.** The active name stays. -/
def add (c : Catalog) (name : String) : Except ValidationError Catalog :=
  if !Dataset.isValidName name then .error (.invalidName name)
  else if (c.find? name).isSome then .error (.duplicateName name)
  else .ok { c with entries := c.entries ++ [⟨name, {}⟩] }

/-- **Make a name active.** All entries stay. -/
def activate (c : Catalog) (name : String) : Except ValidationError Catalog :=
  if (c.find? name).isSome then .ok { c with active := name } else .error (.unknownDataset name)

/-- **Take an entry out**, which may not be the last one. The rest stays as it is and in its order.
If the entry was active, the first one of the rest is active then. -/
def remove (c : Catalog) (name : String) : Except ValidationError (Registry.Removal × Catalog) :=
  match c.find? name with
  | none => .error (.unknownDataset name)
  | some d =>
    match c.entries.filter (·.name ≠ name) with
    | [] => .error .lastDataset
    | first :: rest =>
      .ok (⟨d, decide (name = c.active)⟩,
        ⟨first :: rest, if name = c.active then first.name else c.active⟩)

/-- **What is left of a catalog** without an entry, if that is not all. -/
theorem remove_eq {d first : Dataset} {rest : List Dataset} (hfind : c.find? name = some d)
    (hrest : c.entries.filter (·.name ≠ name) = first :: rest) :
    c.remove name = .ok (⟨d, decide (name = c.active)⟩,
      ⟨first :: rest, if name = c.active then first.name else c.active⟩) := by
  rw [remove, hfind]
  dsimp only
  rw [hrest]

/-- Two changes of the same texts are one. -/
theorem edit_edit (f g : Buffers → Buffers) :
    (c.edit name f).edit name g = c.edit name (g ∘ f) := by
  simp only [edit, List.map_map, Catalog.mk.injEq, and_true]
  apply List.map_congr_left
  intro d _
  by_cases h : d.name = name <;> simp [Dataset.edit, h]

/-- **An entry after a change** has other texts if it has the name. -/
theorem find?_edit (f : Buffers → Buffers) (other : String) :
    (c.edit name f).find? other = (c.find? other).map (.edit name f) := by
  unfold find? edit
  rw [List.find?_map]
  simp only [Function.comp_def, Dataset.name_edit]

/-- The entry of a name has it. -/
theorem name_of_find? {d : Dataset} (h : c.find? name = some d) : d.name = name := by
  simpa using List.find?_some h

/-- An entry of another name stays as it is. -/
theorem find?_edit_of_ne (f : Buffers → Buffers) {other : String} (h : other ≠ name) :
    (c.edit name f).find? other = c.find? other := by
  rw [find?_edit]
  cases hfind : c.find? other with
  | none => rfl
  | some d =>
    have hname : d.name ≠ name := name_of_find? hfind ▸ h
    rw [Option.map_some, Dataset.edit, if_neg hname]

/-- An entry is there before a change if and only if it is there after it. -/
theorem isSome_find?_edit (f : Buffers → Buffers) (other : String) :
    ((c.edit name f).find? other).isSome = (c.find? other).isSome := by
  rw [find?_edit, Option.isSome_map]

/-- An entry stays when another one is added. -/
theorem find?_of_add {c' : Catalog} (h : c.add name = .ok c') {other : String} {d : Dataset}
    (hd : c.find? other = some d) : c'.find? other = some d := by
  unfold add at h
  split at h
  · cases h
  · split at h <;> cases h
    rw [find?] at hd ⊢
    rw [List.find?_append, hd]
    rfl

/-- All entries stay when one becomes active. -/
theorem find?_of_activate {c' : Catalog} (h : c.activate name = .ok c') (other : String) :
    c'.find? other = c.find? other := by
  unfold activate at h
  split at h <;> cases h
  rfl

/-- A removal takes the entry of the name out, and no other. -/
theorem remove_eq_ok {c' : Catalog} {removal : Registry.Removal}
    (h : c.remove name = .ok (removal, c')) :
    c.find? name = some removal.dataset ∧ c'.entries = c.entries.filter (·.name ≠ name) := by
  unfold remove at h
  split at h
  · cases h
  · next hfind =>
    split at h
    · cases h
    · next hrest =>
      cases h
      exact ⟨hfind, hrest.symm⟩

/-- An entry stays when one of another name is removed. -/
theorem find?_of_remove {c' : Catalog} {removal : Registry.Removal}
    (h : c.remove name = .ok (removal, c')) {other : String} (hother : other ≠ name) :
    c'.find? other = c.find? other := by
  rw [find?, find?, (remove_eq_ok h).2, List.find?_filter]
  congr 1
  funext d
  by_cases hd : d.name = other <;> simp [hd, hother]

end Catalog

namespace Registry

variable {r r' : Registry} {name : String} {ds xs ys : List Dataset} {d : Dataset}

/-! ## Lists with different names -/

/-- **Different names tell where a dataset is**: it is the one that is found, and all others have
other names. -/
theorem find?_and_filter_of_nodup (h : ((xs ++ d :: ys).map Dataset.name).Nodup) :
    (xs ++ d :: ys).find? (·.name == d.name) = some d ∧
      (xs ++ d :: ys).filter (·.name ≠ d.name) = xs ++ ys := by
  rw [List.map_append, List.map_cons, List.nodup_middle, List.nodup_cons, ← List.map_append] at h
  have hother : ∀ x ∈ xs ++ ys, x.name ≠ d.name := by
    intro x hx hname
    exact h.1 (hname ▸ List.mem_map_of_mem hx)
  constructor
  · have hbefore : xs.find? (·.name == d.name) = none := by
      rw [List.find?_eq_none]
      intro x hx
      simpa using hother x (List.mem_append_left _ hx)
    rw [List.find?_append, hbefore]
    simp
  · have hrest : (xs ++ ys).filter (·.name ≠ d.name) = xs ++ ys := by
      rw [List.filter_eq_self]
      intro x hx
      simpa using hother x hx
    rw [List.filter_append, List.filter_cons_of_neg (by simp), ← List.filter_append, hrest]

/-- New texts for a name that is not in a list change nothing. -/
theorem setIn_of_any_eq_false (b : Buffers) (h : ds.any (·.name == name) = false) :
    setIn name b ds = ds := by
  induction ds with
  | nil => rfl
  | cons d ds ih =>
    rw [List.any_cons, Bool.or_eq_false_iff, beq_eq_false_iff_ne] at h
    rw [setIn, if_neg h.1, ih h.2]

/-- New texts go to the part of a list that has the name first. -/
theorem setIn_append (b : Buffers) (xs ys : List Dataset) : setIn name b (xs ++ ys) =
    if xs.any (·.name == name) then setIn name b xs ++ ys else xs ++ setIn name b ys := by
  induction xs with
  | nil => rfl
  | cons x xs ih =>
    by_cases hx : x.name = name
    · simp [setIn, hx]
    · simp only [List.cons_append, setIn, if_neg hx, ih, List.any_cons, beq_eq_false_iff_ne.2 hx,
        Bool.false_or]
      split <;> rfl

/-- **Where names are different, the first dataset of a name is the only one.** -/
theorem setIn_eq_map (b : Buffers) (h : (ds.map Dataset.name).Nodup) :
    setIn name b ds = ds.map (.edit name fun _ => b) := by
  induction ds with
  | nil => rfl
  | cons d ds ih =>
    rw [List.map_cons, List.nodup_cons] at h
    have ih := ih h.2
    rw [setIn, List.map_cons, Dataset.edit]
    by_cases hd : d.name = name
    · have hnone : ds.any (·.name == name) = false := by
        rw [List.any_eq_false]
        intro x hx hname
        rw [beq_iff_eq, ← hd] at hname
        exact h.1 (hname ▸ List.mem_map_of_mem hx)
      rw [if_pos hd, if_pos hd, ← ih, setIn_of_any_eq_false b hnone]
    · rw [if_neg hd, if_neg hd, ih]

/-! ## The catalog of a registry -/

/-- **The catalog of a registry**: its datasets in order, and which one is active. -/
def catalog (r : Registry) : Catalog := ⟨r.datasets, r.activeName⟩

@[simp] theorem catalog_active (r : Registry) : r.catalog.active = r.activeName := rfl

/-- A dataset is in the registry if and only if its catalog has an entry of the name. -/
theorem isSome_find?_catalog (r : Registry) (name : String) :
    (r.catalog.find? name).isSome = r.contains name := by
  rw [Catalog.find?, List.isSome_find?]
  rfl

/-- No dataset before the active one has its name. -/
theorem before_any_activeName (h : r.WellFormed) :
    r.before.any (·.name == r.activeName) = false := by
  have hnodup := h.2
  rw [names, r.datasets_eq, List.map_append, List.nodup_append] at hnodup
  rw [List.any_eq_false]
  intro x hx hname
  rw [beq_iff_eq] at hname
  exact hnodup.2.2 _ (List.mem_map_of_mem hx) _ List.mem_cons_self hname

/-- **The active dataset stands where the list of names has its name.** -/
theorem idxOf_activeName (h : r.WellFormed) : r.names.idxOf r.activeName = r.position := by
  have hbefore : r.activeName ∉ r.before.map Dataset.name := by
    intro hmem
    obtain ⟨d, hd, hname⟩ := List.mem_map.1 hmem
    have hnone := List.any_eq_false.1 (before_any_activeName h) d hd
    exact hnone (beq_iff_eq.2 hname)
  rw [names, r.datasets_eq, List.map_append, List.idxOf_append_of_notMem hbefore, List.map_cons]
  rw [show r.active.name = r.activeName from rfl, List.idxOf_cons_self, List.length_map,
    length_before]
  rfl

/-- **A catalog determines its registry.** -/
theorem eq_of_catalog_eq (h : r.WellFormed) (h' : r'.WellFormed) (heq : r.catalog = r'.catalog) :
    r = r' := by
  obtain ⟨hdatasets, hactive⟩ := Catalog.mk.inj heq
  have hposition : r.position = r'.position := by
    rw [← idxOf_activeName h, ← idxOf_activeName h', names, names, hdatasets, hactive]
  exact toSlots_inj.1 ((Slots.mk.injEq ..).mpr ⟨hdatasets, hposition⟩)

/-- The active dataset is the entry of the active name. -/
theorem find?_activeName (h : r.WellFormed) : r.catalog.find? r.activeName = some r.active := by
  have hnodup := h.2
  rw [names, r.datasets_eq] at hnodup
  rw [Catalog.find?, catalog, r.datasets_eq]
  exact (find?_and_filter_of_nodup hnodup).1

/-! ## The operations -/

/-- The names in order do not depend on texts. -/
theorem map_name_setIn (name : String) (b : Buffers) (ds : List Dataset) :
    (setIn name b ds).map Dataset.name = ds.map Dataset.name := by
  induction ds with
  | nil => rfl
  | cons d ds ih =>
    rw [setIn]
    split
    · rfl
    · rw [List.map_cons, ih, List.map_cons]

/-- New texts of a dataset change no names. -/
@[simp] theorem names_set (r : Registry) (name : String) (b : Buffers) :
    (r.set name b).names = r.names := map_name_setIn name b r.datasets

/-- The active name is found in the place of the active dataset. -/
theorem getElem?_names (r : Registry) : r.names[r.position]? = some r.activeName := by
  rw [names, List.getElem?_map, getElem?_position]
  rfl

/-- **New texts of a dataset**, whichever one it is. -/
theorem catalog_set (h : r.WellFormed) (name : String) (b : Buffers) :
    (r.set name b).catalog = r.catalog.edit name fun _ => b := by
  have hactive : (r.set name b).activeName = r.activeName := by
    have hnames := getElem?_names (r.set name b)
    rw [names_set] at hnames
    exact Option.some.inj (hnames.symm.trans r.getElem?_names)
  rw [catalog, hactive]
  exact congrArg (Catalog.mk · _) (setIn_eq_map b h.2)

/-- New texts of the active dataset are new texts of its name. -/
theorem set_activeName (h : r.WellFormed) (b : Buffers) : r.set r.activeName b = r.setActive b := by
  refine toSlots_inj.1 ((Slots.mk.injEq ..).mpr ⟨?_, rfl⟩)
  show setIn r.activeName b r.datasets = (r.setActive b).datasets
  rw [datasets_setActive, r.datasets_eq, setIn_append, before_any_activeName h,
    if_neg Bool.false_ne_true, setIn, activeName, if_pos rfl]

/-- **New texts of the active dataset.** -/
theorem catalog_setActive (h : r.WellFormed) (b : Buffers) :
    (r.setActive b).catalog = r.catalog.edit r.activeName fun _ => b := by
  rw [← set_activeName h, catalog_set h]

/-- **A dataset that is added** comes to the end of the catalog. -/
theorem catalog_add (r : Registry) (name : String) :
    (r.add name).map catalog = r.catalog.add name := by
  rw [Catalog.add, isSome_find?_catalog]
  cases hadd : r.add name with
  | error e =>
    obtain ⟨hname, rfl⟩ | ⟨hname, htaken, rfl⟩ := add_eq_error_iff.1 hadd
    · simp [hname, Except.map]
    · simp [hname, htaken, Except.map]
  | ok r' =>
    obtain ⟨hname, hnew, -⟩ := add_eq_ok_iff.1 hadd
    obtain ⟨-, hactive, -⟩ := around_of_add hadd
    simp [hname, hnew, Except.map, catalog, datasets_of_add hadd, activeName, hactive]

/-- **A dataset that is removed** leaves the catalog, with the same report. -/
theorem catalog_remove (h : r.WellFormed) (name : String) :
    (r.remove name).map (fun x => (x.1, x.2.catalog)) = r.catalog.remove name := by
  cases hremove : r.remove name with
  | error e =>
    unfold Catalog.remove
    obtain ⟨hunknown, rfl⟩ | ⟨hsize, rfl, rfl⟩ := remove_eq_error_iff.1 hremove
    · rw [← isSome_find?_catalog, Option.isSome_eq_false_iff, Option.isNone_iff_eq_none] at hunknown
      rw [hunknown]
      rfl
    · -- The active dataset is the only one, so that nothing is left without it.
      have hrest : r.catalog.entries.filter (·.name ≠ r.activeName) = [] := by
        obtain ⟨d, hd⟩ := List.length_eq_one_iff.1 hsize
        have hactive : r.active = d := List.mem_singleton.1 (hd ▸ r.active_mem_datasets)
        rw [catalog, hd, activeName, hactive]
        simp
      rw [find?_activeName h]
      dsimp only
      rw [hrest]
      rfl
  | ok x =>
    obtain ⟨⟨d, changed⟩, r'⟩ := x
    obtain ⟨xs, ys, hdatasets, hrest, rfl, hactive⟩ := datasets_of_remove hremove
    have hnodup := h.2
    rw [names, hdatasets] at hnodup
    obtain ⟨hfind, hfilter⟩ := find?_and_filter_of_nodup hnodup
    rw [← hdatasets] at hfind hfilter
    obtain ⟨first, rest, hcons⟩ := List.exists_cons_of_ne_nil r'.datasets_ne_nil
    have hentry : r.catalog.find? d.name = some d := hfind
    rw [Catalog.remove_eq hentry (hfilter.trans (hrest.symm.trans hcons)), ← hcons]
    rcases hactive with ⟨rfl, hname, hbefore⟩ | ⟨rfl, hsame, hmem⟩
    · -- The first of those left has become active, in the catalog as well.
      have hfirst : r'.active = first := by
        rw [r'.datasets_eq, hbefore] at hcons
        exact (List.cons.inj hcons).1
      simp [Except.map, catalog, hname, activeName, hfirst]
    · -- The active dataset is one of the others, whose names are different.
      have hother : d.name ≠ r.activeName := by
        intro hname
        rw [List.map_append, List.map_cons, List.nodup_middle, List.nodup_cons,
          ← List.map_append] at hnodup
        exact hnodup.1 (hname ▸ List.mem_map_of_mem hmem)
      have hactive : r'.activeName = r.activeName := congrArg Dataset.name hsame
      simp [Except.map, catalog, hother, hactive]

/-- **A dataset that becomes active** is so in the catalog, into which the live texts of the one
that was active go first. -/
theorem catalog_switch (h : r.WellFormed) (name : String) (live : Option Buffers) :
    (r.switch name live).map catalog =
      (live.elim r.catalog fun b => r.catalog.edit r.activeName fun _ => b).activate name := by
  have hlive : (live.elim r.catalog fun b => r.catalog.edit r.activeName fun _ => b) =
      (live.elim r r.setActive).catalog := by
    cases live with
    | none => rfl
    | some b => exact (catalog_setActive h b).symm
  have hcontains : ((live.elim r r.setActive).catalog.find? name).isSome = r.contains name := by
    rw [← hlive, ← isSome_find?_catalog]
    cases live with
    | none => rfl
    | some b => exact Catalog.isSome_find?_edit _ _
  rw [hlive, Catalog.activate, hcontains, ← isOk_switch r name live]
  cases hswitch : r.switch name live with
  | error e =>
    obtain rfl := switch_eq_error hswitch
    rfl
  | ok r' =>
    obtain ⟨hname, hdatasets⟩ := switch_eq_ok hswitch
    simp only [Except.map, Except.isOk, Except.toBool, if_true, catalog, hdatasets, hname]

end Registry

end TemplateShare
