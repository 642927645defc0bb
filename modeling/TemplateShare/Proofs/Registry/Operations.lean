import TemplateShare.Registry

/-! # Operations on registries

What each operation does to the list of datasets and to the active one, without its place. The place
is looked at once, where a removal shifts it: the dataset that was active before is active behind it.

* **`Registry.before`**, **`Registry.after`** — the datasets on either side of the active one.
* **`Registry.getElem?_eraseIdx_shift`** — the dataset of a place is found in the shifted one.
* **`Registry.switch_eq_ok`**, **`Registry.isOk_switch`** — another dataset becomes active.
* **`Registry.remove_eq_error_iff`**, **`Registry.datasets_of_remove`** — a dataset is removed. -/

namespace TemplateShare.Registry

variable {r r' : Registry} {s : Slots} {name : String} {d : Dataset}

/-! ## Around the active dataset -/

/-- The datasets before the active one. -/
def before (r : Registry) : List Dataset := r.datasets.take r.position

/-- The datasets behind the active one. -/
def after (r : Registry) : List Dataset := r.datasets.drop (r.position + 1)

/-- **The datasets around the active one.** -/
theorem datasets_eq (r : Registry) : r.datasets = r.before ++ r.active :: r.after := by
  have hdrop := List.drop_eq_getElem_cons r.inRange
  rw [before, after, active, List.get_eq_getElem, ← hdrop, List.take_append_drop]

/-- The active dataset stands behind those before it. -/
theorem length_before (r : Registry) : r.before.length = r.position :=
  List.length_take_of_le (Nat.le_of_lt r.inRange)

/-- What is found in the place of the active dataset. -/
theorem getElem?_position (r : Registry) : r.datasets[r.position]? = some r.active :=
  List.getElem?_eq_getElem r.inRange

/-- **What stands around the place of a registry.** -/
theorem around_of_datasets {xs ys : List Dataset} (h : r.datasets = xs ++ d :: ys)
    (hposition : r.position = xs.length) : r.before = xs ∧ r.active = d ∧ r.after = ys := by
  have hdatasets := r.datasets_eq.symm.trans h
  obtain ⟨rfl, hrest⟩ := List.append_inj hdatasets (r.length_before.trans hposition)
  obtain ⟨hactive, hafter⟩ := List.cons.inj hrest
  exact ⟨rfl, hactive, hafter⟩

/-- **A registry is determined by its parts.** -/
theorem ext_around (hbefore : r.before = r'.before) (hactive : r.active = r'.active)
    (hafter : r.after = r'.after) : r = r' := by
  have hdatasets : r.datasets = r'.datasets := by
    rw [r.datasets_eq, r'.datasets_eq, hbefore, hactive, hafter]
  have hposition : r.position = r'.position := by
    rw [← r.length_before, ← r'.length_before, hbefore]
  rw [← toSlots_inj]
  exact (Slots.mk.injEq ..).mpr ⟨hdatasets, hposition⟩

/-! ## Texts -/

/-- **New texts of the active dataset** are all that changes. -/
theorem datasets_setActive (r : Registry) (b : Buffers) :
    (r.setActive b).datasets = r.before ++ ⟨r.activeName, b⟩ :: r.after := by
  show r.datasets.modify r.position _ = _
  rw [List.modify_eq_take_cons_drop r.inRange]
  rfl

/-- **What stands around the active dataset** does not depend on its texts. -/
theorem around_setActive (r : Registry) (b : Buffers) : (r.setActive b).before = r.before ∧
    (r.setActive b).active = ⟨r.activeName, b⟩ ∧ (r.setActive b).after = r.after :=
  around_of_datasets (r.datasets_setActive b) r.length_before.symm

/-- Only the last of several texts counts. -/
@[simp] theorem setActive_setActive (r : Registry) (a b : Buffers) :
    (r.setActive a).setActive b = r.setActive b := by
  obtain ⟨hbefore, -, hafter⟩ := r.around_setActive a
  obtain ⟨hbefore', hactive', hafter'⟩ := r.around_setActive b
  obtain ⟨hbefore'', hactive'', hafter''⟩ := (r.setActive a).around_setActive b
  refine ext_around (hbefore''.trans (hbefore.trans hbefore'.symm)) ?_
    (hafter''.trans (hafter.trans hafter'.symm))
  rw [hactive', hactive'', setActive_activeName]

/-- The live texts make a difference if and only if they are not the stored ones. -/
theorem datasets_setActive_eq_iff {b : Buffers} :
    (r.setActive b).datasets = r.datasets ↔ b = r.active.buffers := by
  refine ⟨fun h => ?_, fun h => by rw [h, setActive_self]⟩
  rw [datasets_setActive, r.datasets_eq] at h
  exact congrArg Dataset.buffers (List.cons.inj (List.append_cancel_left h)).1

/-! ## Places -/

namespace Slots

/-- A name has a place if and only if a dataset has it. -/
theorem isSome_place? (s : Slots) (name : String) : (s.place? name).isSome = s.contains name :=
  List.isSome_findFinIdx?

/-- **The place of a name** parts the list at the first dataset that has it. -/
theorem datasets_of_place? {i : Fin s.datasets.length} (h : s.place? name = some i) :
    ∃ xs ys, s.datasets = xs ++ s.datasets.get i :: ys ∧ s.datasets.eraseIdx i = xs ++ ys ∧
      xs.length = i.val ∧ (s.datasets.get i).name = name := by
  obtain ⟨hname, -⟩ := List.findFinIdx?_eq_some_iff.1 h
  have hdrop := List.drop_eq_getElem_cons i.isLt
  refine ⟨s.datasets.take i, s.datasets.drop (i + 1), ?_, List.eraseIdx_eq_take_drop_succ ..,
    List.length_take_of_le (Nat.le_of_lt i.isLt), beq_iff_eq.1 hname⟩
  rw [List.get_eq_getElem, ← hdrop, List.take_append_drop]

/-- **Where a name is** does not depend on texts. -/
theorem place?_setActive (s : Slots) (b : Buffers) (name : String) :
    ((s.setActive b).place? name).map Fin.val = (s.place? name).map Fin.val := by
  have hplace (ds : List Dataset) :
      ds.findIdx? (·.name == name) = (ds.map Dataset.name).findIdx? (· == name) := by
    rw [List.findIdx?_map]
    rfl
  rw [place?, place?, ← List.findIdx?_eq_map_findFinIdx?_val, ← List.findIdx?_eq_map_findFinIdx?_val,
    hplace, hplace, map_name_setActive]

end Slots

/-- The active dataset is there. -/
theorem contains_activeName (r : Registry) : r.contains r.activeName = true :=
  List.any_eq_true.2 ⟨r.active, r.active_mem_datasets, beq_self_eq_true _⟩

/-- The number of datasets does not depend on texts. -/
@[simp] theorem size_setActive (r : Registry) (b : Buffers) : (r.setActive b).size = r.size :=
  r.toSlots.datasets_length_setActive b

/-- Whether a dataset is there does not depend on texts. -/
theorem contains_setActive (r : Registry) (b : Buffers) (name : String) :
    (r.setActive b).contains name = r.contains name := by
  have hplace := congrArg Option.isSome (r.toSlots.place?_setActive b name)
  rw [Option.isSome_map, Option.isSome_map] at hplace
  rw [← Slots.isSome_place?, ← Slots.isSome_place?]
  exact hplace

/-! ## Another active dataset -/

/-- What becomes of the list when a dataset becomes active. -/
theorem switch_eq_ok_iff {live : Option Buffers} : r.switch name live = .ok r' ↔
    ∃ i, r.place? name = some i ∧ r'.toSlots = { live.elim r.toSlots r.toSlots.setActive with
      position := i } := by
  have hslots : r.switch name live = .ok r' ↔ r.toSlots.switch name live = .ok r'.toSlots := by
    rw [← toSlots_switch]
    cases r.switch name live <;> simp [Except.map, toSlots_inj]
  rw [hslots, Slots.switch]
  cases r.place? name with
  | none => simp
  | some i => simp [eq_comm]

/-- **Making a dataset active keeps the list**, with the live texts in it, and the dataset is the one
of the name. -/
theorem switch_eq_ok {live : Option Buffers} (h : r.switch name live = .ok r') :
    r'.activeName = name ∧ r'.datasets = (live.elim r r.setActive).datasets := by
  obtain ⟨i, hplace, hslots⟩ := switch_eq_ok_iff.1 h
  have hdatasets : r'.datasets = (live.elim r r.setActive).datasets := by
    rw [hslots]
    cases live <;> rfl
  have hnames : r'.names = r.names := by
    rw [names, hdatasets]
    cases live with
    | none => rfl
    | some b => exact r.setActive_names b
  refine ⟨?_, hdatasets⟩
  obtain ⟨xs, ys, hparts, -, hlength, hname⟩ := Slots.datasets_of_place? hplace
  have hactive : r'.names[r'.position]? = some r'.activeName := by
    rw [names, List.getElem?_map, getElem?_position]
    rfl
  rw [hnames, names, hparts, show r'.position = i.val by rw [hslots], ← hlength] at hactive
  have hfound : (r.datasets.get i).name = r'.activeName := by simpa using hactive
  exact hfound.symm.trans hname

/-- The fault of a change to another dataset is always the same. -/
theorem switch_eq_error {live : Option Buffers} {e : ValidationError}
    (h : r.switch name live = .error e) : e = .unknownDataset name := by
  have hslots : r.toSlots.switch name live = .error e := by
    rw [← toSlots_switch, h]
    rfl
  unfold Slots.switch at hslots
  split at hslots <;> cases hslots
  rfl

/-- **A dataset becomes active if and only if there is one with the name.** -/
theorem isOk_switch (r : Registry) (name : String) (live : Option Buffers) :
    (r.switch name live).isOk = r.contains name := by
  have hslots : (r.switch name live).isOk = (r.toSlots.switch name live).isOk := by
    rw [← toSlots_switch]
    cases r.switch name live <;> rfl
  rw [hslots, ← Slots.isSome_place?, Slots.switch]
  cases r.place? name <;> rfl

/-- **Live texts that go in when a dataset becomes active** can go in before. -/
theorem switch_live (r : Registry) (name : String) (b : Buffers) :
    r.switch name (some b) = (r.setActive b).switch name none := by
  cases hswitch : (r.setActive b).switch name none with
  | error e =>
    have hknown := isOk_switch r name (some b)
    rw [← contains_setActive r b, ← isOk_switch (r.setActive b) name none, hswitch] at hknown
    cases hlive : r.switch name (some b) with
    | error e' => rw [switch_eq_error hlive, switch_eq_error hswitch]
    | ok r' =>
      rw [hlive] at hknown
      cases hknown
  | ok r' =>
    obtain ⟨j, hj, hslots⟩ := switch_eq_ok_iff.1 hswitch
    have hplace : (r.place? name).map Fin.val = some j.val :=
      (r.toSlots.place?_setActive b name).symm.trans (congrArg (Option.map Fin.val) hj)
    obtain ⟨i, hi, hij⟩ := Option.map_eq_some_iff.1 hplace
    refine switch_eq_ok_iff.2 ⟨i, hi, ?_⟩
    rw [hslots, hij]
    rfl

/-! ## One dataset less -/

/-- **The dataset of a place is found in the shifted one**, unless it has been removed. -/
theorem getElem?_eraseIdx_shift (ds : List Dataset) {removed active : Nat}
    (h : removed ≠ active) : (ds.eraseIdx removed)[shift removed active]? = ds[active]? := by
  rw [shift, if_neg h, List.getElem?_eraseIdx]
  split
  · next hbefore =>
    rw [if_neg (by omega)]
    congr 1
    omega
  · next hbehind =>
    rw [if_pos (by omega)]

/-- What a removal is on slots. -/
theorem remove_eq_ok_iff {x : Removal × Registry} : r.remove name = .ok x ↔
    ∃ i, r.place? name = some i ∧ r.size ≠ 1 ∧
      x.1 = ⟨r.datasets.get i, i.val = r.position⟩ ∧
      x.2.toSlots = ⟨r.datasets.eraseIdx i, shift i r.position⟩ := by
  have hslots : r.remove name = .ok x ↔ r.toSlots.remove name = .ok (x.1, x.2.toSlots) := by
    rw [← toSlots_remove]
    cases r.remove name <;> simp [Except.map, toSlots_inj, Prod.ext_iff]
  rw [hslots, Slots.remove, size]
  cases r.place? name with
  | none => simp
  | some i =>
    by_cases hone : r.datasets.length = 1
    · simp [hone]
    · simp [hone, eq_comm]

/-- The only dataset is the active one. -/
theorem get_eq_active (hone : r.size = 1) (i : Fin r.datasets.length) :
    r.datasets.get i = r.active := by
  have hi := i.isLt
  have hposition := r.inRange
  rw [size] at hone
  exact congrArg r.datasets.get (Fin.ext (show i.val = r.position by omega))

/-- **A dataset cannot be removed if and only if there is none with the name, or no other.** -/
theorem remove_eq_error_iff {e : ValidationError} :
    r.remove name = .error e ↔ (r.contains name = false ∧ e = .unknownDataset name) ∨
      (r.size = 1 ∧ r.activeName = name ∧ e = .lastDataset) := by
  have hslots : r.remove name = .error e ↔ r.toSlots.remove name = .error e := by
    rw [← toSlots_remove]
    cases r.remove name <;> simp [Except.map]
  have hcontains := Slots.isSome_place? r.toSlots name
  rw [hslots, Slots.remove]
  cases hplace : r.place? name with
  | none =>
    rw [hplace] at hcontains
    have hother : r.activeName ≠ name := fun h =>
      List.any_eq_false.1 hcontains.symm _ r.active_mem_datasets (beq_iff_eq.2 h)
    simp [← hcontains, hother, eq_comm]
  | some i =>
    rw [hplace] at hcontains
    obtain ⟨-, -, -, -, -, hname⟩ := Slots.datasets_of_place? hplace
    by_cases hone : r.size = 1
    · rw [get_eq_active hone] at hname
      have hlength : r.datasets.length = 1 := hone
      simp [← hcontains, hlength, hone, activeName, hname, eq_comm]
    · have hlength : r.datasets.length ≠ 1 := hone
      simp [← hcontains, hlength, hone]

/-- **Everything that a removal changes**: one dataset leaves the list, and another one is active
only if that was the active one. -/
theorem datasets_of_remove {changed : Bool} (h : r.remove name = .ok (⟨d, changed⟩, r')) :
    ∃ xs ys, r.datasets = xs ++ d :: ys ∧ r'.datasets = xs ++ ys ∧ d.name = name ∧
      ((changed = true ∧ name = r.activeName ∧ r'.before = []) ∨
        (changed = false ∧ r'.active = r.active ∧ r.active ∈ xs ++ ys)) := by
  obtain ⟨i, hplace, -, hremoval, hslots⟩ := remove_eq_ok_iff.1 h
  obtain ⟨xs, ys, hparts, hrest, -, hname⟩ := Slots.datasets_of_place? hplace
  obtain ⟨rfl, rfl⟩ := Removal.mk.inj hremoval
  have hdatasets : r'.datasets = r.datasets.eraseIdx i := by rw [hslots]
  have hposition : r'.position = shift i r.position := by rw [hslots]
  refine ⟨xs, ys, hparts, hdatasets.trans hrest, hname, ?_⟩
  by_cases hactive : i.val = r.position
  · -- The place starts again at the first dataset.
    have hself : r.datasets.get i = r.active := congrArg r.datasets.get (Fin.ext hactive)
    refine .inl ⟨decide_eq_true hactive, (hself ▸ hname).symm, ?_⟩
    rw [before, hposition, shift, if_pos hactive, List.take_zero]
  · -- The place has moved with the active dataset.
    have hfound := getElem?_eraseIdx_shift r.datasets hactive
    rw [← hposition, ← hdatasets, getElem?_position, getElem?_position] at hfound
    have hsame := Option.some.inj hfound
    refine .inr ⟨decide_eq_false hactive, hsame, ?_⟩
    rw [← hsame, ← hrest, ← hdatasets]
    exact r'.active_mem_datasets

/-- A dataset is taken out of a list before or after the texts of another one are replaced, in the
place that it then has. -/
theorem Slots.eraseIdx_setActive (s : Slots) (b : Buffers) {i : Nat} (h : s.position ≠ i) :
    (⟨(s.setActive b).datasets.eraseIdx i, shift i s.position⟩ : Slots) =
      Slots.setActive ⟨s.datasets.eraseIdx i, shift i s.position⟩ b := by
  refine (Slots.mk.injEq ..).mpr ⟨?_, rfl⟩
  show (s.datasets.modify s.position _).eraseIdx i =
    (s.datasets.eraseIdx i).modify (shift i s.position) _
  rw [shift, if_neg (Ne.symm h)]
  split
  · next hbefore => rw [List.eraseIdx_modify_of_lt _ _ _ _ hbefore]
  · next hbehind => rw [List.eraseIdx_modify_of_gt _ _ _ _ (by omega)]

/-- **Texts of the active dataset can be replaced before or after another one is removed.** -/
theorem remove_setActive (b : Buffers) (h : name ≠ r.activeName) :
    (r.setActive b).remove name = (r.remove name).map fun x => (x.1, x.2.setActive b) := by
  cases hremove : r.remove name with
  | error e =>
    show _ = Except.error e
    rw [remove_eq_error_iff, contains_setActive, size_setActive, setActive_activeName]
    exact remove_eq_error_iff.1 hremove
  | ok x =>
    obtain ⟨i, hplace, hmore, hremoval, hslots⟩ := remove_eq_ok_iff.1 hremove
    obtain ⟨-, -, -, -, -, hname⟩ := Slots.datasets_of_place? hplace
    have hother : r.position ≠ i.val := by
      intro hactive
      have hself : r.datasets.get i = r.active := congrArg r.datasets.get (Fin.ext hactive.symm)
      exact h (by rw [← hname, hself, activeName])
    have hplace' := r.toSlots.place?_setActive b name
    rw [hplace, Option.map_some, Option.map_eq_some_iff] at hplace'
    obtain ⟨j, hj, hji⟩ := hplace'
    have hget : (r.setActive b).datasets.get j = r.datasets.get i := by
      have hne : r.position ≠ j.val := hji ▸ hother
      show (r.datasets.modify r.position _)[j.val] = r.datasets[i.val]
      rw [List.getElem_modify_ne _ _ hne]
      simp only [hji]
    refine remove_eq_ok_iff.2 ⟨j, hj, (r.size_setActive b).symm ▸ hmore, ?_, ?_⟩
    · rw [hremoval, hget, hji]
      rfl
    · rw [toSlots_setActive, hslots, hji]
      exact (Slots.eraseIdx_setActive r.toSlots b hother).symm

/-! ## One dataset more -/

/-- What becomes of the list when a dataset is added. -/
theorem add_eq_ok_iff : r.add name = .ok r' ↔
    Dataset.isValidName name = true ∧ r.contains name = false ∧
      r'.toSlots = { r.toSlots with datasets := r.datasets ++ [⟨name, {}⟩] } := by
  have hslots : r.add name = .ok r' ↔ r.toSlots.add name = .ok r'.toSlots := by
    rw [← toSlots_add]
    cases r.add name <;> simp [Except.map, toSlots_inj]
  rw [hslots, Slots.add]
  cases Dataset.isValidName name <;> cases r.contains name <;> simp [eq_comm]

/-- A dataset that is added is the last one. -/
theorem datasets_of_add (h : r.add name = .ok r') : r'.datasets = r.datasets ++ [⟨name, {}⟩] := by
  rw [(add_eq_ok_iff.1 h).2.2]

/-- It stands behind the active one, which stays. -/
theorem around_of_add (h : r.add name = .ok r') : r'.before = r.before ∧ r'.active = r.active ∧
    r'.after = r.after ++ [⟨name, {}⟩] := by
  have hposition : r'.position = r.position := by rw [(add_eq_ok_iff.1 h).2.2]
  refine around_of_datasets ?_ (hposition.trans r.length_before.symm)
  rw [datasets_of_add h, r.datasets_eq, List.append_assoc]
  rfl

/-- A dataset that has been added is there. -/
theorem contains_of_add (h : r.add name = .ok r') : r'.contains name = true := by
  rw [Slots.contains, datasets_of_add h]
  simp

/-- **A dataset cannot be added if and only if its name is not valid or taken.** -/
theorem add_eq_error_iff {e : ValidationError} : r.add name = .error e ↔
    (Dataset.isValidName name = false ∧ e = .invalidName name) ∨
      (Dataset.isValidName name = true ∧ r.contains name = true ∧ e = .duplicateName name) := by
  have hslots : r.add name = .error e ↔ r.toSlots.add name = .error e := by
    rw [← toSlots_add]
    cases r.add name <;> simp [Except.map]
  rw [hslots, Slots.add]
  cases Dataset.isValidName name <;> cases r.contains name <;> simp [eq_comm]

/-- **Texts of the active dataset can be replaced before or after another one is added.** -/
theorem add_setActive (r : Registry) (b : Buffers) (name : String) :
    (r.setActive b).add name = (r.add name).map (·.setActive b) := by
  cases hadd : r.add name with
  | error e =>
    show _ = Except.error e
    rw [add_eq_error_iff, contains_setActive]
    exact add_eq_error_iff.1 hadd
  | ok r' =>
    obtain ⟨hvalid, hnew, hslots⟩ := add_eq_ok_iff.1 hadd
    refine add_eq_ok_iff.2 ⟨hvalid, contains_setActive r b name ▸ hnew, ?_⟩
    obtain ⟨hbefore, hactive, hafter⟩ := around_of_add hadd
    refine (Slots.mk.injEq ..).mpr ⟨?_, show r'.position = r.position by rw [hslots]⟩
    show (r'.setActive b).datasets = (r.setActive b).datasets ++ [⟨name, {}⟩]
    rw [datasets_setActive, datasets_setActive, hbefore, hafter, activeName, hactive]
    simp [activeName]

end TemplateShare.Registry
