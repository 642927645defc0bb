import TemplateShare.Dataset
import TemplateShare.Error

/-! # Registries of datasets

A registry is an ordered list of datasets of which one is active. The active one is kept as its
place in the list, counted from zero, so that a removal in front of it moves the place.

* **`Registry.Slots`**: a list and a place, with the operations by name: **`Slots.add`**,
  **`Slots.remove`**, **`Slots.switch`** and **`Slots.set`**. An operation that fails changes
  nothing.
* **`Registry`**: slots whose place is one of the list. Each operation keeps it so.
* **`Registry.ofDatasets`**: a registry from a list.
* **`Registry.WellFormed`**: all names are valid and no two are equal. -/

namespace TemplateShare

/-! ## A list and a place -/

/-- **Datasets in order and a place among them.** Nothing says that there is a dataset in the
place. -/
structure Registry.Slots where
  datasets : List Dataset
  position : Nat
deriving DecidableEq, Repr

/-- The result of removing a dataset: what was removed, and whether another one is active now. -/
structure Registry.Removal where
  dataset : Dataset
  activeChanged : Bool
deriving DecidableEq, Repr

namespace Registry

/-- Replace the texts of the first dataset with a name in a list. -/
def setIn (name : String) (b : Buffers) : List Dataset → List Dataset
  | [] => []
  | d :: ds => if d.name = name then { d with buffers := b } :: ds else d :: setIn name b ds

/-- Whether the datasets may follow those named so far: the first fault counts. -/
def check (seen : List String) : List Dataset → Except ValidationError Unit
  | [] => .ok ()
  | d :: ds =>
    if !Dataset.isValidName d.name then .error (.invalidName d.name)
    else if seen.contains d.name then .error (.duplicateName d.name)
    else check (seen ++ [d.name]) ds

/-- **Where the active dataset stands after a removal.** It moves up with the rest, and the first
one takes over from it where it is removed itself. -/
def shift (removed active : Nat) : Nat :=
  if removed = active then 0 else if removed < active then active - 1 else active

namespace Slots

/-- **The place is that of a dataset.** -/
@[reducible] def InRange (s : Slots) : Prop := s.position < s.datasets.length

/-- Whether a dataset has the name. -/
def contains (s : Slots) (name : String) : Bool := s.datasets.any (·.name == name)

/-- The place of the first dataset with a name. -/
def place? (s : Slots) (name : String) : Option (Fin s.datasets.length) :=
  s.datasets.findFinIdx? (·.name == name)

/-- Replace the texts of the active dataset. -/
def setActive (s : Slots) (b : Buffers) : Slots :=
  { s with datasets := s.datasets.modify s.position fun d => { d with buffers := b } }

/-- **Replace the texts of a dataset.** An unknown name changes nothing. -/
def set (s : Slots) (name : String) (b : Buffers) : Slots :=
  { s with datasets := setIn name b s.datasets }

/-- **Add a blank dataset** at the end. The active dataset stays. -/
def add (s : Slots) (name : String) : Except ValidationError Slots :=
  if !Dataset.isValidName name then .error (.invalidName name)
  else if s.contains name then .error (.duplicateName name)
  else .ok { s with datasets := s.datasets ++ [⟨name, {}⟩] }

/-- **Remove a dataset**, which may not be the last one. Where it was active, the first of the
rest becomes active. -/
def remove (s : Slots) (name : String) : Except ValidationError (Removal × Slots) :=
  match s.place? name with
  | none => .error (.unknownDataset name)
  | some i =>
    if s.datasets.length = 1 then .error .lastDataset
    else .ok (⟨s.datasets.get i, i.val = s.position⟩,
      ⟨s.datasets.eraseIdx i, shift i s.position⟩)

/-- **Make a dataset active.** With `live`, the texts of the dataset that was active so far are
replaced first. -/
def switch (s : Slots) (name : String) (live : Option Buffers) : Except ValidationError Slots :=
  match s.place? name with
  | none => .error (.unknownDataset name)
  | some i => .ok { live.elim s s.setActive with position := i }

/-- **Datasets in order**, the first of which is active. -/
def ofDatasets (ds : List Dataset) : Except ValidationError Slots :=
  if ds.isEmpty then .error .lastDataset else (check [] ds).map fun () => ⟨ds, 0⟩

/-! ### The place stays in range -/

@[simp] theorem datasets_length_setActive (s : Slots) (b : Buffers) :
    (s.setActive b).datasets.length = s.datasets.length := List.length_modify ..

/-- The names in order do not depend on texts. -/
theorem map_name_setActive (s : Slots) (b : Buffers) :
    (s.setActive b).datasets.map Dataset.name = s.datasets.map Dataset.name := by
  apply List.ext_getElem?
  intro i
  simp only [setActive, List.getElem?_map, List.getElem?_modify]
  cases s.datasets[i]? with
  | none => rfl
  | some d =>
    dsimp only [Option.map_some]
    split <;> rfl

/-- The length of a list does not depend on texts. -/
theorem length_setIn (name : String) (b : Buffers) (ds : List Dataset) :
    (setIn name b ds).length = ds.length := by
  induction ds with
  | nil => rfl
  | cons d ds ih =>
    rw [setIn]
    split
    · rfl
    · rw [List.length_cons, ih, List.length_cons]

variable {s s' : Slots} {name : String}

/-- New texts of the active dataset keep the place. -/
theorem InRange.setActive (h : s.InRange) (b : Buffers) : (s.setActive b).InRange := by
  rw [InRange, datasets_length_setActive]
  exact h

/-- New texts keep the place. -/
theorem InRange.set (h : s.InRange) (name : String) (b : Buffers) : (s.set name b).InRange := by
  unfold InRange Slots.set
  rw [length_setIn]
  exact h

/-- A longer list has the place as well. -/
theorem InRange.add (h : s.InRange) (hadd : s.add name = .ok s') : s'.InRange := by
  unfold Slots.add at hadd
  split at hadd
  · cases hadd
  · split at hadd <;> cases hadd
    exact Nat.lt_of_lt_of_le h (by simp)

/-- **A removal moves the place with its dataset**, so that it does not get behind the end. -/
theorem shift_lt {removed active n : Nat} (hremoved : removed < n) (hactive : active < n)
    (hn : n ≠ 1) : shift removed active < n - 1 := by
  unfold shift
  split
  · omega
  · split <;> omega

/-- What is left has the place that is left. -/
theorem InRange.remove (h : s.InRange) {removal : Removal}
    (hremove : s.remove name = .ok (removal, s')) : s'.InRange := by
  unfold Slots.remove at hremove
  split at hremove
  · cases hremove
  · next i _ =>
    split at hremove <;> cases hremove
    next hmore =>
    rw [InRange, List.length_eraseIdx_of_lt i.isLt]
    exact shift_lt i.isLt h hmore

/-- The place of a dataset that was found is one of the list. -/
theorem InRange.switch {live : Option Buffers} (hswitch : s.switch name live = .ok s') :
    s'.InRange := by
  unfold Slots.switch at hswitch
  split at hswitch <;> cases hswitch
  next i _ =>
  cases live with
  | none => exact i.isLt
  | some b => exact Nat.lt_of_lt_of_eq i.isLt (datasets_length_setActive s b).symm

/-- A list that is not empty has a first place. -/
theorem InRange.ofDatasets {ds : List Dataset} (h : Slots.ofDatasets ds = .ok s) : s.InRange := by
  unfold Slots.ofDatasets at h
  cases ds with
  | nil => cases h
  | cons d ds =>
    rw [if_neg (by simp)] at h
    cases hcheck : check [] (d :: ds) <;> rw [hcheck] at h <;> cases h
    exact Nat.zero_lt_succ _

end Slots

end Registry

/-! ## Registries -/

/-- **A registry**: datasets in order, and the place of one of them, the active one. -/
structure Registry extends Registry.Slots where
  inRange : toSlots.InRange
deriving DecidableEq, Repr

namespace Registry

/-! ## Views -/

/-- Datasets of which the first one is active. -/
def first (d : Dataset) (ds : List Dataset) : Registry := ⟨⟨d :: ds, 0⟩, Nat.zero_lt_succ _⟩

/-- A new registry holds one blank dataset with the default name. -/
def initial : Registry := first ⟨Dataset.defaultName, {}⟩ []

instance : Inhabited Registry := ⟨initial⟩

/-- **The active dataset.** There is one in its place. -/
def active (r : Registry) : Dataset := r.datasets.get ⟨r.position, r.inRange⟩

/-- The names in order. -/
def names (r : Registry) : List String := r.datasets.map Dataset.name

/-- The name of the active dataset. -/
def activeName (r : Registry) : String := r.active.name

/-- The number of datasets. -/
def size (r : Registry) : Nat := r.datasets.length

/-- The first dataset with a name. -/
def find? (r : Registry) (name : String) : Option Dataset := r.datasets.find? (·.name == name)

/-- Whether there is a choice of datasets, so that one may be selected or deleted. -/
def hasChoice (r : Registry) : Bool := 1 < r.size

/-- **Well-formed registries**: every name is valid, and no two datasets share one. -/
def WellFormed (r : Registry) : Prop :=
  (∀ n ∈ r.names, Dataset.isValidName n = true) ∧ r.names.Nodup

instance (r : Registry) : Decidable r.WellFormed := by unfold WellFormed; infer_instance

@[simp] theorem datasets_ne_nil (r : Registry) : r.datasets ≠ [] :=
  List.ne_nil_of_length_pos (Nat.zero_lt_of_lt r.inRange)

@[simp] theorem datasets_first (d : Dataset) (ds : List Dataset) :
    (first d ds).datasets = d :: ds := rfl

@[simp] theorem active_first (d : Dataset) (ds : List Dataset) : (first d ds).active = d := rfl

@[simp] theorem datasets_initial : initial.datasets = [⟨Dataset.defaultName, {}⟩] := rfl

@[simp] theorem names_initial : initial.names = [Dataset.defaultName] := rfl

theorem active_mem_datasets (r : Registry) : r.active ∈ r.datasets := List.get_mem ..

/-- A registry is nothing but its slots. -/
theorem toSlots_inj {r r' : Registry} : r.toSlots = r'.toSlots ↔ r = r' := by
  refine ⟨fun h => ?_, congrArg _⟩
  obtain ⟨s, hs⟩ := r
  obtain ⟨s', hs'⟩ := r'
  cases h
  rfl

/-! ## Changing datasets -/

/-- **A result that is one of a registry**, since the place is in range where it succeeds. -/
def guarded {α β : Type} (x : Except ValidationError α) (p : α → Prop)
    (h : ∀ a, x = .ok a → p a) (f : (a : α) → p a → β) : Except ValidationError β :=
  match x, h with
  | .error e, _ => .error e
  | .ok a, h => .ok (f a (h a rfl))

/-- It is the result that it was. -/
theorem map_guarded {α β : Type} {x : Except ValidationError α} {p : α → Prop}
    (h : ∀ a, x = .ok a → p a) {f : (a : α) → p a → β} {g : β → α}
    (hg : ∀ a ha, g (f a ha) = a) : (guarded x p h f).map g = x := by
  unfold guarded
  split
  · rfl
  · exact congrArg Except.ok (hg _ _)

/-- Replace the texts of the active dataset. -/
def setActive (r : Registry) (b : Buffers) : Registry :=
  ⟨r.toSlots.setActive b, r.inRange.setActive b⟩

/-- **Replace the texts of a dataset.** An unknown name changes nothing. -/
def set (r : Registry) (name : String) (b : Buffers) : Registry :=
  ⟨r.toSlots.set name b, r.inRange.set name b⟩

/-- **Add a blank dataset** at the end. The active dataset stays. -/
def add (r : Registry) (name : String) : Except ValidationError Registry :=
  guarded (r.toSlots.add name) Slots.InRange (fun _ h => r.inRange.add h) fun s h => ⟨s, h⟩

/-- **Remove a dataset**, which may not be the last one. Where it was active, the first of the
rest becomes active. -/
def remove (r : Registry) (name : String) : Except ValidationError (Removal × Registry) :=
  guarded (r.toSlots.remove name) (fun x => x.2.InRange) (fun _ h => r.inRange.remove h)
    fun x h => (x.1, ⟨x.2, h⟩)

/-- **Make a dataset active.** With `live`, the texts of the dataset that was active so far are
replaced first. -/
def switch (r : Registry) (name : String) (live : Option Buffers) :
    Except ValidationError Registry :=
  guarded (r.toSlots.switch name live) Slots.InRange (fun _ h => .switch h) fun s h => ⟨s, h⟩

/-- **A registry from datasets in order**, the first of which is active. -/
def ofDatasets (ds : List Dataset) : Except ValidationError Registry :=
  guarded (Slots.ofDatasets ds) Slots.InRange (fun _ h => .ofDatasets h) fun s h => ⟨s, h⟩

variable (r : Registry) (name : String)

@[simp] theorem toSlots_setActive (b : Buffers) :
    (r.setActive b).toSlots = r.toSlots.setActive b := rfl

@[simp] theorem toSlots_set (b : Buffers) : (r.set name b).toSlots = r.toSlots.set name b := rfl

@[simp] theorem setActive_names (b : Buffers) : (r.setActive b).names = r.names :=
  r.toSlots.map_name_setActive b

@[simp] theorem setActive_active (b : Buffers) : (r.setActive b).active = ⟨r.active.name, b⟩ :=
  List.getElem_modify_eq _ _ _ _

@[simp] theorem setActive_activeName (b : Buffers) : (r.setActive b).activeName = r.activeName := by
  rw [activeName, setActive_active, activeName]

/-- Stored texts of the active dataset make no difference. -/
theorem setActive_self : r.setActive r.active.buffers = r := by
  rw [← toSlots_inj]
  refine (Slots.mk.injEq ..).mpr ⟨?_, rfl⟩
  apply List.ext_getElem?
  intro i
  rw [List.getElem?_modify]
  split
  · next hi =>
    rw [← hi, List.getElem?_eq_getElem r.inRange]
    rfl
  · simp

/-- The slots after a dataset has been added. -/
theorem toSlots_add : (r.add name).map toSlots = r.toSlots.add name :=
  map_guarded _ fun _ _ => rfl

/-- The slots after a dataset has been removed. -/
theorem toSlots_remove :
    (r.remove name).map (fun x => (x.1, x.2.toSlots)) = r.toSlots.remove name :=
  map_guarded _ fun _ _ => rfl

/-- The slots after a dataset has become active. -/
theorem toSlots_switch (live : Option Buffers) :
    (r.switch name live).map toSlots = r.toSlots.switch name live :=
  map_guarded _ fun _ _ => rfl

/-- The slots of a list. -/
theorem toSlots_ofDatasets (ds : List Dataset) :
    (ofDatasets ds).map toSlots = Slots.ofDatasets ds :=
  map_guarded _ fun _ _ => rfl

/-- A registry with one valid name is well formed. -/
theorem wellFormed_initial : initial.WellFormed := by
  decide

end Registry

end TemplateShare
