import TemplateShare.Proofs.Command.Careful
import TemplateShare.Proofs.Registry.Catalog

/-! # Registries under any operations

Wherever a registry comes from, and whatever is done with it, its names follow the pattern and are
different, the place of its active dataset is one of the list, and it stands for the catalog that
the same operations lead to. Documents from outside are no exception, since each of them is read
into a registry by the same check.

The operations are those on a list and a place, which have no result where they would look at a
place that holds no dataset. That this never happens is part of what is proved.

* **`Dataset.MatchesPattern`** — the pattern of a name, letter by letter.
* **`Slots.apply`**, **`Registry.apply`**, **`Catalog.apply`** — the operations with what they
  answer, on a list and a place, on registries and on catalogs.
* **`Registry.apply_toSlots`**, **`Registry.apply_catalog`** — one operation.
* **`Slots.WellFormed.next`**, **`Slots.WellFormed.run`** — what one operation and operations in a
  row preserve.
* **`Registry.Obtained`** — where a registry comes from.
* **`Registry.refines_catalog`** — every registry that is obtained, after any operations. -/

namespace TemplateShare

/-- A result that is reshaped is that of a success. -/
theorem Except.map_eq_ok {ε α β : Type} {x : Except ε α} {f : α → β} {b : β} :
    x.map f = .ok b ↔ ∃ a, x = .ok a ∧ f a = b := by
  cases x with
  | error e => simp [Except.map]
  | ok a => simp [Except.map]

/-! ## Names -/

namespace Dataset

/-- An ASCII letter. -/
def IsLetter (c : Char) : Prop := ('A' ≤ c ∧ c ≤ 'Z') ∨ ('a' ≤ c ∧ c ≤ 'z')

/-- An ASCII digit. -/
def IsDigit (c : Char) : Prop := '0' ≤ c ∧ c ≤ '9'

/-- **The pattern of a name**, `^[A-Za-z][A-Za-z0-9_ -]*$`. -/
def MatchesPattern (name : String) : Prop :=
  ∃ c cs, name.toList = c :: cs ∧ IsLetter c ∧
    ∀ x ∈ cs, IsLetter x ∨ IsDigit x ∨ x = '_' ∨ x = ' ' ∨ x = '-'

/-- A letter is one of the alphabet. -/
theorem isAlpha_iff {c : Char} : c.isAlpha = true ↔ IsLetter c := by
  delta Char.isAlpha Char.isUpper Char.isLower
  simp [IsLetter, Char.le_def, UInt32.le_iff_toNat_le]

/-- A letter or a digit. -/
theorem isAlphanum_iff {c : Char} : c.isAlphanum = true ↔ IsLetter c ∨ IsDigit c := by
  rw [Char.isAlphanum, Bool.or_eq_true, isAlpha_iff]
  simp [IsDigit, Char.isDigit, Char.le_def, UInt32.le_iff_toNat_le]

/-- **A name is valid if and only if it follows the pattern.** -/
theorem isValidName_iff {name : String} : isValidName name = true ↔ MatchesPattern name := by
  unfold isValidName MatchesPattern
  cases name.toList with
  | nil => simp
  | cons c cs =>
    simp only [Bool.and_eq_true, isAlpha_iff, List.all_eq_true, Bool.or_eq_true, isAlphanum_iff,
      beq_iff_eq, or_assoc, List.cons.injEq]
    constructor
    · rintro ⟨hc, hcs⟩
      exact ⟨c, cs, ⟨rfl, rfl⟩, hc, hcs⟩
    · rintro ⟨_, _, ⟨rfl, rfl⟩, hc, hcs⟩
      exact ⟨hc, hcs⟩

end Dataset

/-! ## Operations -/

namespace Registry

/-- **An operation on a registry.** With `live`, the texts of the dataset that was active are
replaced when another one becomes active. -/
inductive Operation where
  | add (name : String)
  | remove (name : String)
  | switch (name : String) (live : Option Buffers)
  | write (name : String) (texts : Buffers)
deriving DecidableEq, Repr

/-- **What an operation answers**: the dataset that was added or removed, the texts that are active
now, or whether there was a dataset to write to. -/
inductive Answer where
  | added (d : Dataset)
  | removed (removal : Removal)
  | switched (texts : Buffers)
  | written (known : Bool)
deriving DecidableEq, Repr

namespace Slots

/-- The names in order. -/
def names (s : Slots) : List String := s.datasets.map Dataset.name

/-- The dataset in the place, if there is one. -/
def active? (s : Slots) : Option Dataset := s.datasets[s.position]?

/-- **What a success answers** is read off the slots after it, and there is no result where that
would look at a dataset that is not there. -/
def answered (x : Except ValidationError Slots) (read : Slots → Option Answer) :
    Option (Except ValidationError (Answer × Slots)) :=
  match x with
  | .error e => some (.error e)
  | .ok s => (read s).map fun answer => .ok (answer, s)

/-- **Carry out an operation on a list and a place.** The last dataset is looked at after one has
been added, and the active one before live texts go to it and after another one has become
active. -/
def apply (s : Slots) : Operation → Option (Except ValidationError (Answer × Slots))
  | .add name => answered (s.add name) fun s' => s'.datasets.getLast?.map .added
  | .remove name => some ((s.remove name).map fun x => (.removed x.1, x.2))
  | .switch name live => answered (s.switch name live) fun s' =>
    if live.isSome && s.active?.isNone then none else s'.active?.map fun d => .switched d.buffers
  | .write name texts => some (.ok (.written (s.contains name), s.set name texts))

/-- The slots after an operation; one that fails changes nothing. -/
def next (s : Slots) (op : Operation) : Option Slots :=
  (s.apply op).map fun
    | .ok x => x.2
    | .error _ => s

/-- **The slots after operations in a row**, each of which has a result. -/
def run (s : Slots) (ops : List Operation) : Option Slots := ops.foldlM next s

/-- **Well-formed slots**: the place is one of the list, every name is valid, and no two datasets
share one. -/
structure WellFormed (s : Slots) : Prop where
  inRange : s.InRange
  valid : ∀ n ∈ s.names, Dataset.isValidName n = true
  nodup : s.names.Nodup

/-- **What slots stand for**, if there is a dataset in their place. -/
def catalog? (s : Slots) : Option Catalog := s.active?.map fun d => ⟨s.datasets, d.name⟩

end Slots

/-- **Carry out an operation.** -/
def apply (r : Registry) : Operation → Except ValidationError (Answer × Registry)
  | .add name => (r.add name).map fun r' => (.added (r'.datasets.getLast r'.datasets_ne_nil), r')
  | .remove name => (r.remove name).map fun x => (.removed x.1, x.2)
  | .switch name live => (r.switch name live).map fun r' => (.switched r'.active.buffers, r')
  | .write name texts => .ok (.written (r.contains name), r.set name texts)

/-- The registry after an operation; one that fails changes nothing. -/
def next (r : Registry) (op : Operation) : Registry :=
  match r.apply op with
  | .ok x => x.2
  | .error _ => r

/-- **The registry after operations in a row.** -/
def run (r : Registry) (ops : List Operation) : Registry := ops.foldl next r

end Registry

namespace Catalog

open Registry (Operation Answer)

/-- **Carry out an operation on a catalog.** -/
def apply (c : Catalog) : Operation → Except ValidationError (Answer × Catalog)
  | .add name => (c.add name).map fun c' => (.added ⟨name, {}⟩, c')
  | .remove name => (c.remove name).map fun x => (.removed x.1, x.2)
  | .switch name live =>
    ((live.elim c fun b => c.edit c.active fun _ => b).activate name).map fun c' =>
      (.switched ((c'.find? name).elim {} (·.buffers)), c')
  | .write name texts => .ok (.written (c.find? name).isSome, c.edit name fun _ => texts)

/-- The catalog after an operation; one that fails changes nothing. -/
def next (c : Catalog) (op : Operation) : Catalog :=
  match c.apply op with
  | .ok x => x.2
  | .error _ => c

/-- **The catalog after operations in a row.** -/
def run (c : Catalog) (ops : List Operation) : Catalog := ops.foldl next c

end Catalog

namespace Registry

variable {r r' : Registry} {name : String} {ds : List Dataset}

/-- **One operation on a registry is one on its catalog**, with the same answer or the same fault. -/
theorem apply_catalog (h : r.WellFormed) (op : Operation) :
    (r.apply op).map (fun x => (x.1, x.2.catalog)) = r.catalog.apply op := by
  cases op with
  | add name =>
    rw [apply, Catalog.apply, ← catalog_add]
    cases hadd : r.add name with
    | error e => rfl
    | ok r' => simp [Except.map, datasets_of_add hadd]
  | remove name =>
    rw [apply, Catalog.apply, ← catalog_remove h]
    cases r.remove name <;> rfl
  | switch name live =>
    rw [apply, Catalog.apply, catalog_active, ← catalog_switch h]
    cases hswitch : r.switch name live with
    | error e => rfl
    | ok r' =>
      have hfind := find?_activeName (wellFormed_switch h hswitch)
      rw [(switch_eq_ok hswitch).1] at hfind
      simp only [Except.map, hfind, Option.elim]
  | write name texts =>
    rw [apply, Catalog.apply, isSome_find?_catalog, ← catalog_set h]
    rfl

/-- New texts keep all names. -/
theorem wellFormed_set (h : r.WellFormed) (name : String) (b : Buffers) :
    (r.set name b).WellFormed := by
  have hdatasets : (r.set name b).datasets = r.datasets.map (.edit name fun _ => b) :=
    congrArg Catalog.entries (catalog_set h name b)
  have hnames : (r.set name b).names = r.names := by
    rw [names, hdatasets, List.map_map]
    exact List.map_congr_left fun d _ => d.name_edit name _
  exact wellFormed_of_sublist (hnames ▸ List.Sublist.refl _) h

/-- **An operation keeps a registry well-formed.** -/
theorem wellFormed_next (h : r.WellFormed) (op : Operation) : (r.next op).WellFormed := by
  unfold next
  split
  · next answer r' happly =>
    cases op with
    | add name =>
      obtain ⟨x, hadd, hx⟩ := Except.map_eq_ok.1 happly
      cases hx
      exact wellFormed_add h hadd
    | remove name =>
      obtain ⟨x, hremove, hx⟩ := Except.map_eq_ok.1 happly
      cases hx
      exact wellFormed_remove h hremove
    | switch name live =>
      obtain ⟨x, hswitch, hx⟩ := Except.map_eq_ok.1 happly
      cases hx
      exact wellFormed_switch h hswitch
    | write name texts =>
      cases happly
      exact wellFormed_set h name texts
  · exact h

/-- The registry after an operation stands for the catalog after it. -/
theorem catalog_next (h : r.WellFormed) (op : Operation) :
    (r.next op).catalog = r.catalog.next op := by
  rw [Catalog.next, ← apply_catalog h, next]
  cases r.apply op <;> rfl

/-! ## Lists and places -/

@[simp] theorem active?_toSlots (r : Registry) : r.toSlots.active? = some r.active :=
  r.getElem?_position

@[simp] theorem catalog?_toSlots (r : Registry) : r.toSlots.catalog? = some r.catalog := by
  rw [Slots.catalog?, active?_toSlots]
  rfl

/-- **One operation on a list and a place that is one of it** has a result, which is that on the
registry. -/
theorem apply_toSlots (r : Registry) (op : Operation) :
    r.toSlots.apply op = some ((r.apply op).map fun x => (x.1, x.2.toSlots)) := by
  cases op with
  | add name =>
    rw [Slots.apply, apply, ← toSlots_add]
    cases r.add name with
    | error e => rfl
    | ok r' => simp [Except.map, Slots.answered, List.getLast?_eq_some_getLast r'.datasets_ne_nil]
  | remove name =>
    rw [Slots.apply, apply, ← toSlots_remove]
    cases r.remove name <;> rfl
  | switch name live =>
    rw [Slots.apply, apply, ← toSlots_switch, active?_toSlots]
    cases r.switch name live with
    | error e => rfl
    | ok r' => simp [Except.map, Slots.answered]
  | write name texts => rfl

/-- The slots after an operation are those of the registry after it. -/
theorem next_toSlots (r : Registry) (op : Operation) :
    r.toSlots.next op = some (r.next op).toSlots := by
  rw [Slots.next, apply_toSlots, next]
  cases r.apply op <;> rfl

/-- The slots after operations in a row are those of the registry after them. -/
theorem run_toSlots (r : Registry) (ops : List Operation) :
    r.toSlots.run ops = some (r.run ops).toSlots := by
  induction ops generalizing r with
  | nil => rfl
  | cons op ops ih =>
    rw [Slots.run, List.foldlM_cons, next_toSlots]
    exact ih (r.next op)

namespace Slots

variable {s : Slots} {c : Catalog}

/-- Well-formed slots are those of a well-formed registry, and nothing else. -/
theorem wellFormed_iff : s.WellFormed ↔ ∃ r : Registry, r.WellFormed ∧ r.toSlots = s := by
  constructor
  · intro h
    exact ⟨⟨s, h.inRange⟩, ⟨h.valid, h.nodup⟩, rfl⟩
  · rintro ⟨r, hr, rfl⟩
    exact ⟨r.inRange, hr.1, hr.2⟩

/-- **One operation keeps slots well-formed**: it has a result, and what the slots stand for after
it is what the operation leads to in the catalog. -/
theorem WellFormed.next (h : s.WellFormed) (hc : s.catalog? = some c) (op : Operation) :
    ∃ s', s.next op = some s' ∧ s'.WellFormed ∧ s'.catalog? = some (c.next op) := by
  obtain ⟨r, hr, rfl⟩ := wellFormed_iff.1 h
  obtain rfl := Option.some.inj (r.catalog?_toSlots.symm.trans hc)
  refine ⟨_, r.next_toSlots op, wellFormed_iff.2 ⟨_, wellFormed_next hr op, rfl⟩, ?_⟩
  rw [catalog?_toSlots, catalog_next hr]

/-- **Operations in a row** keep slots well-formed, and they stand for the catalog that the
operations lead to. -/
theorem WellFormed.run (h : s.WellFormed) (hc : s.catalog? = some c) (ops : List Operation) :
    ∃ s', s.run ops = some s' ∧ s'.WellFormed ∧ s'.catalog? = some (c.run ops) := by
  induction ops generalizing s c with
  | nil => exact ⟨s, rfl, h, hc⟩
  | cons op ops ih =>
    obtain ⟨s₁, hnext, hwell, hcatalog⟩ := h.next hc op
    obtain ⟨s₂, hrun, hresult⟩ := ih hwell hcatalog
    refine ⟨s₂, ?_, hresult⟩
    rw [Slots.run, List.foldlM_cons, hnext]
    exact hrun

/-- **What well-formed slots stand for determines them**: their place is where the list of names has
the active name. -/
theorem WellFormed.determined (h : s.WellFormed) (hc : s.catalog? = some c) :
    s.datasets = c.entries ∧ s.names.idxOf c.active = s.position := by
  obtain ⟨r, hr, rfl⟩ := wellFormed_iff.1 h
  obtain rfl := Option.some.inj (r.catalog?_toSlots.symm.trans hc)
  exact ⟨rfl, idxOf_activeName hr⟩

/-- **What an operation on well-formed slots answers** is what it answers on the catalog. -/
theorem WellFormed.apply (h : s.WellFormed) (hc : s.catalog? = some c) (op : Operation) :
    ∃ x, s.apply op = some x ∧
      x.map (fun y => (y.1, y.2.catalog?)) = (c.apply op).map fun y => (y.1, some y.2) := by
  obtain ⟨r, hr, rfl⟩ := wellFormed_iff.1 h
  obtain rfl := Option.some.inj (r.catalog?_toSlots.symm.trans hc)
  refine ⟨_, r.apply_toSlots op, ?_⟩
  rw [← apply_catalog hr]
  cases r.apply op with
  | error e => rfl
  | ok x => simp [Except.map]

end Slots

/-! ## Sources -/

/-- **Where a registry comes from**: it is a new one, made of a list of datasets, or read from a
payload, a portable document, the body of a document in the store, or a link. -/
inductive Obtained : Registry → Prop
  | initial : Obtained initial
  | ofDatasets {ds : List Dataset} {x : Registry} (made : ofDatasets ds = .ok x) : Obtained x
  | payload {p : Wire.Payload} {dt : DataTemplate} (decoded : p.decode = .ok dt) :
      Obtained dt.registry
  | portable {text : String} {dt : DataTemplate} (read : Portable.parse text = .ok dt) :
      Obtained dt.registry
  | remote {body : String} {d : RemoteDocument} (read : RemoteDocument.parse body = .ok d) :
      Obtained d.template.registry
  | link {link : String} {dt : DataTemplate} (read : Link.parse link = .ok (.inline dt)) :
      Obtained dt.registry

/-- **Every source gives a well-formed registry.** -/
theorem Obtained.wellFormed (h : r.Obtained) : r.WellFormed := by
  cases h with
  | initial => exact wellFormed_initial
  | ofDatasets made => exact wellFormed_of_ofDatasets made
  | payload decoded => exact Wire.wellFormed_of_decode decoded
  | portable read =>
    obtain ⟨ds, hds⟩ := Portable.exists_ofDatasets_of_parse read
    exact wellFormed_of_ofDatasets hds
  | remote read => exact RemoteDocument.wellFormed_of_parse read
  | link read => exact Link.wellFormed_of_parse read

/-- **A registry is its catalog**, wherever it comes from and whatever is done with its list and its
place. Every operation has a result: the list is not empty, the place is one of it, and the names
follow the pattern and are different. The list is that of the catalog that the same operations lead
to, and the place is where it has the active name, so that no other well-formed slots stand for that
catalog. Each operation answers what it answers on the catalog, and one that fails there leaves the
list and the place as they were. -/
theorem refines_catalog (h : r.Obtained) (ops : List Operation) :
    ∃ s, r.toSlots.run ops = some s ∧ s = (r.run ops).toSlots ∧
      s.datasets ≠ [] ∧ s.position < s.datasets.length ∧ s.names.Nodup ∧
      (∀ n ∈ s.names, Dataset.MatchesPattern n) ∧
      s.catalog? = some (r.catalog.run ops) ∧
      s.names.idxOf (r.catalog.run ops).active = s.position ∧
      (∀ s' : Slots, s'.WellFormed → s'.catalog? = some (r.catalog.run ops) → s' = s) ∧
      ∀ op, (∃ x, s.apply op = some x ∧
          x.map (fun y => (y.1, y.2.catalog?)) =
            ((r.catalog.run ops).apply op).map fun y => (y.1, some y.2)) ∧
        ∀ e, (r.catalog.run ops).apply op = .error e → r.toSlots.run (ops ++ [op]) = some s := by
  have hwell : r.toSlots.WellFormed := Slots.wellFormed_iff.2 ⟨r, h.wellFormed, rfl⟩
  obtain ⟨s, hrun, hs, hcatalog⟩ := hwell.run r.catalog?_toSlots ops
  obtain ⟨hentries, hposition⟩ := hs.determined hcatalog
  refine ⟨s, hrun, Option.some.inj (hrun.symm.trans (r.run_toSlots ops)),
    List.ne_nil_of_length_pos (Nat.zero_lt_of_lt hs.inRange), hs.inRange, hs.nodup, ?_, hcatalog,
    hposition, ?_, ?_⟩
  · intro n hn
    exact Dataset.isValidName_iff.1 (hs.valid n hn)
  · intro s' hs' heq
    obtain ⟨hentries', hposition'⟩ := hs'.determined heq
    have hdatasets := hentries'.trans hentries.symm
    refine (Slots.mk.injEq ..).mpr ⟨hdatasets, ?_⟩
    rw [← hposition', ← hposition, Slots.names, Slots.names, hdatasets]
  · intro op
    obtain ⟨x, happly, hanswer⟩ := hs.apply hcatalog op
    refine ⟨⟨x, happly, hanswer⟩, ?_⟩
    intro e hfault
    -- A fault of the catalog is one of the slots.
    have hx : x = .error e := by
      rw [hfault] at hanswer
      cases x with
      | error _ => exact congrArg Except.error (Except.error.inj hanswer)
      | ok _ => cases hanswer
    have hnext : s.next op = some s := by
      rw [Slots.next, happly, hx]
      rfl
    rw [Slots.run] at hrun ⊢
    rw [List.foldlM_append, hrun]
    simpa using hnext

/-- Operations on three datasets: the texts of the first one are new when the last one becomes
active, and the datasets on either side of the second one are removed. -/
def shrinking : List Operation :=
  [.switch "C" (some ⟨"new", ""⟩), .remove "A", .remove "C", .write "B" ⟨"more", ""⟩]

/-- The registry of a payload with three datasets. -/
def threeDatasets : Registry := .first ⟨"A", ⟨"x", ""⟩⟩ [⟨"B", {}⟩, ⟨"C", {}⟩]

/-- Three datasets are read, and go on with these operations up to a last dataset that stays where
it is. The removal in front of the active dataset moves its place from two to one. -/
theorem refines_catalog_threeDatasets :
    threeDatasets.Obtained ∧
      threeDatasets.toSlots.run [.switch "C" (some ⟨"new", ""⟩)] =
        some ⟨[⟨"A", ⟨"new", ""⟩⟩, ⟨"B", {}⟩, ⟨"C", {}⟩], 2⟩ ∧
      Slots.apply ⟨[⟨"A", ⟨"new", ""⟩⟩, ⟨"B", {}⟩, ⟨"C", {}⟩], 2⟩ (.remove "A") =
        some (.ok (.removed ⟨⟨"A", ⟨"new", ""⟩⟩, false⟩, ⟨[⟨"B", {}⟩, ⟨"C", {}⟩], 1⟩)) ∧
      threeDatasets.toSlots.run shrinking = some ⟨[⟨"B", ⟨"more", ""⟩⟩], 0⟩ ∧
      threeDatasets.toSlots.run (shrinking ++ [.remove "B"]) =
        threeDatasets.toSlots.run shrinking := by
  have hdecode : Wire.Payload.decode
      { datasets := some [("A", ⟨"eA==", ""⟩), ("B", {}), ("C", {})] } =
        .ok ⟨threeDatasets, ""⟩ := rfl
  have hobtained : threeDatasets.Obtained := .payload hdecode
  obtain ⟨s, hrun, rfl, -, -, -, -, -, -, -, happly⟩ := refines_catalog hobtained shrinking
  exact ⟨hobtained, rfl, rfl, rfl, ((happly (.remove "B")).2 .lastDataset rfl).trans hrun.symm⟩

end Registry

end TemplateShare
