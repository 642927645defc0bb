import TemplateShare.Files

/-! # What files hold

A file that is read has been there, and a file that is written is the only one that changes.

* **`Files.mem_of_load`** — what is read is the content of some file.
* **`Files.mem_of_save`** — what is there after a file has been written.
* **`Files.load_of_save`** — what has been written is read.
* **`Files.save_of_load`** — what has been read can be written. -/

namespace TemplateShare

/-- What is found in a map is one of its entries. -/
theorem Assoc.mem_of_lookup {κ α : Type} [BEq κ] [LawfulBEq κ] {k : κ} {v : α} {es : List (κ × α)}
    (h : es.lookup k = some v) : (k, v) ∈ es := by
  induction es with
  | nil => cases h
  | cons e es ih =>
    obtain ⟨k', v'⟩ := e
    rw [List.lookup_cons] at h
    split at h
    · next heq =>
      obtain rfl := eq_of_beq heq
      obtain rfl := Option.some.inj h
      exact List.mem_cons_self
    · exact .tail _ (ih h)

/-- What is in a map after an insertion was there before, or is what has been inserted. -/
theorem Assoc.mem_of_mem_insert {κ α : Type} [DecidableEq κ] {k : κ} {v : α} {es : List (κ × α)}
    {e : κ × α} (h : e ∈ insert k v es) : e.2 = v ∨ e ∈ es := by
  induction es with
  | nil =>
    obtain rfl := List.mem_singleton.1 h
    exact .inl rfl
  | cons e' es ih =>
    obtain ⟨k', v'⟩ := e'
    rw [insert] at h
    split at h
    · rcases List.mem_cons.1 h with rfl | h
      · exact .inl rfl
      · exact .inr (.tail _ h)
    · rcases List.mem_cons.1 h with rfl | h
      · exact .inr List.mem_cons_self
      · exact (ih h).imp_right (.tail _)

namespace Files

variable {fs fs' : Files} {path : String} {content : Bytes}

/-- **What is read is the content of a file.** -/
theorem mem_of_load (h : fs.load path = .ok content) : ∃ p, (p, content) ∈ fs.contents := by
  obtain ⟨p, -, h⟩ := Except.bind_eq_ok.1 h
  cases hentry : fs.entry p with
  | none =>
    rw [hentry] at h
    cases h
  | some e =>
    rw [hentry] at h
    cases e with
    | directory => cases h
    | file c =>
      obtain rfl := Except.ok.inj h
      -- Only what is listed among the contents is a file.
      unfold entry at hentry
      split at hentry
      · cases hentry
      · split at hentry
        · next c' hlookup =>
          obtain rfl := Entry.file.inj (Option.some.inj hentry)
          exact ⟨p, Assoc.mem_of_lookup hlookup⟩
        · split at hentry <;> cases hentry

/-- Making directories changes no file. -/
theorem contents_of_makeDirectories {p : Place} {names : List String}
    (h : fs.makeDirectories p names = .ok fs') : fs'.contents = fs.contents := by
  induction names generalizing fs p with
  | nil =>
    rw [makeDirectories] at h
    exact Except.ok.inj h ▸ rfl
  | cons name names ih =>
    rw [makeDirectories] at h
    obtain ⟨q, -, h⟩ := Except.bind_eq_ok.1 h
    split at h
    · exact ih h
    · exact (ih h).trans rfl

/-- **What it takes to write a file**: the path leads to a place that is no directory once the missing
directories are made, and nothing else changes. -/
theorem exists_of_save (h : fs.save path content = .ok fs') : ∃ (made : Files) (place : Place),
    made.contents = fs.contents ∧ made.locate path = .ok place ∧
      made.entry place ≠ some .directory ∧
      fs' = { made with contents := Assoc.insert place content made.contents } := by
  obtain ⟨_, hpath, h⟩ := Except.bind_eq_ok.1 h
  obtain ⟨made, hmade, h⟩ := Except.bind_eq_ok.1 h
  obtain ⟨place, hwalk, h⟩ := Except.bind_eq_ok.1 h
  have hcontents := contents_of_makeDirectories hmade
  -- A path that asks for a directory fails at each kind of entry.
  by_cases hasks : (steps path).getLast? = some "."
  · split at h
    · cases h
    · rw [if_pos hasks] at h
      cases h
    · rw [if_pos hasks] at h
      cases h
  have hlocate : made.locate path = .ok place := by
    rw [if_neg hasks] at hwalk
    exact Except.bind_eq_ok.2 ⟨_, hpath, hwalk⟩
  refine ⟨made, place, hcontents, hlocate, ?_⟩
  split at h
  · cases h
  · next c hentry =>
    rw [if_neg hasks] at h
    exact ⟨fun hd => (nomatch hentry.symm.trans hd), (Except.ok.inj h).symm⟩
  · next hentry =>
    rw [if_neg hasks] at h
    exact ⟨fun hd => (nomatch hentry.symm.trans hd), (Except.ok.inj h).symm⟩

/-- **What is there after a file has been written** was there before, or is what has been written. -/
theorem mem_of_save (h : fs.save path content = .ok fs') {e : Place × Bytes}
    (he : e ∈ fs'.contents) : e.2 = content ∨ e ∈ fs.contents := by
  obtain ⟨made, place, hcontents, -, -, rfl⟩ := exists_of_save h
  rw [← hcontents]
  exact Assoc.mem_of_mem_insert he

/-! ## Reading what has been written -/

/-- What is at a place where a file has been put. -/
theorem entry_insert_self {p : Place} (h : fs.entry p ≠ some .directory) (content : Bytes) :
    ({ fs with contents := Assoc.insert p content fs.contents } : Files).entry p =
      some (.file content) := by
  cases p with
  | nil => exact absurd fs.entry_nil h
  | cons s p => simp [entry]

/-- What is at any other place stays. -/
theorem entry_insert_of_ne {p q : Place} (h : q ≠ p) (content : Bytes) :
    ({ fs with contents := Assoc.insert p content fs.contents } : Files).entry q = fs.entry q := by
  unfold entry
  rw [Assoc.lookup_insert_of_ne h]

/-- **A path leads where it led before** a file is put at a place that is no directory. -/
theorem walk_insert {p : Place} (hp : fs.entry p ≠ some .directory) (content : Bytes) {q r : Place}
    {names : List String} (h : fs.walk q names = .ok r) :
    ({ fs with contents := Assoc.insert p content fs.contents } : Files).walk q names = .ok r := by
  induction names generalizing q with
  | nil => exact h
  | cons s names ih =>
    rw [walk] at h ⊢
    cases hentry : fs.entry q with
    | none =>
      rw [hentry] at h
      cases h
    | some e =>
      rw [hentry] at h
      cases e with
      | file c => cases h
      | directory =>
        -- The walk goes through directories, so it does not pass the file.
        have hne : q ≠ p := fun heq => hp (heq ▸ hentry)
        rw [entry_insert_of_ne hne, hentry]
        dsimp only at h ⊢
        split at h
        · next hdot => rw [if_pos hdot, ih h]
        · next hdot =>
          rw [if_neg hdot]
          split at h
          · next hdots => rw [if_pos hdots, ih h]
          · next hdots =>
            rw [if_neg hdots]
            split at h
            · cases h
            · next hshort => rw [if_neg hshort, ih h]

/-- **What has been written is read.** -/
theorem load_of_save (h : fs.save path content = .ok fs') : fs'.load path = .ok content := by
  obtain ⟨made, place, -, hlocate, hplace, rfl⟩ := exists_of_save h
  obtain ⟨_, hpath, hwalk⟩ := Except.bind_eq_ok.1 hlocate
  have hlocate' : ({ made with contents := Assoc.insert place content made.contents } : Files).locate
      path = .ok place := Except.bind_eq_ok.2 ⟨_, hpath, walk_insert hplace content hwalk⟩
  refine Except.bind_eq_ok.2 ⟨_, hlocate', ?_⟩
  rw [entry_insert_self hplace]
  rfl

/-! ## Writing what has been read -/

/-- A path through a directory, step by step. -/
theorem walk_cons {p r : Place} {step : String} {names : List String}
    (h : fs.walk p (step :: names) = .ok r) : fs.entry p = some .directory ∧
      ∃ q, fs.walk p [step] = .ok q ∧ fs.walk q names = .ok r := by
  rw [walk] at h
  cases hentry : fs.entry p with
  | none => rw [hentry] at h; cases h
  | some e =>
    rw [hentry] at h
    cases e with
    | file c => cases h
    | directory =>
      refine ⟨rfl, ?_⟩
      rw [walk, hentry]
      dsimp only at h ⊢
      split at h
      · next hdot => exact ⟨p, by rw [if_pos hdot]; rfl, h⟩
      · next hdot =>
        split at h
        · next hdots => exact ⟨p.dropLast, by rw [if_neg hdot, if_pos hdots]; rfl, h⟩
        · next hdots =>
          split at h
          · cases h
          · next hshort =>
            exact ⟨p ++ [step], by rw [if_neg hdot, if_neg hdots, if_neg hshort]; rfl, h⟩

/-- The directories of a path that leads somewhere are there. -/
theorem makeDirectories_of_walk {p r : Place} {names : List String} (h : fs.walk p names = .ok r) :
    fs.makeDirectories p names.dropLast = .ok fs := by
  induction names generalizing p with
  | nil => rfl
  | cons step names ih =>
    cases names with
    | nil => rfl
    | cons step' names =>
      obtain ⟨-, q, hstep, hrest⟩ := walk_cons h
      rw [List.dropLast_cons_cons, makeDirectories]
      refine Except.bind_eq_ok.2 ⟨q, hstep, ?_⟩
      rw [(walk_cons hrest).1]
      exact ih hrest

/-- A path that asks for a directory leads to one. -/
theorem entry_of_walk_dot {p r : Place} {names : List String} (h : fs.walk p names = .ok r)
    (hasks : names.getLast? = some ".") : fs.entry r = some .directory := by
  induction names generalizing p with
  | nil => cases hasks
  | cons step names ih =>
    obtain ⟨hentry, q, hstep, hrest⟩ := walk_cons h
    cases names with
    | nil =>
      obtain rfl : step = "." := Option.some.inj hasks
      obtain rfl := Except.ok.inj hrest
      rw [walk, hentry] at hstep
      dsimp only at hstep
      rw [if_pos rfl] at hstep
      obtain rfl := Except.ok.inj hstep
      exact hentry
    | cons step' names => exact ih hrest (by rw [← hasks, List.getLast?_cons_cons])

/-- **A file that has been read can be written.** -/
theorem save_of_load {old : Bytes} (h : fs.load path = .ok old) (content : Bytes) :
    ∃ fs', fs.save path content = .ok fs' := by
  obtain ⟨place, hlocate, h⟩ := Except.bind_eq_ok.1 h
  obtain ⟨_, hpath, hwalk⟩ := Except.bind_eq_ok.1 hlocate
  have hentry : fs.entry place = some (.file old) := by
    split at h
    · next c hentry =>
      obtain rfl := Except.ok.inj h
      exact hentry
    · cases h
    · cases h
  have hasks : (steps path).getLast? ≠ some "." := fun hdot =>
    nomatch hentry.symm.trans (entry_of_walk_dot hwalk hdot)
  refine ⟨{ fs with contents := Assoc.insert place content fs.contents }, Except.bind_eq_ok.2
    ⟨_, hpath, Except.bind_eq_ok.2 ⟨fs, ?_, Except.bind_eq_ok.2 ⟨place, ?_, ?_⟩⟩⟩⟩
  · rw [if_neg hasks]
    exact makeDirectories_of_walk hwalk
  · rw [if_neg hasks]
    exact hwalk
  · rw [hentry]
    dsimp only
    rw [if_neg hasks]
    rfl

end Files

end TemplateShare
