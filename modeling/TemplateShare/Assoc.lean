/-! # Ordered maps

Maps as lists of key-value pairs in the order in which keys were first inserted. Look-up is
`List.lookup`; `Assoc.insert` keeps the place of a key that is there already. -/

namespace TemplateShare.Assoc

variable {κ α : Type} [DecidableEq κ]

/-- **Insert a value.** A key that is there keeps its place and takes the new value. -/
def insert (k : κ) (v : α) : List (κ × α) → List (κ × α)
  | [] => [(k, v)]
  | (k', v') :: es => if k' = k then (k', v) :: es else (k', v') :: insert k v es

/-- A map of entries, of which the later values count. -/
def ofList (es : List (κ × α)) : List (κ × α) := es.foldl (fun m e => insert e.1 e.2 m) []

@[simp] theorem lookup_insert_self [BEq κ] [LawfulBEq κ] (k : κ) (v : α) (es : List (κ × α)) :
    (insert k v es).lookup k = some v := by
  induction es with
  | nil => simp [insert]
  | cons e es ih =>
    obtain ⟨k', v'⟩ := e
    by_cases h : k' = k
    · simp [insert, h]
    · have h' : (k == k') = false := by simpa using fun e => h e.symm
      simp [insert, h, List.lookup_cons, h', ih]

theorem lookup_insert_of_ne [BEq κ] [LawfulBEq κ] {k k' : κ} (h : k' ≠ k) (v : α)
    (es : List (κ × α)) : (insert k v es).lookup k' = es.lookup k' := by
  have hk : (k' == k) = false := by simpa using h
  induction es with
  | nil => simp [insert, List.lookup_cons, hk]
  | cons e es ih =>
    obtain ⟨a, b⟩ := e
    by_cases ha : a = k
    · subst ha
      simp [insert, List.lookup_cons, hk]
    · simp [insert, ha, List.lookup_cons, ih]

end TemplateShare.Assoc
