import TemplateShare.Command.Copy
import TemplateShare.Proofs.Session.Exchange
import TemplateShare.Proofs.Store.Reply

/-! # Dialogues that know what they replace

What a command knows while it is carried out: the revisions that replies and files have told it of,
and the record of the working copy that it has opened. A guarded dialogue updates no document but that
of the record, to the revision after the record's, and writes only records of revisions that it knows
of.

* **`Knowledge`** — what a command knows, and how it learns.
* **`Dialogue.Guarded`** — the guarded dialogues, with a condition on how they end.
* **`Dialogue.guarded_bind`**, **`Procedure.guarded_bind`** — dialogues that go on.
* **`Knowledge.Within`**, **`Dialogue.Guarded.of_within`** — nothing is lost by knowing more. -/

namespace TemplateShare

/-! ## Knowledge -/

/-- **What a command knows**: revisions of documents, and the record of the file that it has opened. -/
structure Knowledge where
  /-- There is, or was, this revision of the document with this id. -/
  revisions : String → Nat → Prop
  opened : Option SyncRecord

/-- The working copy that has been read, if it is one. -/
def Command.copyOf? (x : Except FileError Bytes) : Option WorkingCopy :=
  (textOf x).toOption.bind fun text => (WorkingCopy.parse text).toOption

namespace Knowledge

/-- A command knows nothing at its start. -/
def nothing : Knowledge := ⟨fun _ _ => False, none⟩

/-- **What is known after a reply.** -/
def learn (k : Knowledge) (r : Request) (x : Reply) : Knowledge :=
  { k with revisions := fun id n => k.revisions id n ∨ Sync.Tells r x id n }

/-- **What is known after a file has been read**: the revision of its record, if it has one. -/
def load (k : Knowledge) (x : Except FileError Bytes) : Knowledge :=
  match Command.copyOf? x with
  | none => k
  | some copy =>
    { revisions := fun id n => k.revisions id n ∨ ∃ r ∈ copy.record, r.id = id ∧ r.revision = n
      opened := copy.record }

/-- **Requests that replace only what is known**: an update is for the document of the record that
has been opened, and to the revision after the record's. -/
def Permits (k : Knowledge) (r : Request) : Prop :=
  ∀ id, r.method = .post → r.path = documentPath (some id) →
    ∃ record, k.opened = some record ∧ record.id = id ∧
      ∀ n, Store.requestedRevision? r = some n → n = record.revision + 1

/-- **Contents of files that go by what is known.** A content that is no working copy says nothing. -/
def Backs (k : Knowledge) (content : Bytes) : Prop :=
  ∀ copy, Command.copyOf? (.ok content) = some copy →
    copy.Sound ∧ ∀ r ∈ copy.record, k.revisions r.id r.revision

/-- **Knowledge within other knowledge**, of the same opened file. -/
structure Within (k k' : Knowledge) : Prop where
  revisions : ∀ id n, k.revisions id n → k'.revisions id n
  opened : k.opened = k'.opened

variable {k k' : Knowledge}

/-- What is learned from a reply adds to all that is known. -/
theorem Within.learn (h : k.Within k') (r : Request) (x : Reply) :
    (k.learn r x).Within (k'.learn r x) :=
  ⟨fun id n => Or.imp_left (h.revisions id n), h.opened⟩

/-- What is learned from a file adds to all that is known. -/
theorem Within.load (h : k.Within k') (x : Except FileError Bytes) :
    (k.load x).Within (k'.load x) := by
  unfold Knowledge.load
  cases Command.copyOf? x with
  | none => exact h
  | some copy => exact ⟨fun id n => Or.imp_left (h.revisions id n), rfl⟩

/-- A request that is permitted stays so. -/
theorem Permits.of_within {r : Request} (hr : k.Permits r) (h : k.Within k') : k'.Permits r := by
  unfold Permits
  rw [← h.opened]
  exact hr

/-- A content that goes by what is known goes by all knowledge that contains it. -/
theorem Backs.of_within {content : Bytes} (hc : k.Backs content) (h : k.Within k') :
    k'.Backs content := by
  intro copy hcopy
  obtain ⟨hsound, hrecord⟩ := hc copy hcopy
  exact ⟨hsound, fun r hr => h.revisions _ _ (hrecord r hr)⟩

end Knowledge

/-- The question whether to overwrite a later revision. -/
def Command.overwriteQuestion : String :=
  "Remote DataTemplate is a Later Revision. Overwrite it with your version?"

/-! ## Dialogues -/

namespace Dialogue

variable {α β : Type} {Q Q' : α → Knowledge → Prop} {k : Knowledge}

/-- **A guarded dialogue**, with what holds at its end. Replies can be relied on, files that are read
are sound, and nobody agrees to overwrite. -/
def Guarded (Q : α → Knowledge → Prop) : Dialogue α → Knowledge → Prop
  | .done a, k => Q a k
  | .exchange r next, k => k.Permits r ∧ ∀ x, Sync.Honest r x → (next x).Guarded Q (k.learn r x)
  | .askPassword _ next, k => ∀ x, (next x).Guarded Q k
  | .confirm q next, k => ∀ x, (q = Command.overwriteQuestion → x = false) → (next x).Guarded Q k
  | .loadFile _ next, k =>
    ∀ x, (∀ copy, Command.copyOf? x = some copy → copy.Sound) → (next x).Guarded Q (k.load x)
  | .saveFile _ content next, k => k.Backs content ∧ ∀ x, (next x).Guarded Q k

/-- **A dialogue that goes on is guarded** if its first part ends where the second can start. -/
@[simp] theorem guarded_bind {d : Dialogue β} {f : β → Dialogue α} :
    (d.bind f).Guarded Q k ↔ d.Guarded (fun b k => (f b).Guarded Q k) k := by
  induction d generalizing k with
  | done a => exact Iff.rfl
  | exchange r next ih =>
    exact and_congr_right' (forall_congr' fun x => forall_congr' fun _ => ih x)
  | askPassword q next ih => exact forall_congr' fun x => ih x
  | confirm q next ih => exact forall_congr' fun x => forall_congr' fun _ => ih x
  | loadFile p next ih => exact forall_congr' fun x => forall_congr' fun _ => ih x
  | saveFile p c next ih => exact and_congr_right' (forall_congr' fun x => ih x)

/-- A guarded dialogue ends also where less is asked for. -/
theorem Guarded.mono {d : Dialogue α} (h : d.Guarded Q k) (hQ : ∀ a k, Q a k → Q' a k) :
    d.Guarded Q' k := by
  induction d generalizing k with
  | done a => exact hQ a k h
  | exchange r next ih => exact ⟨h.1, fun x hx => ih x (h.2 x hx)⟩
  | askPassword q next ih => exact fun x => ih x (h x)
  | confirm q next ih => exact fun x hx => ih x (h x hx)
  | loadFile p next ih => exact fun x hx => ih x (h x hx)
  | saveFile p c next ih => exact ⟨h.1, fun x => ih x (h.2 x)⟩

/-- **A guarded dialogue stays so where more is known.** -/
theorem Guarded.of_within {d : Dialogue α} (h : d.Guarded Q k) {k' : Knowledge} (hk : k.Within k')
    (hQ : ∀ a k k', k.Within k' → Q a k → Q a k') : d.Guarded Q k' := by
  induction d generalizing k k' with
  | done a => exact hQ a k k' hk h
  | exchange r next ih =>
    exact ⟨h.1.of_within hk, fun x hx => ih x (h.2 x hx) (hk.learn r x)⟩
  | askPassword q next ih => exact fun x => ih x (h x) hk
  | confirm q next ih => exact fun x hx => ih x (h x hx) hk
  | loadFile p next ih => exact fun x hx => ih x (h x hx) (hk.load x)
  | saveFile p c next ih => exact ⟨h.1.of_within hk, fun x => ih x (h.2 x) hk⟩

end Dialogue

/-! ## Procedures -/

namespace Procedure

variable {α β : Type} {Q Q' : α → Knowledge → Prop} {k : Knowledge}

/-- What holds at the end of a procedure that no fault has ended. -/
def Finally (Q : α → Knowledge → Prop) : Except Error α → Knowledge → Prop
  | .ok a, k => Q a k
  | .error _, _ => True

/-- **A guarded procedure**, with what holds at its end if no fault has ended it. -/
def Guarded (Q : α → Knowledge → Prop) (x : Procedure α) (k : Knowledge) : Prop :=
  Dialogue.Guarded (Finally Q) x k

/-- A procedure that ends at once. -/
theorem guarded_pure {a : α} (h : Q a k) : Guarded Q (pure a) k := h

/-- **A procedure that goes on is guarded** if its first part ends where the second can start. -/
theorem guarded_bind {x : Procedure β} {f : β → Procedure α}
    (h : Guarded (fun b k => Guarded Q (f b) k) x k) : Guarded Q (x >>= f) k := by
  show Dialogue.Guarded _ (Dialogue.bind x _) k
  rw [Dialogue.guarded_bind]
  refine Dialogue.Guarded.mono h fun r k hr => ?_
  cases r with
  | ok b => exact hr
  | error e => trivial

/-- A guarded procedure ends also where less is asked for. -/
theorem Guarded.mono {x : Procedure α} (h : Guarded Q x k) (hQ : ∀ a k, Q a k → Q' a k) :
    Guarded Q' x k := by
  refine Dialogue.Guarded.mono h fun r k hr => ?_
  cases r with
  | ok a => exact hQ a k hr
  | error e => trivial

/-- A guarded procedure stays so where more is known. -/
theorem Guarded.of_within {x : Procedure α} (h : Guarded (fun _ _ => True) x k) {k' : Knowledge}
    (hk : k.Within k') : Guarded (fun _ _ => True) x k' := by
  refine Dialogue.Guarded.of_within h hk fun r _ _ _ _ => ?_
  cases r <;> trivial

/-- A fault ends a procedure, else it goes on. -/
theorem guarded_settle {x : Except Error α} (h : ∀ a, x = .ok a → Q a k) :
    Guarded Q (Command.settle x) k := by
  cases x with
  | ok a => exact h a rfl
  | error e => trivial

/-- A dialogue as a part of a procedure. -/
theorem guarded_perform {d : Dialogue α} (h : d.Guarded Q k) : Guarded Q (Command.perform d) k := by
  show Dialogue.Guarded _ (d.bind _) k
  rw [Dialogue.guarded_bind]
  exact h

end Procedure

end TemplateShare
