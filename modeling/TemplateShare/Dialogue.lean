import TemplateShare.Error
import TemplateShare.Exchange

/-! # Dialogues

What a command does besides computing: it sends requests, asks the user, and reads and writes
files. A `Dialogue` is such a computation as a tree, in which every step waits for its reply. It
can therefore be carried out against any store and any user, and several dialogues can take turns.

* **`Dialogue`**: the tree, with its `Monad` structure.
* **`Dialogue.Replies`**: who replies, with a state of their own.
* **`Dialogue.run`**: carry out a dialogue. -/

namespace TemplateShare

/-- **A dialogue** that ends with a value. -/
inductive Dialogue (α : Type) where
  /-- The end. -/
  | done (a : α)
  /-- Send a request to the store. -/
  | exchange (request : Request) (next : Reply → Dialogue α)
  /-- Ask the user for a password; they may give up. -/
  | askPassword (question : String) (next : Option String → Dialogue α)
  /-- Ask the user to agree. -/
  | confirm (question : String) (next : Bool → Dialogue α)
  /-- Read a file. -/
  | loadFile (path : String) (next : Except FileError Bytes → Dialogue α)
  /-- Write a file, in a directory that is made where it is missing. -/
  | saveFile (path : String) (content : Bytes) (next : Except FileError Unit → Dialogue α)

namespace Dialogue

variable {α β σ : Type}

/-- **Go on** with what the end of a dialogue calls for. -/
def bind (d : Dialogue α) (f : α → Dialogue β) : Dialogue β :=
  match d with
  | .done a => f a
  | .exchange r next => .exchange r fun x => (next x).bind f
  | .askPassword q next => .askPassword q fun x => (next x).bind f
  | .confirm q next => .confirm q fun x => (next x).bind f
  | .loadFile p next => .loadFile p fun x => (next x).bind f
  | .saveFile p c next => .saveFile p c fun x => (next x).bind f

instance : Monad Dialogue where
  pure := .done
  bind := .bind

@[simp] theorem pure_eq_done (a : α) : (pure a : Dialogue α) = .done a := rfl

@[simp] theorem bind_eq (d : Dialogue α) (f : α → Dialogue β) : d >>= f = d.bind f := rfl

@[simp] theorem done_bind (a : α) (f : α → Dialogue β) : (done a).bind f = f a := rfl

/-- Ending with the value changes nothing. -/
@[simp] theorem bind_done (d : Dialogue α) : d.bind .done = d := by
  induction d with
  | done a => rfl
  | exchange r next ih => simp [bind, ih]
  | askPassword q next ih => simp [bind, ih]
  | confirm q next ih => simp [bind, ih]
  | loadFile p next ih => simp [bind, ih]
  | saveFile p c next ih => simp [bind, ih]

/-- Going on twice is going on with what goes on. -/
theorem bind_bind {γ : Type} (d : Dialogue α) (f : α → Dialogue β) (g : β → Dialogue γ) :
    (d.bind f).bind g = d.bind fun a => (f a).bind g := by
  induction d with
  | done a => rfl
  | exchange r next ih => simp [bind, ih]
  | askPassword q next ih => simp [bind, ih]
  | confirm q next ih => simp [bind, ih]
  | loadFile p next ih => simp [bind, ih]
  | saveFile p c next ih => simp [bind, ih]

/-- **Who replies**: the store, the user and the file system, over a common state. -/
structure Replies (σ : Type) where
  exchange : Request → σ → Reply × σ
  askPassword : String → σ → Option String × σ
  confirm : String → σ → Bool × σ
  loadFile : String → σ → Except FileError Bytes × σ
  saveFile : String → Bytes → σ → Except FileError Unit × σ

/-- **Carry out a dialogue.** -/
def run (w : Replies σ) : Dialogue α → σ → α × σ
  | .done a, s => (a, s)
  | .exchange r next, s => let (x, s) := w.exchange r s; (next x).run w s
  | .askPassword q next, s => let (x, s) := w.askPassword q s; (next x).run w s
  | .confirm q next, s => let (x, s) := w.confirm q s; (next x).run w s
  | .loadFile p next, s => let (x, s) := w.loadFile p s; (next x).run w s
  | .saveFile p c next, s => let (x, s) := w.saveFile p c s; (next x).run w s

@[simp] theorem run_done (w : Replies σ) (a : α) (s : σ) : (done a).run w s = (a, s) := rfl

/-- A dialogue that goes on is carried out one part after the other. -/
theorem run_bind (w : Replies σ) (d : Dialogue α) (f : α → Dialogue β) (s : σ) :
    (d.bind f).run w s = (f (d.run w s).1).run w (d.run w s).2 := by
  induction d generalizing s with
  | done a => rfl
  | exchange r next ih => simp [bind, run, ih]
  | askPassword q next ih => simp [bind, run, ih]
  | confirm q next ih => simp [bind, run, ih]
  | loadFile p next ih => simp [bind, run, ih]
  | saveFile p c next ih => simp [bind, run, ih]

end Dialogue

end TemplateShare
