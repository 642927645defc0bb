import TemplateShare.Proofs.Command.Outcome
import TemplateShare.Proofs.Command.Renamed
import TemplateShare.Proofs.Store.Rules

/-! # Working copies tell nothing about passwords

The same commands are carried out twice, over stores that hold the same documents under passwords
which are called differently, and wherever a password is typed or set in the one run, its other name
is in the other. Both runs leave the same files. A command asks and writes alike in both; so do any
number of them, whatever else happens to the store between them.

* **`Sitting`**, **`Dialogue.Replies.scripted`** — files and a store, with a user whose answers are
  lined up.
* **`Order`**, **`Deed`**, **`Surroundings.after`** — commands and what else happens, one after the
  other.
* **`Renaming.deed`** — what happens, with the passwords renamed.
* **`Renaming.Scenes`**, **`Dialogue.Alike.run`**, **`Renaming.Scenes.after`** — what does not tell the
  runs apart: while a command goes on, and from one to the next.
* **`Surroundings.files_after_renamed`** — the files are the same. -/

namespace TemplateShare

/-! ## A user at work -/

/-- **Files and a store, with a user** whose answers are lined up: for passwords, and whether to
agree. -/
structure Sitting extends Surroundings where
  answers : List (Option String)
  agreed : List Bool

/-- **Who replies at a sitting.** The user gives up when no answer is left. Each request may find the
store in another setting. -/
def Dialogue.Replies.scripted (envs : Nat → Store.Setting) : Replies Sitting where
  exchange r x :=
    ((x.store.send (envs x.store.requests.length) r).1,
      { x with store := (x.store.send (envs x.store.requests.length) r).2 })
  askPassword _ x := (x.answers.headD none, { x with answers := x.answers.tail })
  confirm _ x := (x.agreed.headD false, { x with agreed := x.agreed.tail })
  loadFile path x := (x.files.load path, x)
  saveFile path content x :=
    ((x.files.write path content).1, { x with files := (x.files.write path content).2 })

/-- **What a user can order**: the commands of an author, or a push that overwrites without asking. -/
inductive Order where
  | errand (e : Errand)
  | force (ctx : Command.Context) (path : String) (newLink : Bool)

/-- What is ordered. -/
def Order.procedure : Order → Procedure Report
  | .errand e => e.procedure
  | .force ctx path newLink => Command.push ctx path { newLink, force := true }

/-- **What happens**: a command is carried out, with the answers of its user, or something else
happens to the store. -/
inductive Deed where
  | order (o : Order) (answers : List (Option String)) (agreed : List Bool)
  | elsewhere (e : Store.Event)

namespace Surroundings

variable (envs : Nat → Store.Setting)

/-- Files and a store after something has happened. -/
def next (σ : Surroundings) : Deed → Surroundings
  | .order o answers agreed =>
    (Procedure.run (.scripted envs) o.procedure ⟨σ, answers, agreed⟩).2.toSurroundings
  | .elsewhere e => { σ with store := σ.store.next e }

/-- **Files and a store after all that happens**, one after the other. -/
def after (σ : Surroundings) : List Deed → Surroundings
  | [] => σ
  | x :: xs => (σ.next envs x).after xs

end Surroundings

namespace Dialogue

variable {α τ : Type} (w : Replies τ) (s : τ)

theorem run_confirm (q : String) (next : Bool → Dialogue α) :
    (confirm q next).run w s = (next (w.confirm q s).1).run w (w.confirm q s).2 := rfl

theorem run_loadFile (path : String) (next : Except FileError Bytes → Dialogue α) :
    (loadFile path next).run w s = (next (w.loadFile path s).1).run w (w.loadFile path s).2 := rfl

theorem run_saveFile (path : String) (content : Bytes) (next : Except FileError Unit → Dialogue α) :
    (saveFile path content next).run w s =
      (next (w.saveFile path content s).1).run w (w.saveFile path content s).2 := rfl

end Dialogue

/-! ## Documents stay -/

section Contains

variable {α : Type} {envs : Nat → Store.Setting} {id : String}

/-- An event takes no document away. -/
theorem Store.contains_next {s : Store} (h : s.contains id = true) (e : Store.Event) :
    (s.next e).contains id = true := by
  cases e with
  | request env r => exact (Store.obeys env r s).kept id h
  | inject f => exact h

/-- A command takes no document away. -/
theorem Dialogue.contains_run {x : Sitting} (h : x.store.contains id = true) (d : Dialogue α) :
    (d.run (.scripted envs) x).2.store.contains id = true := by
  induction d generalizing x with
  | done a => exact h
  | exchange r next ih => exact ih _ ((Store.obeys _ r x.store).kept id h)
  | askPassword q next ih => exact ih _ h
  | confirm q next ih => exact ih _ h
  | loadFile path next ih => exact ih _ h
  | saveFile path content next ih => exact ih _ h

/-- Whatever happens takes no document away. -/
theorem Surroundings.contains_after {σ : Surroundings} (h : σ.store.contains id = true)
    (xs : List Deed) : (σ.after envs xs).store.contains id = true := by
  induction xs generalizing σ with
  | nil => exact h
  | cons x xs ih =>
    refine ih ?_
    cases x with
    | order o answers agreed => exact Dialogue.contains_run h _
    | elsewhere e => exact Store.contains_next h e

end Contains

/-! ## What happens, with passwords renamed -/

/-- The passwords that are typed in answer to questions. -/
def Password.typed (answers : List (Option String)) : List String :=
  answers.flatMap fun a => (Password.answer a).toList

/-- The passwords that an order is given. -/
def Order.passwords : Order → List String
  | .errand e => e.passwords
  | .force .. => []

/-- The passwords that an event brings. -/
def Store.Event.passwords : Store.Event → List String
  | .request _ r => r.secrets
  | .inject _ => []

/-- **The passwords that are used** in what happens. -/
def Deed.passwords : Deed → List String
  | .order o answers _ => o.passwords ++ Password.typed answers
  | .elsewhere e => e.passwords

namespace Renaming

variable (ρ : Renaming)

/-- **What is typed for a password**, under its other name. What is blank stays as it is. -/
def answer (a : Option String) : Option String :=
  a.map fun p => if Text.isBlank p then p else ρ.name p

/-- An order that is given other names for its passwords. -/
def order : Order → Order
  | .errand e => .errand (ρ.errand e)
  | .force ctx path newLink => .force ctx path newLink

/-- An event with the passwords renamed. -/
def event : Store.Event → Store.Event
  | .request env r => .request env (ρ.request r)
  | .inject f => .inject f

/-- **What happens, with the passwords renamed.** -/
def deed : Deed → Deed
  | .order o answers agreed => .order (ρ.order o) (answers.map ρ.answer) agreed
  | .elsewhere e => .elsewhere (ρ.event e)

variable {ρ}

/-- Answers that are renamed differ only by the renaming. -/
theorem answers_answer {a : Option String} (ha : ρ.Covers (Password.answer a).toList) :
    ρ.Answers a (ρ.answer a) := by
  refine ⟨ha, ?_⟩
  cases a with
  | none => rfl
  | some p =>
    by_cases hblank : Text.isBlank p = true
    · simp [answer, Password.answer, Option.filter, hblank]
    · have hp : Text.isBlank p = false := Bool.eq_false_iff.2 hblank
      have hplay : ρ.InPlay p := ha p (by simp [Password.answer, Option.filter, hp])
      simp [answer, Password.answer, Option.filter, hp, ρ.notBlank p hplay hp]

/-- Whatever is ordered, it is the same but for the renaming. -/
theorem alike_order (o : Order) (ho : ρ.Covers o.passwords) :
    Procedure.Alike ρ (fun _ _ => True) o.procedure (ρ.order o).procedure := by
  cases o with
  | errand e => exact e.alike_procedure ho
  | force ctx path newLink => exact Command.alike_push ctx path { newLink, force := true }

/-! ## Two runs -/

/-- **What does not tell two runs apart**: the same files, and stores that differ only by the
renaming. -/
structure Scenes (ρ : Renaming) (σ σ' : Surroundings) : Prop where
  files : σ'.files = σ.files
  store : ρ.Stores σ.store σ'.store

/-- **Two sittings that are not told apart**: their users give the same answers, under both names. -/
structure Sittings (ρ : Renaming) (x x' : Sitting) : Prop extends
    Scenes ρ x.toSurroundings x'.toSurroundings where
  covers : ρ.Covers (Password.typed x.answers)
  answers : x'.answers = x.answers.map ρ.answer
  agreed : x'.agreed = x.agreed

namespace Sittings

open Dialogue

variable {x x' : Sitting} (envs : Nat → Store.Setting)

/-- **A request and its renamed copy** are replied to alike, if the store tells passwords apart at the
documents that it holds. -/
theorem exchange (h : ρ.Sittings x x') {r : Request} (hr : ρ.Covers r.secrets)
    (hids : ∀ id, x.store.contains id = true → ρ.TellsApart id) :
    Store.RepliesAlike r ((Replies.scripted envs).exchange r x).1
        ((Replies.scripted envs).exchange (ρ.request r) x').1 ∧
      ρ.Sittings ((Replies.scripted envs).exchange r x).2
        ((Replies.scripted envs).exchange (ρ.request r) x').2 := by
  -- Both stores have taken equally many requests, so they are in the same setting.
  obtain ⟨hreplies, hstores⟩ := h.store.send hr hids (envs x'.store.requests.length)
  dsimp only [Replies.scripted]
  rw [h.store.count] at hreplies hstores ⊢
  exact ⟨hreplies, ⟨h.files, hstores⟩, h.covers, h.answers, h.agreed⟩

/-- A question for a password is answered under both names. -/
theorem askPassword (h : ρ.Sittings x x') (q : String) :
    ρ.Answers ((Replies.scripted envs).askPassword q x).1
        ((Replies.scripted envs).askPassword q x').1 ∧
      ρ.Sittings ((Replies.scripted envs).askPassword q x).2
        ((Replies.scripted envs).askPassword q x').2 := by
  obtain ⟨hscenes, hcovers, hanswers, hagreed⟩ := h
  dsimp only [Replies.scripted]
  cases hx : x.answers with
  | nil =>
    rw [hx] at hcovers hanswers
    rw [hanswers]
    exact ⟨⟨hcovers, rfl⟩, hscenes, hcovers, rfl, hagreed⟩
  | cons a as =>
    rw [hx] at hcovers hanswers
    rw [hanswers]
    have hhead : ρ.Covers (Password.answer a).toList := hcovers.subset (by simp [Password.typed])
    have htail : ρ.Covers (Password.typed as) := hcovers.subset (by simp [Password.typed])
    exact ⟨answers_answer hhead, hscenes, htail, rfl, hagreed⟩

/-- A question whether to agree is answered in the same way. -/
theorem confirm (h : ρ.Sittings x x') (q : String) :
    ((Replies.scripted envs).confirm q x').1 = ((Replies.scripted envs).confirm q x).1 ∧
      ρ.Sittings ((Replies.scripted envs).confirm q x).2
        ((Replies.scripted envs).confirm q x').2 := by
  dsimp only [Replies.scripted]
  rw [h.agreed]
  exact ⟨rfl, ⟨h.files, h.store⟩, h.covers, h.answers, rfl⟩

/-- The same is read from a file. -/
theorem loadFile (h : ρ.Sittings x x') (path : String) :
    ((Replies.scripted envs).loadFile path x').1 = ((Replies.scripted envs).loadFile path x).1 := by
  dsimp only [Replies.scripted]
  rw [h.files]

/-- **The same is written** to a file, with the same success. -/
theorem saveFile (h : ρ.Sittings x x') (path : String) (content : Bytes) :
    ((Replies.scripted envs).saveFile path content x').1 =
        ((Replies.scripted envs).saveFile path content x).1 ∧
      ρ.Sittings ((Replies.scripted envs).saveFile path content x).2
        ((Replies.scripted envs).saveFile path content x').2 := by
  dsimp only [Replies.scripted]
  rw [h.files]
  exact ⟨rfl, ⟨rfl, h.store⟩, h.covers, h.answers, h.agreed⟩

end Sittings

end Renaming

section Runs

variable {ρ : Renaming} {envs : Nat → Store.Setting}

/-- **Dialogues that are alike end alike** at sittings that are not told apart, and leave them so. The
store tells passwords apart at all documents that it holds in the end, so it does all the time. -/
theorem Dialogue.Alike.run {α : Type} {Q : α → α → Prop} {d d' : Dialogue α} (h : Alike ρ Q d d')
    {x x' : Sitting} (hx : ρ.Sittings x x')
    (hids : ∀ id, (d.run (.scripted envs) x).2.store.contains id = true → ρ.TellsApart id) :
    Q (d.run (.scripted envs) x).1 (d'.run (.scripted envs) x').1 ∧
      ρ.Sittings (d.run (.scripted envs) x).2 (d'.run (.scripted envs) x').2 := by
  induction h generalizing x x' with
  | done ends => exact ⟨ends, hx⟩
  | @exchange r r' next next' covers renamed _ ih =>
    subst renamed
    have hnow (id : String) (hid : x.store.contains id = true) : ρ.TellsApart id :=
      hids id (contains_run hid (.exchange r next))
    obtain ⟨hreplies, hleft⟩ := hx.exchange envs covers hnow
    exact ih _ _ hreplies hleft hids
  | @askPassword q next next' _ ih =>
    obtain ⟨hanswers, hleft⟩ := hx.askPassword envs q
    exact ih _ _ hanswers hleft hids
  | @confirm q next next' _ ih =>
    obtain ⟨hsame, hleft⟩ := hx.confirm envs q
    rw [run_confirm _ x', hsame]
    exact ih _ hleft hids
  | @loadFile path next next' _ ih =>
    rw [run_loadFile _ x', hx.loadFile envs path]
    exact ih _ hx hids
  | @saveFile path content next next' _ ih =>
    obtain ⟨hsame, hleft⟩ := hx.saveFile envs path content
    rw [run_saveFile _ x', hsame]
    exact ih _ hleft hids

/-- **Whatever happens next, it does not tell two runs apart.** -/
theorem Renaming.Scenes.next {σ σ' : Surroundings} (h : ρ.Scenes σ σ') {x : Deed}
    (hx : ρ.Covers x.passwords)
    (hids : ∀ id, (σ.next envs x).store.contains id = true → ρ.TellsApart id) :
    ρ.Scenes (σ.next envs x) (σ'.next envs (ρ.deed x)) := by
  cases x with
  | order o answers agreed =>
    have horder : ρ.Covers o.passwords := hx.subset (List.subset_append_left _ _)
    have htyped : ρ.Covers (Password.typed answers) := hx.subset (List.subset_append_right _ _)
    have hsitting : ρ.Sittings ⟨σ, answers, agreed⟩ ⟨σ', answers.map ρ.answer, agreed⟩ :=
      ⟨h, htyped, rfl, rfl⟩
    exact ((alike_order o horder).run hsitting hids).2.toScenes
  | elsewhere e =>
    refine ⟨h.files, ?_⟩
    cases e with
    | inject f => exact h.store.inject f
    | request env r =>
      have hnow (id : String) (hid : σ.store.contains id = true) : ρ.TellsApart id :=
        hids id (Store.contains_next hid (.request env r))
      exact (h.store.send hx hnow env).2

/-- **Nothing that happens tells two runs apart.** -/
theorem Renaming.Scenes.after {σ σ' : Surroundings} (h : ρ.Scenes σ σ') {xs : List Deed}
    (hxs : ∀ x ∈ xs, ρ.Covers x.passwords)
    (hids : ∀ id, (σ.after envs xs).store.contains id = true → ρ.TellsApart id) :
    ρ.Scenes (σ.after envs xs) (σ'.after envs (xs.map ρ.deed)) := by
  induction xs generalizing σ σ' with
  | nil => exact h
  | cons x xs ih =>
    have hnow (id : String) (hid : (σ.next envs x).store.contains id = true) : ρ.TellsApart id :=
      hids id (Surroundings.contains_after hid xs)
    exact ih (h.next (hxs x (by simp)) hnow) (fun y hy => hxs y (by simp [hy])) hids

/-- **Working copies do not depend on passwords.** The same commands are carried out over stores that
differ only by a renaming of the passwords in play, and whatever else happens to the one store happens
to the other, with the passwords renamed. Then both runs leave the same files. -/
theorem Surroundings.files_after_renamed {σ σ' : Surroundings} (h : ρ.Scenes σ σ') (xs : List Deed)
    (hxs : ∀ x ∈ xs, ρ.Covers x.passwords)
    (hids : ∀ id, (σ.after envs xs).store.contains id = true → ρ.TellsApart id) :
    (σ'.after envs (xs.map ρ.deed)).files = (σ.after envs xs).files :=
  (h.after hxs hids).files

end Runs

/-! ## A visit to a document behind a password -/

/-- One password is in play, and is called otherwise in the other run. -/
def concealed : Renaming where
  InPlay p := p = "secret"
  name _ := "hidden"
  injective p q hp hq _ := hp.trans hq.symm
  notBlank _ _ _ := by decide +kernel

/-- The time and the ids of the visit. -/
def visitSetting : Store.Setting := ⟨fun n => "new" ++ toString n, 7⟩

/-- No files yet, and a store with a document that a password opens. -/
def vault (password : String) : Surroundings where
  files := {}
  store := ({} : Store).seed visitSetting "doc1" (.single "" "" "Hello") 1 (some password) none

/-- How the document is saved. -/
def visitContext : Command.Context := ⟨⟨1024, ⟨0, 0⟩⟩, "http://localhost/open", 3⟩

/-- **A visit**: the document is fetched, changed and saved, at first without the password; someone
else looks at it; it is saved once more as another one, which gets the same password. -/
def visit : List Deed := [
  .order (.errand (.pull "doc1" "copy")) [some "secret"] [],
  .order (.errand (.addDataset "copy" "Fresh")) [] [],
  .order (.errand (.push visitContext "copy" false)) [some " "] [],
  .order (.errand (.push visitContext "copy" false)) [some "secret"] [],
  .elsewhere (.request visitSetting (Sync.fetchRequest "doc1" (some "secret"))),
  .order (.force visitContext "copy" true) [] [],
  .order (.errand (.protect visitContext "copy" ⟨some "secret", none, .inl rfl⟩)) [] []]

/-- The visit leaves the same files under either password. -/
theorem files_after_visit : concealed.Scenes (vault "secret") (vault "hidden") ∧
    (∀ x ∈ visit, concealed.Covers x.passwords) ∧ (∀ id, concealed.TellsApart id) ∧
      ((vault "hidden").after (fun _ => visitSetting) (visit.map concealed.deed)).files =
        ((vault "secret").after (fun _ => visitSetting) visit).files := by
  have hsecret : concealed.Covers (some "secret").toList := fun p hp => List.mem_singleton.1 hp
  have hscenes : concealed.Scenes (vault "secret") (vault "hidden") :=
    ⟨rfl, Renaming.Stores.empty.seed visitSetting "doc1" (DataTemplate.wellFormed_single _ _ _) 1
      hsecret concealed.covers_nil⟩
  have hvisit : ∀ x ∈ visit, ∀ p ∈ x.passwords, p = "secret" := by decide +kernel
  have hids (id : String) : concealed.TellsApart id :=
    ⟨fun p q hp hq _ => hp.trans hq.symm, fun p q _ _ _ => rfl⟩
  exact ⟨hscenes, hvisit, hids,
    Surroundings.files_after_renamed hscenes visit hvisit fun id _ => hids id⟩

end TemplateShare
