import TemplateShare.Command.Remote
import TemplateShare.Proofs.Command.Prompted

/-! # The bound on questions

A save asks for a password for as long as the store refuses the last one, and a bound keeps it from
going on forever. The bound matters only to a run that asks for more passwords than it allows: any
other one is the same under every larger bound, turn by turn. So is a command that saves.

* **`Dialogue.Within`** — a dialogue that is another one with its last questions cut off.
* **`Dialogue.Within.run`** — both are carried out in the same way unless the longer one asks on.
* **`Command.within_saveWithPrompt`** — a save with a smaller bound.
* **`Command.push_of_attempts_le`**, **`Command.protect_of_attempts_le`** — the commands that
  save. -/

namespace TemplateShare

/-! ## Dialogues that are cut off -/

namespace Dialogue

variable {α β σ : Type} {n : Nat} {d d' : Dialogue α}

/-- **The first dialogue is the second one**, but where that asks for a password after `n` others,
it may do anything else. -/
inductive Within : Nat → Dialogue α → Dialogue α → Prop
  | cut (d : Dialogue α) (q : String) (next : Option String → Dialogue α) :
      Within 0 d (.askPassword q next)
  | done (n : Nat) (a : α) : Within n (.done a) (.done a)
  | exchange {n : Nat} (r : Request) {next next' : Reply → Dialogue α}
      (more : ∀ x, Within n (next x) (next' x)) : Within n (.exchange r next) (.exchange r next')
  | askPassword {n : Nat} (q : String) {next next' : Option String → Dialogue α}
      (more : ∀ x, Within n (next x) (next' x)) :
      Within (n + 1) (.askPassword q next) (.askPassword q next')
  | confirm {n : Nat} (q : String) {next next' : Bool → Dialogue α}
      (more : ∀ x, Within n (next x) (next' x)) : Within n (.confirm q next) (.confirm q next')
  | loadFile {n : Nat} (path : String) {next next' : Except FileError Bytes → Dialogue α}
      (more : ∀ x, Within n (next x) (next' x)) :
      Within n (.loadFile path next) (.loadFile path next')
  | saveFile {n : Nat} (path : String) (content : Bytes)
      {next next' : Except FileError Unit → Dialogue α}
      (more : ∀ x, Within n (next x) (next' x)) :
      Within n (.saveFile path content next) (.saveFile path content next')

/-- Nothing has to be cut off. -/
theorem Within.refl (n : Nat) (d : Dialogue α) : Within n d d := by
  induction d generalizing n with
  | done a => exact .done n a
  | exchange r next ih => exact .exchange r fun x => ih x n
  | askPassword q next ih =>
    cases n with
    | zero => exact .cut _ q next
    | succ n => exact .askPassword q fun x => ih x n
  | confirm q next ih => exact .confirm q fun x => ih x n
  | loadFile path next ih => exact .loadFile path fun x => ih x n
  | saveFile path content next ih => exact .saveFile path content fun x => ih x n

/-- What is the same for longer is the same for less long. -/
theorem Within.mono {m : Nat} (h : Within m d d') (hle : n ≤ m) : Within n d d' := by
  induction h generalizing n with
  | cut d q next =>
    obtain rfl : n = 0 := Nat.le_zero.1 hle
    exact .cut d q next
  | done m a => exact .done n a
  | exchange r _ ih => exact .exchange r fun x => ih x hle
  | askPassword q _ ih =>
    cases n with
    | zero => exact .cut _ q _
    | succ n => exact .askPassword q fun x => ih x (Nat.le_of_succ_le_succ hle)
  | confirm q _ ih => exact .confirm q fun x => ih x hle
  | loadFile path _ ih => exact .loadFile path fun x => ih x hle
  | saveFile path content _ ih => exact .saveFile path content fun x => ih x hle

/-- **Dialogues go on within each other.** -/
theorem Within.bind (h : Within n d d') {f f' : α → Dialogue β} (hf : ∀ a, Within n (f a) (f' a)) :
    Within n (d.bind f) (d'.bind f') := by
  induction h with
  | cut d q next => exact .cut _ q _
  | done n a => exact hf a
  | exchange r _ ih => exact .exchange r fun x => ih x hf
  | askPassword q _ ih =>
    exact .askPassword q fun x => ih x fun a => (hf a).mono (Nat.le_succ _)
  | confirm q _ ih => exact .confirm q fun x => ih x hf
  | loadFile path _ ih => exact .loadFile path fun x => ih x hf
  | saveFile path content _ ih => exact .saveFile path content fun x => ih x hf

/-- **What differs is only a run that asks on**: it comes to the same in the same turns, or the
first dialogue asks `n` times, and the second one more often. -/
theorem Within.run (h : Within n d d') (w : Replies σ) (x : σ) :
    (d.run w x = d'.run w x ∧ d.transcript w x = d'.transcript w x) ∨
      n ≤ (answers (d.transcript w x)).length ∧ n < (answers (d'.transcript w x)).length := by
  induction h generalizing x with
  | cut d q next => exact .inr ⟨Nat.zero_le _, Nat.succ_pos _⟩
  | done n a => exact .inl ⟨rfl, rfl⟩
  | exchange r _ ih =>
    exact (ih _ (w.exchange r x).2).imp_left fun h => ⟨h.1, congrArg (_ :: ·) h.2⟩
  | askPassword q _ ih =>
    exact (ih _ (w.askPassword q x).2).imp (fun h => ⟨h.1, congrArg (_ :: ·) h.2⟩)
      fun h => ⟨Nat.succ_le_succ h.1, Nat.succ_lt_succ h.2⟩
  | confirm q _ ih =>
    exact (ih _ (w.confirm q x).2).imp_left fun h => ⟨h.1, congrArg (_ :: ·) h.2⟩
  | loadFile path _ ih =>
    exact (ih _ (w.loadFile path x).2).imp_left fun h => ⟨h.1, congrArg (_ :: ·) h.2⟩
  | saveFile path content _ ih =>
    exact (ih _ (w.saveFile path content x).2).imp_left fun h => ⟨h.1, congrArg (_ :: ·) h.2⟩

end Dialogue

namespace Procedure

open Dialogue (Within)

variable {α β : Type} {n : Nat}

/-- **Procedures go on within each other.** -/
theorem within_bind {x x' : Procedure α} {f f' : α → Procedure β} (h : Within n x.run x'.run)
    (hf : ∀ a, Within n (f a).run (f' a).run) : Within n (x >>= f).run (x' >>= f').run := by
  refine Within.bind h fun r => ?_
  cases r with
  | ok a => exact hf a
  | error e => exact .done n _

/-- What follows on the same part is all that is cut off. -/
theorem within_bind_refl (x : Procedure α) {f f' : α → Procedure β}
    (hf : ∀ a, Within n (f a).run (f' a).run) : Within n (x >>= f).run (x >>= f').run :=
  within_bind (.refl n _) hf

/-- A dialogue as part of a procedure. -/
theorem within_perform {d d' : Dialogue α} (h : Within n d d') :
    Within n (Command.perform d).run (Command.perform d').run :=
  Within.bind h fun _ => .done n _

end Procedure

/-! ## Saves with a bound -/

namespace Command

open Dialogue Procedure

/-- **A save with a smaller bound** is the save with its last questions cut off. -/
theorem within_saveWithPrompt (o : Sync.Options) {n m : Nat} (hle : n ≤ m) (s : Session)
    (outcome : Sync.SaveOutcome) :
    Within n (saveWithPrompt o n s outcome) (saveWithPrompt o m s outcome) := by
  induction n generalizing m s outcome with
  | zero =>
    cases m with
    | zero => exact .refl 0 _
    | succ m =>
      cases outcome with
      | passwordRequired p => exact .cut _ _ _
      | _ => exact .done 0 _
  | succ n ih =>
    obtain ⟨m, rfl⟩ := Nat.exists_eq_add_of_lt hle
    cases outcome with
    | passwordRequired p =>
      refine .askPassword _ fun answer => Within.bind (.refl n _) ?_
      rintro ⟨result, s⟩
      cases result with
      | ok outcome => exact ih (by omega) s outcome
      | error e => exact .done n _
    | _ => exact .done (n + 1) _

variable (ctx : Context) {n m : Nat} (hle : n ≤ m) (path : String)

include hle

/-- The end of a push with a smaller bound. -/
theorem within_finishPush (copy : WorkingCopy) (s : Session) (r : Report)
    (outcome : Sync.SaveOutcome) :
    Within n (finishPush { ctx with attempts := n } path copy s r outcome).run
      (finishPush { ctx with attempts := m } path copy s r outcome).run :=
  within_bind (within_perform (within_saveWithPrompt _ hle s outcome)) fun _ => .refl n _

/-- A push with a smaller bound. -/
theorem within_push (o : PushOptions) :
    Within n (push { ctx with attempts := n } path o).run
      (push { ctx with attempts := m } path o).run := by
  refine within_bind_refl _ fun (copy, s) => within_bind_refl _ fun (first, s) =>
    within_bind_refl _ fun start => ?_
  cases start with
  | saved outcome => exact within_finishPush ctx hle path _ s _ outcome
  | conflict q =>
    have hoverwrite (copy : WorkingCopy) (r : Report) :
        Within n (perform (Sync.overwrite ctx.options s q.action) >>= fun out => settle out.1 >>=
            finishPush { ctx with attempts := n } path copy out.2 r).run
          (perform (Sync.overwrite ctx.options s q.action) >>= fun out => settle out.1 >>=
            finishPush { ctx with attempts := m } path copy out.2 r).run :=
      within_bind_refl _ fun out => within_bind_refl _ fun outcome =>
        within_finishPush ctx hle path copy out.2 r outcome
    dsimp only
    split
    · exact hoverwrite _ _
    · refine within_bind_refl _ fun agreed => ?_
      cases agreed with
      | false => exact .refl n _
      | true => exact hoverwrite _ _

/-- Setting passwords with a smaller bound. -/
theorem within_protect (p : Protection) :
    Within n (protect { ctx with attempts := n } path p).run
      (protect { ctx with attempts := m } path p).run :=
  within_bind_refl _ fun _ => within_bind_refl _ fun _ => within_bind_refl _ fun (_, s) =>
    within_bind_refl _ fun outcome =>
      within_bind (within_perform (within_saveWithPrompt _ hle s outcome)) fun _ => .refl n _

variable {σ : Type} (w : Replies σ) (x : σ)

/-- **A push does not depend on its bound** unless it asks for more passwords than the bound allows.
Any other one comes to the same under a larger bound, in the same turns. -/
theorem push_of_attempts_le (o : PushOptions) :
    let short := (push { ctx with attempts := n } path o).run
    let long := (push { ctx with attempts := m } path o).run
    (short.run w x = long.run w x ∧ short.transcript w x = long.transcript w x) ∨
      n ≤ (answers (short.transcript w x)).length ∧ n < (answers (long.transcript w x)).length :=
  (within_push ctx hle path o).run w x

/-- **Setting passwords does not depend on the bound** either, unless it asks for more passwords
than the bound allows. -/
theorem protect_of_attempts_le (p : Protection) :
    let short := (protect { ctx with attempts := n } path p).run
    let long := (protect { ctx with attempts := m } path p).run
    (short.run w x = long.run w x ∧ short.transcript w x = long.transcript w x) ∨
      n ≤ (answers (short.transcript w x)).length ∧ n < (answers (long.transcript w x)).length :=
  (within_protect ctx hle path p).run w x

end Command

end TemplateShare
