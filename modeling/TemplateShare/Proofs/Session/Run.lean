import Mathlib.Data.List.Induction
import TemplateShare.Proofs.Session.Passwords

/-! # Runs of one session

Operations one after the other, each with any replies of the store. What an operation hands out,
such as a question or a fetch that has been started, may be gone on with at any later time, when
the session has moved on. A run therefore remembers all that has been handed out.

* **`Session.Handout`**, **`Session.Stage`** — a session with what it has handed out.
* **`Session.Call`**, **`Session.Run`** — an operation that is possible, and operations in a row.
* **`Session.Run.preserves`** — what every call preserves holds after every run.
* **`Session.Run.unique`** — operations and replies determine a run. -/

namespace TemplateShare

namespace Dialogue

variable {α : Type}

/-- **Replies determine a dialogue**: its requests and its value. -/
theorem Exchanged.unique {d : Dialogue α} {es es' : List (Request × Reply)} {a a' : α}
    (h : d.Exchanged es a) (h' : d.Exchanged es' a') (hreplies : es.map (·.2) = es'.map (·.2)) :
    es = es' ∧ a = a' := by
  induction h generalizing es' with
  | done a =>
    obtain ⟨rfl, rfl⟩ := exchanged_done_iff.1 h'
    exact ⟨rfl, rfl⟩
  | exchange _ ih =>
    obtain ⟨x, rest, rfl, hrest⟩ := exchanged_exchange_iff.1 h'
    obtain ⟨rfl, htail⟩ := List.cons.inj hreplies
    obtain ⟨rfl, rfl⟩ := ih hrest htail
    exact ⟨rfl, rfl⟩

end Dialogue

namespace Session

/-! ## Calls -/

/-- **What has been handed out** to go on with: fetches that have been started, questions for the
password of a load and of an update, and questions whether to remove a dataset or to paste. -/
structure Handout where
  fetches : List Sync.PendingFetch := []
  loads : List LoadTicket := []
  updates : List Sync.UpdatePrompt := []
  removals : List String := []
  pastes : List DataTemplate := []

/-- **What a result hands out** comes to the rest. -/
def Handout.add (h : Handout) : Result → Handout
  | .started (.ok p) => { h with fetches := p :: h.fetches }
  | .fetched (.ok (.passwordRequired t)) => { h with loads := t :: h.loads }
  | .saved (.ok (.passwordRequired p)) => { h with updates := p :: h.updates }
  | .removed (.ok (.ask q)) => { h with removals := q.action :: h.removals }
  | .pasted (.ask q) => { h with pastes := q.action :: h.pastes }
  | _ => h

namespace Handout

variable {h : Handout} {result : Result}

/-- A fetch that has been handed out has been started. -/
theorem mem_fetches_add {p : Sync.PendingFetch} :
    p ∈ (h.add result).fetches ↔ result = .started (.ok p) ∨ p ∈ h.fetches := by
  unfold add
  split <;> simp_all [eq_comm]

/-- A load whose ticket has been handed out has asked for a password. -/
theorem mem_loads_add {t : LoadTicket} :
    t ∈ (h.add result).loads ↔ result = .fetched (.ok (.passwordRequired t)) ∨ t ∈ h.loads := by
  unfold add
  split <;> simp_all [eq_comm]

/-- An update whose question has been handed out has asked for a password. -/
theorem mem_updates_add {p : Sync.UpdatePrompt} :
    p ∈ (h.add result).updates ↔ result = .saved (.ok (.passwordRequired p)) ∨ p ∈ h.updates := by
  unfold add
  split <;> simp_all [eq_comm]

end Handout

/-- **Whether an operation is possible**: only what has been handed out can be gone on with. -/
def Operation.Possible (h : Handout) : Operation → Prop
  | .applyFetch p _ => p ∈ h.fetches
  | .fetchWithPassword t _ => t ∈ h.loads
  | .resumeUpdate _ p _ => p ∈ h.updates
  | .confirmRemove name => name ∈ h.removals
  | .confirmPaste dt => dt ∈ h.pastes
  | _ => True

/-- **A session with what it has handed out.** -/
structure Stage where
  session : Session
  handout : Handout := {}

/-- **One operation of a run**, with its exchanges and its result, and the session after it. -/
structure Call where
  before : Stage
  operation : Operation
  exchanges : List (Request × Reply)
  result : Result
  session : Session

namespace Call

/-- What there is after a call. -/
def after (c : Call) : Stage := ⟨c.session, c.before.handout.add c.result⟩

/-- **A call that can happen.** -/
structure Valid (c : Call) : Prop where
  possible : c.operation.Possible c.before.handout
  step : Step c.before.session c.operation c.exchanges c.result c.session

/-- **What comes in with a call**: the operation and the replies to its requests. -/
def input (c : Call) : Operation × List Reply := (c.operation, c.exchanges.map (·.2))

/-- **What goes out with a call**: the requests it sends, and that of a fetch it starts. -/
def sent (c : Call) : List Request := requests c.exchanges c.result

/-- **What comes in determines a call.** -/
theorem unique {c c' : Call} (h : c.Valid) (h' : c'.Valid) (hbefore : c.before = c'.before)
    (hinput : c.input = c'.input) : c = c' := by
  obtain ⟨before, operation, exchanges, result, session⟩ := c
  obtain ⟨before', operation', exchanges', result', session'⟩ := c'
  obtain rfl : before = before' := hbefore
  obtain ⟨rfl, hreplies⟩ := Prod.mk.inj hinput
  obtain ⟨rfl, heq⟩ := h.step.unique h'.step hreplies
  obtain ⟨rfl, rfl⟩ := Prod.mk.inj heq
  rfl

/-- **A call of an operation that sends nothing.** -/
def quiet (before : Stage) (op : Operation) (x : Result × Session) : Call :=
  ⟨before, op, [], x.1, x.2⟩

/-- It can happen if the operation is possible. -/
theorem valid_quiet {before : Stage} {op : Operation} {x : Result × Session}
    (hpossible : op.Possible before.handout) (hdone : op.perform before.session = .done x) :
    (quiet before op x).Valid where
  possible := hpossible
  step := by
    rw [Step, quiet, hdone]
    exact .done x

end Call

/-! ## Runs -/

/-- **A run**: calls that can happen, one after the other. -/
inductive Run (start : Stage) : List Call → Stage → Prop
  | nil : Run start [] start
  | snoc {calls : List Call} {c : Call} (run : Run start calls c.before) (valid : c.Valid) :
      Run start (calls ++ [c]) c.after

namespace Run

variable {start middle fin : Stage} {calls earlier later : List Call} {c : Call}

/-- A run without calls stays where it is. -/
@[simp] theorem nil_iff : Run start [] fin ↔ fin = start := by
  constructor
  · intro h
    generalize hcalls : ([] : List Call) = calls at h
    cases h with
    | nil => rfl
    | snoc => simp at hcalls
  · rintro rfl
    exact .nil

/-- A run ends with its last call. -/
theorem snoc_iff : Run start (calls ++ [c]) fin ↔ Run start calls c.before ∧ c.Valid ∧
    fin = c.after := by
  constructor
  · intro h
    generalize hcalls : calls ++ [c] = all at h
    cases h with
    | nil => simp at hcalls
    | snoc run valid =>
      obtain ⟨rfl, hlast⟩ := List.append_inj' hcalls rfl
      obtain rfl := List.singleton_inj.1 hlast
      exact ⟨run, valid, rfl⟩
  · rintro ⟨run, valid, rfl⟩
    exact .snoc run valid

/-- A run goes on with an operation that sends nothing. -/
theorem quiet (run : Run start calls fin) (op : Operation) {x : Result × Session}
    (hpossible : op.Possible fin.handout) (hdone : op.perform fin.session = .done x) :
    Run start (calls ++ [.quiet fin op x]) (Call.quiet fin op x).after :=
  run.snoc (Call.valid_quiet hpossible hdone)

/-- **A run is cut anywhere** into two runs. -/
theorem append_iff : Run start (earlier ++ later) fin ↔
    ∃ middle, Run start earlier middle ∧ Run middle later fin := by
  induction later using List.reverseRecOn generalizing fin with
  | nil => simp
  | append_singleton later c ih =>
    rw [← List.append_assoc, snoc_iff, ih]
    constructor
    · rintro ⟨⟨middle, hfirst, hsecond⟩, hvalid, rfl⟩
      exact ⟨middle, hfirst, .snoc hsecond hvalid⟩
    · rintro ⟨middle, hfirst, hsecond⟩
      obtain ⟨hmore, hvalid, rfl⟩ := snoc_iff.1 hsecond
      exact ⟨⟨middle, hfirst, hmore⟩, hvalid, rfl⟩

/-- A run starts with its first call. -/
theorem cons_iff : Run start (c :: later) fin ↔
    start = c.before ∧ c.Valid ∧ Run c.after later fin := by
  rw [← List.singleton_append, append_iff]
  constructor
  · rintro ⟨middle, hfirst, hlater⟩
    obtain ⟨hnil, hvalid, rfl⟩ := snoc_iff.1 (show Run start ([] ++ [c]) middle from hfirst)
    exact ⟨(nil_iff.1 hnil).symm, hvalid, hlater⟩
  · rintro ⟨rfl, hvalid, hlater⟩
    exact ⟨c.after, Run.nil.snoc hvalid, hlater⟩

/-- **A run is cut at a call** into what comes before and what comes after it. -/
theorem cut (run : Run start (earlier ++ c :: later) fin) :
    Run start earlier c.before ∧ c.Valid ∧ Run c.after later fin := by
  obtain ⟨middle, hearlier, hrest⟩ := append_iff.1 run
  obtain ⟨rfl, hvalid, hlater⟩ := cons_iff.1 hrest
  exact ⟨hearlier, hvalid, hlater⟩

/-- **What every call preserves holds after every run.** -/
theorem preserves {P : Stage → Prop} (hcall : ∀ c : Call, c.Valid → P c.before → P c.after)
    (run : Run start calls fin) (hstart : P start) : P fin := by
  induction run with
  | nil => exact hstart
  | snoc _ valid ih => exact hcall _ valid ih

/-- **Every call of a run** is made at a stage that a run leads to. -/
theorem reached (run : Run start calls fin) (hc : c ∈ calls) :
    c.Valid ∧ ∃ earlier, Run start earlier c.before := by
  obtain ⟨earlier, later, rfl⟩ := List.append_of_mem hc
  obtain ⟨hearlier, hvalid, -⟩ := run.cut
  exact ⟨hvalid, earlier, hearlier⟩

/-- **What comes in determines a run.** -/
theorem unique {calls' : List Call} {fin' : Stage} (run : Run start calls fin)
    (run' : Run start calls' fin') (hinput : calls.map Call.input = calls'.map Call.input) :
    calls = calls' ∧ fin = fin' := by
  induction run generalizing calls' fin' with
  | nil =>
    obtain rfl : calls' = [] := by simpa using hinput.symm
    exact ⟨rfl, (nil_iff.1 run').symm⟩
  | @snoc calls c _ valid ih =>
    -- The other run ends with a call too, and agrees up to it.
    cases calls' using List.reverseRecOn with
    | nil => simp at hinput
    | append_singleton calls' c' =>
      obtain ⟨hfirst, valid', rfl⟩ := snoc_iff.1 run'
      rw [List.map_append, List.map_append] at hinput
      obtain ⟨hcalls, hlast⟩ := List.append_inj' hinput rfl
      obtain ⟨rfl, hbefore⟩ := ih hfirst hcalls
      obtain rfl := Call.unique valid valid' hbefore (List.singleton_inj.1 hlast)
      exact ⟨rfl, rfl⟩

end Run

end Session

end TemplateShare
