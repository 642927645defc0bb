import TemplateShare.Proofs.Session.Passwords

/-! # Prompts and passwords stay with their document

A run of one session, together with what its user does: which fetches have been started, which
prompts have been shown and for which document, and which passwords the user has given for which
document. A prompt carries only a generation. Two things link the session to another document
within a generation, and leave its prompts or its passwords behind: a load that was in flight when
the prompt was shown, and a creation by a session that has a copy in the store already.

* **`Custody`**, **`Custody.Event`**, **`Custody.Run`** — the runs.
* **`Custody.Event.Faithful`**, **`Custody.Event.Attributed`** — an answer goes to the document of
  its prompt, and a request carries only passwords given for its document.
* **`Custody.Event.Careful`** — no answer to a prompt that has been overtaken, and no creation that
  takes passwords along.
* **`Custody.Run.safe_of_careful`** — careful runs keep prompts and passwords with their document,
  and a step that is not careful does not.
* **`Custody.exists_misdirected_answer`**, **`Custody.exists_leaked_password`** — runs at whose end
  another document gets a password. -/

namespace TemplateShare

open Session

/-! ## Runs -/

/-- **A prompt that has been shown**: the document it was shown for, and whether the session has
been linked to another one since. -/
structure Issued where
  prompt : Sync.UpdatePrompt
  document : String
  overtaken : Bool

/-- A session that is linked to another document overtakes the prompts of the first. -/
def Issued.overtake (i : Issued) : Option String → Issued
  | some id => { i with overtaken := id != i.document }
  | none => i

/-- **A session in the hands of a user**: the fetches that have been started, the prompts that have
been shown, and the passwords that were given, each with its document. -/
structure Custody where
  session : Session
  fetches : List Sync.PendingFetch := []
  prompts : List Issued := []
  given : List (String × String) := []

namespace Custody

/-- **What a user does**: carry out an operation, or answer a prompt that has been shown. -/
inductive Action where
  | perform (op : Operation)
  | answer (o : Sync.Options) (i : Issued) (text : Option String)

/-- The operation of an action. -/
def Action.operation : Action → Operation
  | .perform op => op
  | .answer o i text => .resumeUpdate o i.prompt text

/-- **Whether an action is possible**: only what has been handed out can be gone on with. -/
def Action.Possible (c : Custody) : Action → Prop
  | .perform (.resumeUpdate ..) => False
  | .perform (.applyFetch p _) => p ∈ c.fetches
  | .perform _ => True
  | .answer _ i _ => i ∈ c.prompts

/-- **The passwords that are given by an action**: typed for the document of a prompt, or set for
the document that the session is linked to. -/
def Action.gives (s : Session) : Action → List (String × String)
  | .perform (.fetchWithPassword t text) => text.toList.map (t.id, ·)
  | .perform (.protect p) => s.remoteId.toList.flatMap fun id => p.passwords.map (id, ·)
  | .perform _ => []
  | .answer _ i text => text.toList.map (i.document, ·)

/-- **One step of a run**: the action, the exchanges with the store, the result, and the session
before and after. -/
structure Event where
  before : Custody
  action : Action
  exchanges : List (Request × Reply)
  result : Result
  session : Session

namespace Event

/-- The prompts that a result shows. -/
def shown (result : Result) (s : Session) : List Issued :=
  match result, s.remoteId with
  | .saved (.ok (.passwordRequired p)), some id => [⟨p, id, false⟩]
  | _, _ => []

/-- The fetches that a result starts. -/
def started : Result → List Sync.PendingFetch
  | .started (.ok p) => [p]
  | _ => []

/-- What there is after a step. -/
def after (e : Event) : Custody where
  session := e.session
  fetches := started e.result ++ e.before.fetches
  prompts := shown e.result e.session ++ e.before.prompts.map (·.overtake e.result.linked?)
  given := e.action.gives e.before.session ++ e.before.given

/-- **A step that can happen.** -/
structure Valid (e : Event) : Prop where
  possible : e.action.Possible e.before
  step : Step e.before.session e.action.operation e.exchanges e.result e.session

/-- **An answer to a prompt reaches its document or none**: it is discarded, given up, or sent to
the document that the prompt was shown for. -/
def Faithful (e : Event) : Prop :=
  ∀ o i text, e.action = .answer o i text →
    (e.exchanges = [] ∧ (e.result = .saved (.ok .discarded) ∨ e.result = .saved (.ok .notUpdated))) ∨
      ∃ r reply, e.exchanges = [(r, reply)] ∧ r.path = documentPath (some i.document)

/-- **Passwords go only to the document they were given for.** -/
def Attributed (e : Event) : Prop :=
  ∀ r ∈ requests e.exchanges e.result, ∃ doc, r.path = documentPath doc ∧
    ∀ v ∈ r.secrets, ∃ id, doc = some id ∧ (id, v) ∈ e.after.given

/-- **A careful step**: no prompt of the present generation is answered after the session has been
linked to another document, and no new document takes over passwords that were not given for it. -/
structure Careful (e : Event) : Prop where
  answer : ∀ o i text, e.action = .answer o i text → Password.answer text ≠ none →
    i.prompt.ticket.generation = e.before.session.generation → i.overtaken = false
  creation : ∀ id, e.result = .saved (.ok (.created id)) →
    ∀ v ∈ e.before.session.held, (id, v) ∈ e.after.given

end Event

/-- **A run**: steps that can happen, one after the other. -/
inductive Run (c : Custody) : List Event → Custody → Prop
  | nil : Run c [] c
  | snoc {events : List Event} {e : Event} (run : Run c events e.before) (valid : e.Valid) :
      Run c (events ++ [e]) e.after

/-! ## The invariant of careful runs -/

/-- **Passwords held were given for the document** that the session is linked to. -/
def Owned (c : Custody) : Prop :=
  ∀ v ∈ c.session.held, ∃ id, c.session.remoteId = some id ∧ (id, v) ∈ c.given

/-- **What careful steps preserve.** A prompt of the present generation knows whether the session is
still linked to its document. -/
structure Sound (c : Custody) : Prop where
  owned : c.Owned
  fetches : ∀ p ∈ c.fetches, ∀ v ∈ p.password, (p.ticket.id, v) ∈ c.given
  generations : ∀ i ∈ c.prompts, i.prompt.ticket.generation ≤ c.session.generation
  prompts : ∀ i ∈ c.prompts, i.prompt.ticket.generation = c.session.generation →
    ∃ id, c.session.remoteId = some id ∧ (i.overtaken = true ↔ id ≠ i.document)

/-- A session that holds no passwords is the start of a sound run. -/
theorem sound_start {s : Session} (h : s.held = []) : Sound ⟨s, [], [], []⟩ where
  owned v hv := by rw [h] at hv; cases hv
  fetches p hp := by cases hp
  generations i hi := by cases hi
  prompts i hi := by cases hi

namespace Event

variable {e : Event}

/-- An answer is the action that goes on with an update. -/
theorem action_of_resumeUpdate (hv : e.Valid) {o : Sync.Options} {p : Sync.UpdatePrompt}
    {text : Option String} (h : e.action.operation = .resumeUpdate o p text) :
    ∃ i ∈ e.before.prompts, e.action = .answer o i text ∧ p = i.prompt := by
  have hpossible := hv.possible
  cases haction : e.action with
  | perform op =>
    rw [haction] at h hpossible
    obtain rfl : op = .resumeUpdate o p text := h
    exact hpossible.elim
  | answer o' i text' =>
    rw [haction] at h hpossible
    cases h
    exact ⟨i, hpossible, rfl, rfl⟩

/-- Any other operation is carried out as such. -/
theorem action_of_operation {op : Operation} (h : e.action.operation = op)
    (hop : ∀ o p text, op ≠ .resumeUpdate o p text) : e.action = .perform op := by
  cases haction : e.action with
  | perform op' =>
    rw [haction] at h
    exact congrArg _ h
  | answer o i text =>
    rw [haction] at h
    exact absurd h.symm (hop _ _ _)

/-- What was given stays given. -/
theorem given_subset_after (e : Event) : e.before.given ⊆ e.after.given :=
  List.subset_append_right _ _

/-- **A careful answer of the present generation is for the document of the session**, and its
password is given for it. -/
theorem answered_of_careful (hs : e.before.Sound) (hv : e.Valid) (hc : e.Careful)
    {o : Sync.Options} {p : Sync.UpdatePrompt} {text : Option String} {v : String}
    (hop : e.action.operation = .resumeUpdate o p text) (ha : Password.answer text = some v)
    (hcurrent : e.before.session.generation = p.ticket.generation) :
    ∃ i, e.action = .answer o i text ∧ e.before.session.remoteId = some i.document ∧
      (i.document, v) ∈ e.after.given := by
  obtain ⟨i, hi, haction, rfl⟩ := action_of_resumeUpdate hv hop
  have hnot := hc.answer o i text haction (by rw [ha]; exact Option.some_ne_none v) hcurrent.symm
  obtain ⟨id, hid, hovertaken⟩ := hs.prompts i hi hcurrent.symm
  have hsame : id = i.document := by
    by_cases h : id = i.document
    · exact h
    · rw [hovertaken.2 h] at hnot
      cases hnot
  refine ⟨i, haction, hsame ▸ hid, ?_⟩
  obtain ⟨rfl, -⟩ := Password.answer_eq_some ha
  rw [after, haction]
  exact List.mem_append_left _ (List.mem_singleton_self _)

/-- The password that is kept for fetches was given for the session's document. -/
theorem given_of_fetchCredential (hs : e.before.Sound) {id v : String}
    (hid : e.before.session.remoteId = some id) (hv : e.before.session.fetchCredential = some v) :
    (id, v) ∈ e.after.given := by
  have hheld : v ∈ e.before.session.held :=
    e.before.session.fetchCredential_subset_held (by rw [hv]; exact List.mem_singleton_self v)
  obtain ⟨id', hid', hgiven⟩ := hs.owned v hheld
  obtain rfl : id = id' := Option.some.inj (hid.symm.trans hid')
  exact e.given_subset_after hgiven

/-- **The password that a load presents was given for its document.** -/
theorem given_of_presents (hs : e.before.Sound) (hv : e.Valid) {id v : String}
    (h : e.action.operation.presents e.before.session id (some v)) : (id, v) ∈ e.after.given := by
  have hpossible := hv.possible
  -- Only fetches present a password: a kept one, one of a pending fetch, or one just typed.
  cases hop : e.action.operation with
  | applyFetch p reply =>
    rw [hop] at h
    obtain ⟨rfl, hpassword⟩ := h
    rw [action_of_operation hop fun _ _ _ => Operation.noConfusion] at hpossible
    exact e.given_subset_after (hs.fetches p hpossible v hpassword.symm)
  | fetch x =>
    rw [hop] at h
    obtain ⟨rfl, hpassword⟩ := h
    split at hpassword
    · next hid => exact given_of_fetchCredential hs hid hpassword.symm
    · cases hpassword
  | fetchWithPassword t text =>
    rw [hop] at h
    obtain ⟨rfl, hpassword⟩ := h
    obtain ⟨rfl, -⟩ := Password.answer_eq_some hpassword.symm
    rw [after, action_of_operation hop fun _ _ _ => Operation.noConfusion]
    exact List.mem_append_left _ (List.mem_singleton_self _)
  | _ => rw [hop] at h; exact h.elim

/-- The passwords after a careful step were given for the document of the session. -/
theorem owned_after (hs : e.before.Sound) (hv : e.Valid) (hc : e.Careful) : e.after.Owned := by
  have hkept (v : String) (h : v ∈ e.before.session.held)
      (hid : e.session.remoteId = e.before.session.remoteId) :
      ∃ id, e.session.remoteId = some id ∧ (id, v) ∈ e.after.given := by
    obtain ⟨id, hlinked, hgiven⟩ := hs.owned v h
    exact ⟨id, hid.trans hlinked, e.given_subset_after hgiven⟩
  intro v hmem
  change v ∈ e.session.held at hmem
  -- What is held was held before, or has come with the step, for the document it leads to.
  cases changed_of_step hv.step with
  | kept _ _ hid hheld => exact hkept v (hheld hmem) hid
  | reset _ _ _ hheld => rw [hheld] at hmem; cases hmem
  | @secured p id hop hlinked _ _ hid hheld =>
    refine ⟨id, hid.trans hlinked, List.mem_append_left _ ?_⟩
    rw [action_of_operation hop fun _ _ _ => Operation.noConfusion, Action.gives, hlinked]
    rw [hheld] at hmem
    simpa using hmem
  | @loaded summary password _ hpresents _ hid hheld =>
    rw [hheld, Option.mem_toList] at hmem
    rw [show password = some v from hmem] at hpresents
    exact ⟨summary.id, hid, given_of_presents hs hv hpresents⟩
  | @created id hcreated _ _ hid hheld =>
    rw [hheld] at hmem
    exact ⟨id, hid, hc.creation id hcreated v hmem⟩
  | answered hop hanswer hcurrent _ _ hid hheld =>
    obtain rfl | hbefore := List.mem_cons.1 (hheld hmem)
    · obtain ⟨i, -, hlinked, hgiven⟩ := answered_of_careful hs hv hc hop hanswer hcurrent
      exact ⟨i.document, hid.trans hlinked, hgiven⟩
    · exact hkept v hbefore hid

/-- A fetch that is started presents a password only for the document it was given for. -/
theorem fetches_after (hs : e.before.Sound) (hv : e.Valid) :
    ∀ p ∈ e.after.fetches, ∀ v ∈ p.password, (p.ticket.id, v) ∈ e.after.given := by
  intro p hp v hpassword
  -- A fetch that has just begun carries a password only if the session is at its document.
  obtain hnew | hold := List.mem_append.1 hp
  · have hresult : e.result = .started (.ok p) := by
      unfold started at hnew
      split at hnew
      · next heq => rw [heq, List.mem_singleton.1 hnew]
      · cases hnew
    have hstep := hv.step
    rw [hresult] at hstep
    obtain ⟨id, hbegin⟩ := started_of_step hstep
    obtain ⟨rfl, -⟩ := beginFetch_eq_ok hbegin
    have hpresented : (if e.before.session.remoteId = some id then
        e.before.session.fetchCredential else none) = some v := hpassword
    split at hpresented
    · next hid => exact given_of_fetchCredential hs hid hpresented
    · cases hpresented
  · exact e.given_subset_after (hs.fetches p hold v hpassword)

/-- A step never goes back to an earlier generation. -/
theorem generation_le (hv : e.Valid) : e.before.session.generation ≤ e.session.generation := by
  cases changed_of_step hv.step with
  | kept _ h _ _ => exact h
  | reset _ h _ _ => exact Nat.le_of_lt h
  | secured _ _ _ h _ _ => exact Nat.le_of_eq h.symm
  | loaded _ _ h _ _ => exact h
  | created _ _ h _ _ => exact Nat.le_of_eq h.symm
  | answered _ _ _ _ h _ _ => exact Nat.le_of_eq h.symm

/-- Being overtaken changes neither prompt nor document. -/
theorem overtake_prompt (i : Issued) (doc : Option String) :
    (i.overtake doc).prompt = i.prompt ∧ (i.overtake doc).document = i.document := by
  cases doc <;> exact ⟨rfl, rfl⟩

/-- A prompt that is shown is of the present generation and for the session's document. -/
theorem shown_spec (hv : e.Valid) {i : Issued} (h : i ∈ shown e.result e.session) :
    i.prompt.ticket.generation = e.session.generation ∧
      e.session.remoteId = some i.document ∧ i.overtaken = false := by
  unfold shown at h
  split at h
  · next p id hresult hid =>
    have hstep := hv.step
    rw [hresult] at hstep
    rw [List.mem_singleton.1 h]
    exact ⟨(prompt_of_step hstep).1, hid, rfl⟩
  · cases h

/-- **Prompts know after a step whether the session has left their document.** -/
theorem prompts_after (hs : e.before.Sound) (hv : e.Valid) :
    ∀ i ∈ e.after.prompts, i.prompt.ticket.generation ≤ e.session.generation ∧
      (i.prompt.ticket.generation = e.session.generation →
        ∃ id, e.session.remoteId = some id ∧ (i.overtaken = true ↔ id ≠ i.document)) := by
  intro i hi
  obtain hnew | hold := List.mem_append.1 hi
  · obtain ⟨hgen, hid, hnot⟩ := shown_spec hv hnew
    exact ⟨Nat.le_of_eq hgen, fun _ => ⟨i.document, hid, by simp [hnot]⟩⟩
  · obtain ⟨j, hj, rfl⟩ := List.mem_map.1 hold
    obtain ⟨hprompt, hdocument⟩ := overtake_prompt j e.result.linked?
    rw [hprompt, hdocument]
    have hle := generation_le hv
    have hbound := hs.generations j hj
    refine ⟨Nat.le_trans hbound hle, fun hcurrent => ?_⟩
    -- The generation has not changed, so the prompt was of the present generation before.
    have hbefore : j.prompt.ticket.generation = e.before.session.generation :=
      Nat.le_antisymm hbound (hcurrent ▸ hle)
    have hsame (hunlinked : e.result.linked? = none)
        (hid : e.session.remoteId = e.before.session.remoteId) :
        ∃ id, e.session.remoteId = some id ∧
          ((j.overtake e.result.linked?).overtaken = true ↔ id ≠ j.document) := by
      rw [hunlinked, hid]
      exact hs.prompts j hj hbefore
    have hnew {id : String} (hlinked : e.result.linked? = some id)
        (hid : e.session.remoteId = some id) :
        ∃ id, e.session.remoteId = some id ∧
          ((j.overtake e.result.linked?).overtaken = true ↔ id ≠ j.document) := by
      rw [hlinked]
      exact ⟨id, hid, by simp [Issued.overtake]⟩
    cases changed_of_step hv.step with
    | kept hunlinked _ hid _ => exact hsame hunlinked hid
    | reset _ hlt _ _ => rw [← hcurrent, hbefore] at hlt; exact absurd hlt (Nat.lt_irrefl _)
    | secured _ _ hunlinked _ hid _ => exact hsame hunlinked hid
    | loaded hloaded _ _ hid _ => exact hnew (by rw [hloaded]; rfl) hid
    | created hcreated _ _ hid _ => exact hnew (by rw [hcreated]; rfl) hid
    | answered _ _ _ hunlinked _ hid _ => exact hsame hunlinked hid

/-- **A careful step preserves the invariant.** -/
theorem sound_after (hs : e.before.Sound) (hv : e.Valid) (hc : e.Careful) : e.after.Sound where
  owned := owned_after hs hv hc
  fetches := fetches_after hs hv
  generations i hi := (prompts_after hs hv i hi).1
  prompts i hi := (prompts_after hs hv i hi).2

/-! ## Careful steps are safe -/

/-- **An answer reaches the document of its prompt** if the step is careful. -/
theorem faithful_of_careful (hs : e.before.Sound) (hv : e.Valid) (hc : e.Careful) :
    e.Faithful := by
  intro o i text haction
  have hop : e.action.operation = .resumeUpdate o i.prompt text := by rw [haction]; rfl
  have hstep := hv.step
  rw [hop] at hstep
  obtain ⟨out, hsaves, hresult, -⟩ := saves_of_step hstep rfl
  have hlinked {password : String} (hanswer : Password.answer text = some password)
      (hcurrent : e.before.session.generation = i.prompt.ticket.generation) :
      e.before.session.remoteId = some i.document := by
    obtain ⟨j, hj, hlinked, -⟩ := answered_of_careful hs hv hc hop hanswer hcurrent
    obtain rfl : i = j := by rw [haction] at hj; cases hj; rfl
    exact hlinked
  rw [hresult]
  generalize hes : e.exchanges = es at hsaves
  cases hsaves with
  | idle begins => exact absurd rfl (begins o i.prompt text)
  | created creates => exact absurd rfl (begins_of_creates creates o i.prompt text)
  | begun _ updates => exact absurd rfl (begins_of_updates updates o i.prompt text)
  | late => exact .inl ⟨rfl, .inl rfl⟩
  | givenUp => exact .inl ⟨rfl, .inr rfl⟩
  | unlinked current answered unlinked => cases (hlinked answered current).symm.trans unlinked
  | resumed current linked answered =>
    obtain rfl := Option.some.inj ((hlinked answered current).symm.trans linked)
    exact .inr ⟨_, _, rfl, Sync.path_updateRequest _ _ _ _ _⟩

/-- **Every request carries only passwords given for its document** if the step is careful. -/
theorem attributed_of_careful (hs : e.before.Sound) (hv : e.Valid) (hc : e.Careful) :
    e.Attributed := by
  have howned {id v : String} (hid : e.before.session.remoteId = some id)
      (h : v ∈ e.before.session.held) : (id, v) ∈ e.after.given := by
    obtain ⟨id', hid', hgiven⟩ := hs.owned v h
    obtain rfl : id = id' := Option.some.inj (hid.symm.trans hid')
    exact e.given_subset_after hgiven
  intro r hr
  -- Each way to send a password names the document that it goes to.
  cases sent_of_step hv.step r hr with
  | @bare doc hpath hsecrets =>
    refine ⟨doc, hpath, fun v hmem => ?_⟩
    rw [hsecrets] at hmem
    cases hmem
  | @linked id hid hpath hsecrets =>
    exact ⟨some id, hpath, fun v hmem => ⟨id, rfl, howned hid (hsecrets hmem)⟩⟩
  | @opened t text password hop hanswer hpath hsecrets =>
    refine ⟨some t.id, hpath, fun v hmem => ⟨t.id, rfl, ?_⟩⟩
    rw [hsecrets, List.mem_singleton] at hmem
    obtain ⟨rfl, -⟩ := Password.answer_eq_some hanswer
    rw [hmem, after, action_of_operation hop fun _ _ _ => Operation.noConfusion]
    exact List.mem_append_left _ (List.mem_singleton_self _)
  | @answered o p text password id hop hanswer hcurrent hid hpath hsecrets =>
    refine ⟨some id, hpath, fun v hmem => ⟨id, rfl, ?_⟩⟩
    obtain ⟨i, -, hlinked, hgiven⟩ := answered_of_careful hs hv hc hop hanswer hcurrent
    obtain rfl | hheld := List.mem_cons.1 (hsecrets hmem)
    · obtain rfl : i.document = id := Option.some.inj (hlinked.symm.trans hid)
      exact hgiven
    · exact howned hid hheld

end Event

/-- A run goes on with an action. -/
theorem Run.then {c₀ c : Custody} {events : List Event} (run : Run c₀ events c) (action : Action)
    {es : List (Request × Reply)} {result : Result} {s' : Session} (possible : action.Possible c)
    (step : Step c.session action.operation es result s') :
    Run c₀ (events ++ [⟨c, action, es, result, s'⟩]) (Event.after ⟨c, action, es, result, s'⟩) :=
  .snoc (e := ⟨c, action, es, result, s'⟩) run ⟨possible, step⟩

/-- **Careful runs stay sound.** -/
theorem Run.sound {c₀ c : Custody} {events : List Event} (run : Run c₀ events c)
    (hs : c₀.Sound) (hc : ∀ e ∈ events, e.Careful) : c.Sound := by
  induction run with
  | nil => exact hs
  | snoc _ valid ih =>
    have hbefore := ih fun x hx => hc x (List.mem_append_left _ hx)
    exact Event.sound_after hbefore valid (hc _ (List.mem_append_right _ (List.mem_singleton_self _)))

/-- **Careful runs are safe.** -/
theorem Run.safe {c₀ c : Custody} {events : List Event} (run : Run c₀ events c)
    (hs : c₀.Sound) (hc : ∀ e ∈ events, e.Careful) :
    ∀ e ∈ events, e.Faithful ∧ e.Attributed := by
  induction run with
  | nil => exact fun e he => nomatch he
  | @snoc events e run valid ih =>
    have hbefore : ∀ x ∈ events, x.Careful := fun x hx => hc x (List.mem_append_left _ hx)
    have hsound := run.sound hs hbefore
    have hlast : e.Careful := hc e (List.mem_append_right _ (List.mem_singleton_self _))
    intro x hx
    obtain hx | hx := List.mem_append.1 hx
    · exact ih hbefore x hx
    · obtain rfl := List.mem_singleton.1 hx
      exact ⟨Event.faithful_of_careful hsound valid hlast,
        Event.attributed_of_careful hsound valid hlast⟩

/-! ## Careless steps are not safe -/

variable {c : Custody} {id v : String}

/-- A step whose result is no creation and whose action is no answer is careful. -/
theorem Event.careful_of_perform {e : Event} {op : Operation} (haction : e.action = .perform op)
    (hresult : ∀ id, e.result ≠ .saved (.ok (.created id))) : e.Careful where
  answer o i text h := by rw [haction] at h; cases h
  creation id h := absurd h (hresult id)

/-- **A fetch of its document** sends the password that a session holds for opening. -/
theorem exists_fetch_sends (hid : c.session.remoteId = some id)
    (hvalid : DocumentId.isValid id = true) (hv : c.session.fetchCredential = some v) :
    ∃ e : Event, e.before = c ∧ e.Valid ∧ e.Careful ∧ e.after.given = c.given ∧
      ∃ r ∈ requests e.exchanges e.result, r.path = documentPath (some id) ∧ v ∈ r.secrets := by
  let p : Sync.PendingFetch := ⟨(c.session.beginLoad id).1, some v⟩
  let out := Sync.applyFetch (c.session.beginLoad id).2 p (.error .timeout)
  have hbegin : Sync.beginFetch c.session id = .ok (p, (c.session.beginLoad id).2) := by
    rw [Sync.beginFetch, if_pos hvalid, if_pos hid, hv]
  refine ⟨⟨c, .perform (.fetch id), [(p.request, .error .timeout)], .fetched out.1, out.2⟩, rfl,
    ⟨trivial, ?_⟩, Event.careful_of_perform rfl fun _ => Result.noConfusion, rfl, p.request,
    List.mem_singleton_self _, Sync.path_fetchRequest _ _, ?_⟩
  · change Dialogue.Exchanged (Session.fetched (Sync.fetch c.session id)) _ _
    rw [Sync.fetch, hbegin]
    exact .exchange (.done _)
  · rw [Sync.PendingFetch.request, Sync.secrets_fetchRequest]
    exact List.mem_singleton_self v

/-- **An update after an edit** sends the passwords that a session holds for changes and those that
it is to set. -/
theorem exists_update_sends (hid : c.session.remoteId = some id)
    (hv : v ∈ c.session.updateCredential.toList ++
      c.session.pendingProtection.toList.flatMap Protection.passwords) :
    ∃ e e' : Event, e.before = c ∧ e.Valid ∧ e.Careful ∧ e'.before = e.after ∧ e'.Valid ∧
      e'.Careful ∧ e'.after.given = c.given ∧
      ∃ r ∈ requests e'.exchanges e'.result, r.path = documentPath (some id) ∧ v ∈ r.secrets := by
  -- The template is edited, so that there is something to save, and an update is sent.
  let o : Sync.Options := ⟨1024, ⟨0, 0⟩⟩
  let s := c.session.editTemplate (c.session.template ++ "x")
  have hs : s = { c.session with template := c.session.template ++ "x", dirty := true } := by
    have hne : c.session.template ≠ c.session.template ++ "x" := by
      intro h
      have hlength := congrArg String.length h
      rw [String.length_append, show "x".length = 1 by decide] at hlength
      omega
    exact if_neg hne
  let r := Sync.updateRequest o s.beginSave.2 id (s.revision + 1) s.updateCredential
  let out := Sync.applyUpdate o s.beginSave.2 s.beginSave.1 id (s.revision + 1)
    s.updateCredential (.error .timeout)
  refine ⟨⟨c, .perform (.editTemplate (c.session.template ++ "x")), [], .edited (.ok ()), s⟩,
    ⟨_, .perform (.update o), [(r, .error .timeout)], .saved out.1, out.2⟩, rfl,
    ⟨trivial, .done _⟩, Event.careful_of_perform rfl fun _ => Result.noConfusion, rfl,
    ⟨trivial, ?_⟩, Event.careful_of_perform rfl ?_, rfl, r, List.mem_singleton_self _,
    Sync.path_updateRequest _ _ _ _ _, ?_⟩
  · change Dialogue.Exchanged (Session.saved (Sync.update o s)) _ _
    have hlinked : s.remoteId = some id := by rw [hs]; exact hid
    have hdirty : s.dirty = true := by rw [hs]
    have hsend : s.beginSave.2.remoteId = some id := hlinked
    rw [Sync.update, isUnsaved, hlinked, hdirty]
    change Dialogue.Exchanged (Session.saved (Sync.sendUpdate o s.beginSave.2 _ _ _)) _ _
    rw [Sync.sendUpdate, hsend]
    exact .exchange (.done _)
  · intro id' h
    have hout : out.1 = .error (.transport TransportError.timeout.message) := rfl
    rw [hout] at h
    cases h
  · change v ∈ Request.secrets (Sync.updateRequest _ _ _ _ _)
    rw [Sync.secrets_updateRequest, hs]
    exact hv

/-- **Every password that is held can be sent**: some careful steps send it to the document that
the session is linked to. -/
theorem exists_run_sends (hid : c.session.remoteId = some id)
    (hvalid : DocumentId.isValid id = true) (hv : v ∈ c.session.held) :
    ∃ more c', Run c more c' ∧ (∀ x ∈ more, x.Careful) ∧ ∃ x ∈ more, x.after.given = c.given ∧
      ∃ r ∈ requests x.exchanges x.result, r.path = documentPath (some id) ∧ v ∈ r.secrets := by
  -- The password for opening goes with a fetch, every other one with an update.
  by_cases hfetch : c.session.fetchCredential = some v
  · obtain ⟨e, rfl, hvalid', hcareful, hgiven, hsent⟩ := exists_fetch_sends hid hvalid hfetch
    refine ⟨[e], e.after, .snoc .nil hvalid', ?_, e, List.mem_singleton_self e, hgiven, hsent⟩
    intro x hx
    rw [List.mem_singleton.1 hx]
    exact hcareful
  · have hupdate : v ∈ c.session.updateCredential.toList ++
        c.session.pendingProtection.toList.flatMap Protection.passwords := by
      unfold fetchCredential at hfetch
      unfold held at hv
      unfold updateCredential
      cases hopen : c.session.openPassword with
      | none =>
        rw [hopen] at hv
        cases hmodify : c.session.modifyPassword <;> simpa [hmodify] using hv
      | some w =>
        rw [hopen] at hv hfetch
        have hne : v ≠ w := fun h => hfetch (congrArg some h.symm)
        cases hmodify : c.session.modifyPassword <;> simpa [hmodify, hne] using hv
    obtain ⟨e, e', rfl, hvalid₁, hcareful₁, hbefore, hvalid₂, hcareful₂, hgiven, hsent⟩ :=
      exists_update_sends hid hupdate
    have hrun : Run e.before ([e] ++ [e']) e'.after := by
      have hfirst : Run e.before [e] e'.before := hbefore ▸ .snoc .nil hvalid₁
      exact .snoc hfirst hvalid₂
    refine ⟨[e] ++ [e'], e'.after, hrun, ?_, e', by simp, hgiven, hsent⟩
    intro x hx
    obtain hx | hx := List.mem_append.1 hx
    · rw [List.mem_singleton.1 hx]
      exact hcareful₁
    · rw [List.mem_singleton.1 hx]
      exact hcareful₂

/-- **A step that is safe, now and in all careful steps that follow, is careful.** -/
theorem careful_of_safe {e : Event} (hs : e.before.Sound) (hv : e.Valid)
    (hsafe : ∀ more c', Run e.after more c' → (∀ x ∈ more, x.Careful) →
      ∀ x ∈ e :: more, x.Faithful ∧ x.Attributed) : e.Careful where
  answer o i text haction hanswer hcurrent := by
    have hi : i ∈ e.before.prompts := by
      have hpossible := hv.possible
      rw [haction] at hpossible
      exact hpossible
    obtain ⟨id, hid, hovertaken⟩ := hs.prompts i hi hcurrent
    have hfaithful := (hsafe [] e.after .nil (fun x hx => nomatch hx) e
      (List.mem_singleton_self e)).1 o i text haction
    have hstep := hv.step
    rw [haction] at hstep
    obtain ⟨out, hsaves, -⟩ := saves_of_step hstep rfl
    -- The answer is sent, to the document of the session.
    have hsent : ∃ r reply, e.exchanges = [(r, reply)] ∧ r.path = documentPath (some id) := by
      generalize e.exchanges = es at hsaves
      cases hsaves with
      | idle begins => exact absurd rfl (begins o i.prompt text)
      | created creates => exact absurd rfl (begins_of_creates creates o i.prompt text)
      | begun _ updates => exact absurd rfl (begins_of_updates updates o i.prompt text)
      | late stale => exact absurd hcurrent.symm stale
      | givenUp _ blank => exact absurd blank hanswer
      | unlinked _ _ unlinked => cases hid.symm.trans unlinked
      | resumed _ linked =>
        obtain rfl : id = _ := Option.some.inj (hid.symm.trans linked)
        exact ⟨_, _, rfl, Sync.path_updateRequest _ _ _ _ _⟩
    obtain ⟨r, reply, hes, hpath⟩ := hsent
    obtain ⟨hnone, -⟩ | ⟨r', reply', hes', hpath'⟩ := hfaithful
    · rw [hes] at hnone
      cases hnone
    · rw [hes] at hes'
      cases hes'
      have hsame : id = i.document :=
        Option.some.inj (documentPath_injective (hpath.symm.trans hpath'))
      by_cases h : i.overtaken = true
      · exact absurd hsame (hovertaken.1 h)
      · simpa using h
  creation id hresult v hv' := by
    have hlinked : e.session.remoteId = some id ∧ DocumentId.isValid id = true ∧
        e.session.held = e.before.session.held := by
      cases changed_of_step hv.step with
      | created hcreated hvalid _ hid hheld =>
        rw [hresult] at hcreated
        cases hcreated
        exact ⟨hid, hvalid, hheld⟩
      | loaded hloaded => rw [hresult] at hloaded; cases hloaded
      | kept hunlinked | reset hunlinked | secured _ _ hunlinked | answered _ _ _ hunlinked =>
        rw [hresult] at hunlinked
        cases hunlinked
    obtain ⟨hid, hvalid, hheld⟩ := hlinked
    rw [← hheld] at hv'
    obtain ⟨more, c', run, hcareful, x, hx, hgiven, r, hr, hpath, hsecret⟩ :=
      exists_run_sends (c := e.after) hid hvalid hv'
    obtain ⟨doc, hdoc, hattributed⟩ :=
      (hsafe more c' run hcareful x (List.mem_cons_of_mem e hx)).2 r hr
    obtain ⟨id', hid', hmem⟩ := hattributed v hsecret
    rw [hid'] at hdoc
    obtain rfl : id = id' := Option.some.inj (documentPath_injective (hpath.symm.trans hdoc))
    rw [← hgiven]
    exact hmem

/-- **Careful runs keep prompts and passwords with their document, and only they do.** In a run that
starts with a session without passwords and takes only careful steps, every answer to a prompt
reaches its document or none, and every request carries only passwords given for its document. And
a step after such a run is careful if and only if this holds of it and of all that can follow it in
careful steps. -/
theorem Run.safe_of_careful {s : Session} {events : List Event} {c : Custody} (hs : s.held = [])
    (run : Run ⟨s, [], [], []⟩ events c) (hc : ∀ e ∈ events, e.Careful) :
    (∀ e ∈ events, e.Faithful ∧ e.Attributed) ∧
      ∀ e : Event, e.before = c → e.Valid →
        (e.Careful ↔ ∀ more c', Run e.after more c' → (∀ x ∈ more, x.Careful) →
          ∀ x ∈ e :: more, x.Faithful ∧ x.Attributed) := by
  have hstart := sound_start hs
  refine ⟨run.safe hstart hc, ?_⟩
  rintro e rfl hv
  have hsound := run.sound hstart hc
  constructor
  · intro hcareful more c' hmore hcareful'
    have hafter := Event.sound_after hsound hv hcareful
    intro x hx
    obtain rfl | hx := List.mem_cons.1 hx
    · exact ⟨Event.faithful_of_careful hsound hv hcareful,
        Event.attributed_of_careful hsound hv hcareful⟩
    · exact hmore.safe hafter hcareful' x hx
  · exact careful_of_safe hsound hv

/-! ## Runs that leave their document -/

/-- A session that is linked to a document and has been edited. -/
def editedSession : Session :=
  (Session.linked (.single "" "" "a") ⟨"A", 1, none, true, none⟩ false).editTemplate "mine"

/-- An update of it that asks for a password. -/
def askedUpdate : Event where
  before := ⟨editedSession, [], [], []⟩
  action := .perform (.update ⟨1024, ⟨0, 0⟩⟩)
  exchanges := [(Sync.updateRequest ⟨1024, ⟨0, 0⟩⟩ editedSession.beginSave.2 "A" 2 none,
    .ok ⟨401, "", none⟩)]
  result := .saved (.ok (.passwordRequired ⟨⟨0, .loaded⟩, 2, false⟩))
  session := editedSession.beginSave.2

/-- The update is a run. -/
theorem run_askedUpdate : Run ⟨editedSession, [], [], []⟩ [askedUpdate] askedUpdate.after :=
  Run.nil.then askedUpdate.action trivial (.exchange (.done _))

/-- The question of an update goes to its document, and only careless answers go elsewhere. -/
theorem Run.safe_of_careful_askedUpdate :
    editedSession.held = [] ∧ Run ⟨editedSession, [], [], []⟩ [askedUpdate] askedUpdate.after ∧
      (∀ e ∈ [askedUpdate], e.Careful) ∧ ∀ e ∈ [askedUpdate], e.Faithful ∧ e.Attributed := by
  have hcareful : ∀ e ∈ [askedUpdate], e.Careful := by
    intro e he
    rw [List.mem_singleton.1 he]
    exact Event.careful_of_perform rfl nofun
  exact ⟨rfl, run_askedUpdate, hcareful,
    (Run.safe_of_careful rfl run_askedUpdate hcareful).1⟩

/-- **A misdirected answer**: an update of one document asks for a password, a new document is
created in its place, and the answer goes to the new document. -/
theorem exists_misdirected_answer :
    ∃ s events c, s.held = [] ∧ Run ⟨s, [], [], []⟩ events c ∧
      ∃ e ∈ events, ¬e.Faithful ∧ ¬e.Attributed := by
  let o : Sync.Options := ⟨1024, ⟨0, 0⟩⟩
  let i : Issued := ⟨⟨⟨0, .loaded⟩, 2, false⟩, "A", true⟩
  -- While the question is open, the session is linked to a new document.
  have h₁ := run_askedUpdate.then (.perform (.create o)) trivial
    (.exchange (x := .ok ⟨200, "N", none⟩) (.done _))
  have h₂ := h₁.then (.answer o i (some "secret")) (List.mem_singleton_self _)
    (.exchange (x := .error .timeout) (.done _))
  refine ⟨editedSession, _, _, rfl, h₂, _,
    List.mem_append_right _ (List.mem_singleton_self _), ?_, ?_⟩
  · intro h
    obtain ⟨hnone, -⟩ | ⟨r, reply, hes, hpath⟩ := h o i (some "secret") rfl
    · cases hnone
    · obtain ⟨rfl, -⟩ := Prod.mk.inj (List.singleton_inj.1 hes)
      rw [Sync.path_updateRequest] at hpath
      exact absurd (Option.some.inj (documentPath_injective hpath)) (by decide)
  · intro h
    obtain ⟨doc, hdoc, hgiven⟩ := h _ (List.mem_singleton_self _)
    rw [Sync.path_updateRequest] at hdoc
    obtain ⟨id, hid, hmem⟩ := hgiven "secret" (by rw [Sync.secrets_updateRequest]; simp)
    rw [← documentPath_injective hdoc] at hid
    obtain rfl : "N" = id := Option.some.inj hid
    exact absurd hmem (by decide)

/-- **A leaked password**: passwords are to be set for one document, a new document is created in
its place, and an update of the new document sets them there. -/
theorem exists_leaked_password :
    ∃ s events c, s.held = [] ∧ Run ⟨s, [], [], []⟩ events c ∧
      ∃ e ∈ events, ¬e.Attributed ∧ ∀ o i text, e.action ≠ .answer o i text := by
  let o : Sync.Options := ⟨1024, ⟨0, 0⟩⟩
  let s : Session := .linked (.single "" "" "a") ⟨"A", 1, none, false, none⟩ false
  have h₁ := (Run.nil (c := ⟨s, [], [], []⟩)).then
    (.perform (.protect ⟨some "secret", none, .inl rfl⟩)) trivial (.done _)
  have h₂ := h₁.then (.perform (.create o)) trivial
    (.exchange (x := .ok ⟨200, "N", none⟩) (.done _))
  have h₃ := h₂.then (.perform (.editTemplate "mine")) trivial (.done _)
  have h₄ := h₃.then (.perform (.update o)) trivial (.exchange (x := .error .timeout) (.done _))
  refine ⟨s, _, _, rfl, h₄, _, List.mem_append_right _ (List.mem_singleton_self _), ?_, nofun⟩
  intro h
  obtain ⟨doc, hdoc, hgiven⟩ := h _ (List.mem_singleton_self _)
  rw [Sync.path_updateRequest] at hdoc
  obtain ⟨id, hid, hmem⟩ := hgiven "secret" (by
    rw [Sync.secrets_updateRequest]
    exact List.mem_singleton_self _)
  rw [← documentPath_injective hdoc] at hid
  obtain rfl : "N" = id := Option.some.inj hid
  exact absurd hmem (by decide)

end Custody

end TemplateShare
