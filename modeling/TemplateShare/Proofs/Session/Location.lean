import TemplateShare.Proofs.Session.State
import TemplateShare.Proofs.Session.Superseded

/-! # Where the user is pointed at

The location of a session names the document that the user looks at. It runs ahead of the copy in the
store while a document is being loaded, and only then: a load that fails or is given up takes it back.

* **`Session.Operation.settles`**, **`Session.Pointed`**, **`Session.pointed_of_step`** — what an
  operation does to the location and to the id of the copy.
* **`Session.Undecided`** — a load that calls have begun and not brought to an end.
* **`Session.Run.location_eq_or_undecided`** — the location is the copy in the store, or the id of the
  load that is undecided. -/

namespace TemplateShare.Session

variable {s s' : Session} {op : Operation} {es : List (Request × Reply)} {result : Result}
  {o : Sync.Options}

/-! ## Loads that begin and end -/

/-- **The load that an operation begins**, if its id is valid. -/
def Operation.load? (s : Session) : Operation → Option LoadTicket
  | .beginFetch id | .fetch id => if DocumentId.isValid id then some (s.beginLoad id).1 else none
  | _ => none

/-- **Whether a load has come to its end**: a document is loaded, or the load has failed or been given
up. What comes too late is discarded, so that it is always the load begun last that ends. -/
def Result.endsLoad : Result → Bool
  | .fetched (.ok (.loaded _)) | .fetched (.error _) => true
  | _ => false

/-- **Whether an operation brings a load to its end.** A fetch whose id is not valid has not begun
any. -/
def Operation.decides (op : Operation) (result : Result) : Bool :=
  result.endsLoad && match op with
    | .fetch id => DocumentId.isValid id
    | _ => true

/-- **Whether a document is pasted.** -/
def Operation.pastes : Operation → Result → Bool
  | .paste _, .pasted (.done ()) | .confirmPaste _, _ => true
  | _, _ => false

/-- **Whether a document is created.** -/
def Result.creates : Result → Bool
  | .saved (.ok (.created _)) => true
  | _ => false

/-- **Whether an operation points the user at the copy in the store**, or at nothing if there is
none. -/
def Operation.settles (op : Operation) (result : Result) : Bool :=
  op.decides result || op.pastes result || result.creates

/-- A generation begins with a load or a paste. -/
theorem renews_of_step (h : Step s op es result s') :
    op.renews result = ((op.load? s).isSome || op.pastes result) := by
  cases op with
  | beginFetch id =>
    obtain ⟨-, rfl, -⟩ := h.of_done rfl
    cases hid : DocumentId.isValid id <;>
      simp [Sync.beginFetch, started, Operation.load?, Operation.renews, Operation.pastes, hid]
  | fetch id =>
    cases hid : DocumentId.isValid id <;>
      simp [Operation.load?, Operation.renews, Operation.pastes, hid]
  | paste dt =>
    obtain ⟨-, rfl, -⟩ := h.of_done rfl
    unfold paste
    split <;> rfl
  | _ => rfl

/-- A load that begins is neither a paste nor a creation. -/
theorem pastes_of_load {t : LoadTicket} (h : Step s op es result s') (hload : op.load? s = some t) :
    op.pastes result = false ∧ result.creates = false := by
  cases op with
  | beginFetch id =>
    obtain ⟨-, rfl, -⟩ := h.of_done rfl
    rw [fst_started]
    exact ⟨rfl, rfl⟩
  | fetch id =>
    obtain ⟨out, -, rfl, -⟩ := exchanged_fetched h
    exact ⟨rfl, rfl⟩
  | _ => cases hload

/-- A fetch settles where it brings a load to its end. -/
theorem settles_of_isLoad (out : Except Error Sync.FetchOutcome) (hop : op.isLoad = true) :
    op.settles (.fetched out) = op.decides (.fetched out) := by
  cases op with
  | applyFetch | fetch | fetchWithPassword =>
    simp [Operation.settles, Operation.pastes, Result.creates]
  | _ => cases hop

/-- A save settles where it creates a document. -/
theorem settles_of_isSave (out : Except Error Sync.SaveOutcome) (hop : op.isSave = true) :
    op.settles (.saved out) = (Result.saved out).creates ∧ op.load? s = none := by
  cases op with
  | create | update | save | resumeUpdate | overwrite => exact ⟨rfl, rfl⟩
  | _ => cases hop

/-- An edit neither settles nor begins a load. -/
theorem Edits.settles_eq_false (h : Edits s op result s') :
    op.settles result = false ∧ op.load? s = none := by
  cases h <;> exact ⟨rfl, rfl⟩

/-! ## What an operation does -/

/-- **Where the user is pointed at, and where the copy in the store is.** -/
def place (s : Session) : Option String × Option String := (s.location, s.remoteId)

/-- A save that begins leaves both. -/
@[simp] theorem place_beginSave (s : Session) : s.beginSave.2.place = s.place := rfl

/-- Another state leaves both. -/
@[simp] theorem place_markState (s : Session) (t : SaveTicket) (state : SyncState) :
    (s.markState t state).place = s.place := by
  unfold markState
  split <;> rfl

/-- An update that is accepted leaves both. -/
@[simp] theorem place_completeUpdate (s : Session) (revision : Nat) (hash presented : Option String)
    (now : Instant) : (s.completeUpdate revision hash presented now).place = s.place := by
  unfold completeUpdate settlePasswords
  split
  · rfl
  · split <;> rfl

/-- An edit leaves both. -/
theorem Edited.place (h : Edited s s') : s'.place = s.place := by
  rw [h]
  rfl

/-- **Where an operation leaves the user.** If it settles, at the copy in the store. Otherwise the copy
is the same, and the user is pointed at the load that is begun, if any. -/
structure Pointed (settles : Bool) (load? : Option LoadTicket) (s s' : Session) : Prop where
  settled : settles = true → s'.location = s'.remoteId
  waiting : settles = false → s'.place = ((load?.map LoadTicket.id).or s.location, s.remoteId)

namespace Pointed

variable {settles : Bool} {load? : Option LoadTicket}

/-- The user is pointed at the copy. -/
theorem of_eq (h : s'.location = s'.remoteId) : Pointed true load? s s' :=
  ⟨fun _ => h, fun hfalse => absurd hfalse.symm Bool.false_ne_true⟩

/-- The user is left where they were. -/
theorem of_place (h : s'.place = s.place) : Pointed false none s s' :=
  ⟨fun htrue => absurd htrue Bool.false_ne_true, fun _ => h⟩

/-- **The user is pointed at a load that begins**, until it settles. -/
theorem of_beginLoad {id : String} (h : Pointed settles none (s.beginLoad id).2 s') :
    Pointed settles (some (s.beginLoad id).1) s s' :=
  ⟨h.settled, h.waiting⟩

/-- Where the user is left does not depend on what else changes before. -/
theorem of_place_eq {s₀ : Session} (hplace : s₀.place = s.place) (h : Pointed settles load? s₀ s') :
    Pointed settles load? s s' := by
  obtain ⟨hlocation, hid⟩ := Prod.mk.inj hplace
  refine ⟨h.settled, fun hwaiting => ?_⟩
  rw [h.waiting hwaiting, hlocation, hid]

end Pointed

/-- A creation that is accepted points at the new copy. -/
theorem pointed_of_created {t : SaveTicket} {reply : Reply} {out : Sync.Outcome Sync.SaveOutcome}
    (h : Sync.Created o s t reply out) : Pointed (Result.saved out.1).creates none s out.2 := by
  cases h with
  | created => exact .of_eq rfl
  | discarded => exact .of_place rfl
  | unreadable => exact .of_place rfl
  | failed e state => exact .of_place (place_markState _ _ _)

/-- An update leaves the user where they were. -/
theorem pointed_of_updated {t : SaveTicket} {id : String} {revision : Nat}
    {password : Option String} {reply : Reply} {out : Sync.Outcome Sync.SaveOutcome}
    (h : Sync.Updated o s t id revision password reply out) :
    Pointed (Result.saved out.1).creates none s out.2 := by
  cases h with
  | updated => exact .of_place (place_completeUpdate _ _ _ _ _)
  | asked => exact .of_place rfl
  | discarded => exact .of_place rfl
  | unreadable => exact .of_place rfl
  | failed e state => exact .of_place (place_markState _ _ _)

/-- **A save points at the copy that it creates**, if any. -/
theorem pointed_of_saves {out : Sync.Outcome Sync.SaveOutcome} (h : Saves s op es out) :
    Pointed (Result.saved out.1).creates none s out.2 := by
  cases h with
  | idle _ fruitless => obtain ⟨e, rfl⟩ | rfl := fruitless <;> exact .of_place rfl
  | late => exact .of_place rfl
  | givenUp => exact .of_place (place_markState _ _ _)
  | unlinked => exact .of_place rfl
  | created =>
    exact .of_place_eq (place_beginSave s) (pointed_of_created (Sync.created_applyCreate _ _ _ _))
  | begun =>
    exact .of_place_eq (place_beginSave s) (pointed_of_updated (Sync.updated_applyUpdate ..))
  | resumed => exact pointed_of_updated (Sync.updated_applyUpdate ..)

/-- **A load that is current points at the copy once it has come to its end**, and leaves the user
where they were until then. -/
theorem pointed_of_fetched {p : Sync.PendingFetch} {reply : Reply}
    {out : Sync.Outcome Sync.FetchOutcome} (h : Sync.Fetched s p reply out)
    (hcurrent : s.generation = p.ticket.generation) :
    Pointed (Result.fetched out.1).endsLoad none s out.2 := by
  cases h with
  | loaded =>
    rw [completeLoad, if_neg (not_not_intro hcurrent)]
    exact .of_eq rfl
  | asked => exact .of_place rfl
  | discarded => exact .of_place rfl
  | failed e state =>
    rw [abortLoad, if_neg (not_not_intro hcurrent)]
    exact .of_eq rfl

/-- **A load points at its document** from its start until it has come to its end. -/
theorem pointed_of_loads {out : Sync.Outcome Sync.FetchOutcome} (h : Loads s op es out)
    (hop : op.isLoad = true) :
    Pointed (op.settles (.fetched out.1)) (op.load? s) s out.2 := by
  rw [settles_of_isLoad _ hop]
  cases h with
  | invalid invalid =>
    simp only [Operation.decides, Operation.load?, invalid, Bool.and_false]
    exact .of_place rfl
  | late => exact .of_place rfl
  | givenUp current =>
    rw [abortLoad, if_neg (not_not_intro current)]
    exact .of_eq rfl
  | applied p reply =>
    by_cases hcurrent : s.generation = p.ticket.generation
    · simp only [Operation.decides, Bool.and_true]
      exact pointed_of_fetched (Sync.fetched_applyFetch s p reply) hcurrent
    · rw [applyFetch_of_ne hcurrent]
      exact .of_place rfl
  | fetched reply valid begins =>
    obtain ⟨rfl, -⟩ := beginFetch_eq_ok begins
    simp only [Operation.decides, Operation.load?, valid, Bool.and_true]
    exact .of_beginLoad (pointed_of_fetched (Sync.fetched_applyFetch ..) rfl)
  | answered reply current =>
    simp only [Operation.decides, Bool.and_true]
    exact pointed_of_fetched (Sync.fetched_applyFetch ..) current

/-- **Where each operation leaves the user.** -/
theorem pointed_of_step (h : Step s op es result s') :
    Pointed (op.settles result) (op.load? s) s s' := by
  cases performed_of_step h with
  | acts _ hacts =>
    cases hacts with
    | edits hedits =>
      obtain ⟨hsettles, hload⟩ := hedits.settles_eq_false
      rw [hsettles, hload]
      exact .of_place hedits.edited.place
    | pastes | confirms => exact .of_eq rfl
    | asks | notProtected | protects => exact .of_place rfl
    | invalid invalid =>
      rw [Operation.load?, invalid]
      exact .of_place rfl
    | begins valid =>
      rw [Operation.load?, valid]
      exact .of_beginLoad (.of_place rfl)
  | loads load hloads => exact pointed_of_loads hloads load
  | @saves out save hsaves =>
    obtain ⟨hsettles, hload⟩ := settles_of_isSave (s := s) out.1 save
    rw [hsettles, hload]
    exact pointed_of_saves hsaves

/-! ## Runs -/

namespace Call

/-- The load that a call begins. -/
def load? (c : Call) : Option LoadTicket := c.operation.load? c.before.session

/-- Whether a call brings a load to its end. -/
def decides (c : Call) : Bool := c.operation.decides c.result

/-- Whether a call points the user at the copy in the store. -/
def settles (c : Call) : Bool := c.operation.settles c.result

end Call

/-- **A load that is open**: the call `c` has begun it, neither that call nor a later one has brought a
load to its end, and no later one has begun another load or pasted a document. -/
structure Open (c : Call) (later : List Call) (t : LoadTicket) : Prop where
  begun : c.load? = some t
  undecided : ∀ x ∈ c :: later, x.decides = false
  latest : ∀ x ∈ later, x.renews = false

/-- **A load that is undecided after calls**: it is the one begun last, and still open. -/
def Undecided (calls : List Call) (t : LoadTicket) : Prop :=
  ∃ earlier c later, calls = earlier ++ c :: later ∧ Open c later t

/-- A load that a call begins and does not end is undecided. -/
theorem undecided_of_load {calls : List Call} {c : Call} {t : LoadTicket} (hload : c.load? = some t)
    (hdecides : c.decides = false) : Undecided (calls ++ [c]) t :=
  ⟨calls, c, [], rfl, hload, fun x hx => by rwa [List.mem_singleton.1 hx], fun x hx => nomatch hx⟩

/-- A load stays undecided with a call that neither ends a load nor begins a generation. -/
theorem Undecided.snoc {calls : List Call} {c : Call} {t : LoadTicket} (h : Undecided calls t)
    (hdecides : c.decides = false) (hrenews : c.renews = false) : Undecided (calls ++ [c]) t := by
  obtain ⟨earlier, b, later, rfl, hopen⟩ := h
  refine ⟨earlier, b, later ++ [c], by simp, hopen.begun, fun x hx => ?_, fun x hx => ?_⟩
  · rw [← List.cons_append, List.mem_append, List.mem_singleton] at hx
    obtain hx | rfl := hx
    · exact hopen.undecided x hx
    · exact hdecides
  · rw [List.mem_append, List.mem_singleton] at hx
    obtain hx | rfl := hx
    · exact hopen.latest x hx
    · exact hrenews

namespace Call

variable {c : Call}

/-- A call that settles points the user at the copy. -/
theorem location_of_settles (h : c.Valid) (hsettles : c.settles = true) :
    c.session.location = c.session.remoteId :=
  (pointed_of_step h.step).settled hsettles

/-- A call that does not settle points the user at the load that it begins, if any. -/
theorem location_of_not_settles (h : c.Valid) (hsettles : c.settles = false) :
    c.session.location = (c.load?.map LoadTicket.id).or c.before.session.location :=
  congrArg Prod.fst ((pointed_of_step h.step).waiting hsettles)

/-- A call that does not settle leaves the id of the copy. -/
theorem remoteId_of_not_settles (h : c.Valid) (hsettles : c.settles = false) :
    c.session.remoteId = c.before.session.remoteId :=
  congrArg Prod.snd ((pointed_of_step h.step).waiting hsettles)

/-- A load that fails has come to its end. -/
theorem decides_of_failed {e : Error} (hfailed : c.result = .fetched (.error e))
    (hbegun : ∀ id, c.operation = .fetch id → DocumentId.isValid id = true) :
    c.decides = true := by
  rw [decides, hfailed]
  cases hop : c.operation with
  | fetch id => exact hbegun id hop
  | _ => rfl

/-- What a call does that does not settle. -/
theorem settles_eq_false_iff : c.settles = false ↔ c.decides = false ∧
    c.operation.pastes c.result = false ∧ c.result.creates = false := by
  simp [settles, Operation.settles, decides, and_assoc]

/-- A call begins a generation with a load or a paste. -/
theorem renews_eq_false_iff (h : c.Valid) :
    c.renews = false ↔ c.load? = none ∧ c.operation.pastes c.result = false := by
  rw [renews, renews_of_step h.step, Bool.or_eq_false_iff, Option.isSome_eq_false_iff,
    Option.isNone_iff_eq_none]
  exact Iff.rfl

end Call

namespace Run

variable {start fin : Stage} {calls : List Call}

/-- A run always points at the copy or at the load that is undecided. -/
theorem remoteId_or_undecided (run : Run start calls fin)
    (hstart : start.session.location = start.session.remoteId) :
    fin.session.location = fin.session.remoteId ∨
      ∃ t, Undecided calls t ∧ fin.session.location = some t.id := by
  induction run with
  | nil => exact .inl hstart
  | @snoc calls c _ valid ih =>
    cases hsettles : c.settles with
    | true => exact .inl (Call.location_of_settles valid hsettles)
    | false =>
      obtain ⟨hdecides, hpastes, -⟩ := Call.settles_eq_false_iff.1 hsettles
      have hlocation := Call.location_of_not_settles valid hsettles
      cases hload : c.load? with
      | some t =>
        rw [hload] at hlocation
        exact .inr ⟨t, undecided_of_load hload hdecides, hlocation⟩
      | none =>
        rw [hload] at hlocation
        obtain hsame | ⟨t, hopen, ht⟩ := ih
        · have hid := Call.remoteId_of_not_settles valid hsettles
          exact .inl (hlocation.trans (hsame.trans hid.symm))
        · have hrenews := (Call.renews_eq_false_iff valid).2 ⟨hload, hpastes⟩
          exact .inr ⟨t, hopen.snoc hdecides hrenews, hlocation.trans ht⟩

/-- Calls that neither settle nor begin a load leave the location. -/
theorem location_of_not_settles (run : Run start calls fin)
    (hquiet : ∀ x ∈ calls, x.settles = false ∧ x.load? = none) :
    fin.session.location = start.session.location := by
  induction run with
  | nil => rfl
  | @snoc calls c _ valid ih =>
    obtain ⟨hsettles, hload⟩ := hquiet c (List.mem_append_right _ (List.mem_singleton_self c))
    have hlocation := Call.location_of_not_settles valid hsettles
    rw [hload] at hlocation
    exact hlocation.trans (ih fun x hx => hquiet x (List.mem_append_left _ hx))

/-- **An open load is what the user is pointed at**, as long as nothing is created. -/
theorem location_of_open {earlier later : List Call} {c : Call} {t : LoadTicket}
    (run : Run start (earlier ++ c :: later) fin) (hopen : Open c later t)
    (hcreates : ∀ x ∈ later, x.result.creates = false) : fin.session.location = some t.id := by
  obtain ⟨-, valid, hlater⟩ := run.cut
  obtain ⟨hpastes, hnew⟩ := pastes_of_load valid.step hopen.begun
  have hfirst : c.settles = false :=
    Call.settles_eq_false_iff.2 ⟨hopen.undecided c List.mem_cons_self, hpastes, hnew⟩
  have hbegun := Call.location_of_not_settles valid hfirst
  rw [hopen.begun] at hbegun
  refine (hlater.location_of_not_settles fun x hx => ?_).trans hbegun
  obtain ⟨hload, hpastes⟩ :=
    (Call.renews_eq_false_iff (hlater.reached hx).1).1 (hopen.latest x hx)
  have hdecides := hopen.undecided x (List.mem_cons_of_mem c hx)
  exact ⟨Call.settles_eq_false_iff.2 ⟨hdecides, hpastes, hcreates x hx⟩, hload⟩

/-- **The user is pointed at the copy in the store or at the load that is undecided.** In a run that
starts there, the location is the id of the copy, or the load begun last is undecided and it is the
id of that load. A load that fails or is given up takes the location back to the copy; only a fetch
whose id is not valid fails without having begun one. And the location is indeed the id of an open
load until a document is created. -/
theorem location_eq_or_undecided (run : Run start calls fin)
    (hstart : start.session.location = start.session.remoteId) :
    (fin.session.location = fin.session.remoteId ∨
      ∃ t, Undecided calls t ∧ fin.session.location = some t.id) ∧
    (∀ c ∈ calls, (∃ e, c.result = .fetched (.error e)) →
      (∀ id, c.operation = .fetch id → DocumentId.isValid id = true) →
      c.session.location = c.session.remoteId) ∧
    ∀ earlier c later t, calls = earlier ++ c :: later → Open c later t →
      (∀ x ∈ later, x.result.creates = false) → fin.session.location = some t.id := by
  refine ⟨run.remoteId_or_undecided hstart, fun c hc ⟨e, hfailed⟩ hbegun => ?_, ?_⟩
  · have hdecides : c.decides = true := Call.decides_of_failed hfailed hbegun
    refine Call.location_of_settles (run.reached hc).1 ?_
    rw [Call.settles, Operation.settles, show c.operation.decides c.result = true from hdecides]
    rfl
  · rintro earlier c later t rfl hopen hcreates
    exact run.location_of_open hopen hcreates

end Run

/-- A session with a document that is nowhere saved points nowhere. -/
example (dt : DataTemplate) : (unsaved dt).location = (unsaved dt).remoteId := rfl

/-- A session with a document that has a copy in the store points at the copy. -/
example (dt : DataTemplate) (r : SyncRecord) (dirty : Bool) :
    (linked dt r dirty).location = (linked dt r dirty).remoteId := rfl

/-- A load that begins in a new session is what the user is pointed at; once it has failed, they are
pointed at nothing again. -/
theorem Run.location_loadCall :
    ∃ begun failed : Call, Run ⟨{}, {}⟩ [begun, failed] failed.after ∧
      begun.session.location = some "A" ∧ (∃ e, failed.result = .fetched (.error e)) ∧
      failed.session.location = none := by
  let p : Sync.PendingFetch := ⟨⟨1, "A"⟩, none⟩
  let begun := loadCall ⟨{}, {}⟩ "A"
  let failed : Call := .quiet begun.after (.applyFetch p (.error .timeout))
    (.fetched (Sync.applyFetch begun.session p (.error .timeout)).1,
      (Sync.applyFetch begun.session p (.error .timeout)).2)
  have hbegun : Run ⟨{}, {}⟩ ([] ++ [begun]) begun.after :=
    Run.nil.snoc (valid_loadCall (by decide) rfl)
  have hfailed : Run ⟨{}, {}⟩ ([begun] ++ [failed]) failed.after :=
    hbegun.snoc (Call.valid_quiet (List.mem_singleton_self p) rfl)
  have hopen : Open begun [] p.ticket :=
    ⟨by decide, fun x hx => by rw [List.mem_singleton.1 hx]; rfl, fun x hx => nomatch hx⟩
  obtain ⟨-, -, hloading⟩ := location_eq_or_undecided hbegun rfl
  obtain ⟨-, hback, -⟩ := location_eq_or_undecided hfailed rfl
  refine ⟨begun, failed, hfailed, ?_, ⟨_, rfl⟩, ?_⟩
  · exact hloading [] begun [] p.ticket rfl hopen fun x hx => nomatch hx
  · exact hback failed (by simp) ⟨_, rfl⟩ fun id hid => nomatch hid

end TemplateShare.Session
