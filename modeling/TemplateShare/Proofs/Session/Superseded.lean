import Mathlib.Data.List.Nodup
import TemplateShare.Proofs.Session.Edit

/-! # Only the latest load counts

Each load that is started and each paste begins a new generation of the session. What belongs to an
earlier generation is superseded: going on with it comes to nothing, and sends nothing.

* **`Session.generation_of_step`** — which operations begin a new generation.
* **`Session.begun`**, **`Session.complete`** — the fetches that a run starts, and fetches that are
  completed one after the other.
* **`Session.Call.isLate`** — a call that goes on with something of an earlier generation.
* **`Session.Run.latest_counts`** — the order of completion does not matter, what is superseded is
  discarded, and without its late calls a run is the same. -/

namespace TemplateShare.Session

variable {s s' : Session} {es : List (Request × Reply)} {result : Result} {op : Operation}

/-! ## Generations -/

/-- **Whether an operation begins a new generation**: a load is started, or a document is pasted. -/
def Operation.renews : Operation → Result → Bool
  | .beginFetch _, .started (.ok _) => true
  | .fetch id, _ => DocumentId.isValid id
  | .paste _, .pasted (.done ()) => true
  | .confirmPaste _, _ => true
  | _, _ => false

/-- A load begins a generation if it is started now. -/
theorem Loads.generation_eq {out : Sync.Outcome Sync.FetchOutcome} (h : Loads s op es out) :
    out.2.generation = s.generation + (op.renews (.fetched out.1)).toNat := by
  cases h with
  | invalid invalid => rw [Operation.renews, invalid]; rfl
  | late => rfl
  | givenUp => exact generation_abortLoad _ _ _
  | applied => exact (changed_of_fetched (Sync.fetched_applyFetch ..)).1
  | fetched reply valid =>
    rw [Operation.renews, valid]
    exact (changed_of_fetched (Sync.fetched_applyFetch ..)).1
  | answered => exact (changed_of_fetched (Sync.fetched_applyFetch ..)).1

/-- An edit begins no generation. -/
theorem Edits.renews_eq_false (h : Edits s op result s') : op.renews result = false := by
  cases h <;> rfl

/-- A creation begins no generation. -/
theorem generation_of_created {o : Sync.Options} {t : SaveTicket} {reply : Reply}
    {out : Sync.Outcome Sync.SaveOutcome} (h : Sync.Created o s t reply out) :
    out.2.generation = s.generation := by
  cases h with
  | failed e state => exact generation_markState _ _ _
  | _ => rfl

/-- A save begins no generation. -/
theorem Saves.generation_eq {out : Sync.Outcome Sync.SaveOutcome} (h : Saves s op es out) :
    out.2.generation = s.generation := by
  cases h with
  | idle => rfl
  | late => rfl
  | givenUp => exact generation_markState _ _ _
  | unlinked => rfl
  | created => exact (generation_of_created (Sync.created_applyCreate ..)).trans rfl
  | begun => exact (changed_of_updated (Sync.updated_applyUpdate ..)).2.1
  | resumed => exact (changed_of_updated (Sync.updated_applyUpdate ..)).2.1

/-- **A generation ends when a load is started or a document is pasted**, and only then. -/
theorem generation_of_step (h : Step s op es result s') :
    s'.generation = s.generation + (op.renews result).toNat := by
  cases performed_of_step h with
  | acts _ hacts =>
    cases hacts with
    | edits hedits =>
      rw [hedits.edited.generation, hedits.renews_eq_false]
      rfl
    | _ => rfl
  | loads _ hloads => exact hloads.generation_eq
  | @saves out save hsaves =>
    have hrenews : op.renews (.saved out.1) = false := by cases op <;> cases save <;> rfl
    rw [hsaves.generation_eq, hrenews]
    rfl

/-! ## Completing fetches -/

/-- **Complete fetches** one after the other, each with a reply. -/
def complete (s : Session) (cs : List (Sync.PendingFetch × Reply)) : Session :=
  cs.foldl (fun s c => (Sync.applyFetch s c.1 c.2).2) s

/-- A fetch that is completed begins no generation. -/
theorem generation_applyFetch (s : Session) (p : Sync.PendingFetch) (reply : Reply) :
    (Sync.applyFetch s p reply).2.generation = s.generation :=
  (changed_of_fetched (Sync.fetched_applyFetch s p reply)).1

/-- Fetches that are completed begin no generation. -/
theorem generation_complete (s : Session) (cs : List (Sync.PendingFetch × Reply)) :
    (s.complete cs).generation = s.generation := by
  induction cs generalizing s with
  | nil => rfl
  | cons c cs ih => exact (ih _).trans (generation_applyFetch s c.1 c.2)

/-- **A fetch of another generation is discarded**, and changes nothing. -/
theorem applyFetch_of_ne {p : Sync.PendingFetch} (h : s.generation ≠ p.ticket.generation)
    (reply : Reply) : Sync.applyFetch s p reply = (.ok .discarded, s) :=
  if_pos h

/-- **A fetch is discarded if and only if it is of another generation.** -/
theorem applyFetch_discarded_iff {p : Sync.PendingFetch} {reply : Reply} :
    (Sync.applyFetch s p reply).1 = .ok .discarded ↔ s.generation ≠ p.ticket.generation := by
  refine ⟨fun h hcurrent => ?_, fun h => by rw [applyFetch_of_ne h]⟩
  generalize hout : Sync.applyFetch s p reply = out at h
  cases hout ▸ Sync.fetched_applyFetch s p reply with
  | loaded | asked | failed => cases h
  | discarded stale => exact stale hcurrent

/-- **Fetches of different generations can be completed in any order**: at most one of them
counts. -/
theorem complete_perm {cs cs' : List (Sync.PendingFetch × Reply)} (h : cs.Perm cs')
    (hne : (cs.map (·.1.ticket.generation)).Nodup) (s : Session) :
    s.complete cs = s.complete cs' := by
  refine h.foldl_eq' (fun c hc d hd s => ?_) s
  by_cases heq : c = d
  · rw [heq]
  · have hgen : c.1.ticket.generation ≠ d.1.ticket.generation :=
      fun h => heq (List.inj_on_of_nodup_map hne hc hd h)
    by_cases hcurrent : s.generation = c.1.ticket.generation
    · have hd (x : Session) (hx : x.generation = s.generation) :
          Sync.applyFetch x d.1 d.2 = (.ok .discarded, x) :=
        applyFetch_of_ne (by rw [hx, hcurrent]; exact hgen) _
      rw [hd s rfl, hd _ (generation_applyFetch s c.1 c.2)]
    · have hc (x : Session) (hx : x.generation = s.generation) :
          Sync.applyFetch x c.1 c.2 = (.ok .discarded, x) :=
        applyFetch_of_ne (by rw [hx]; exact hcurrent) _
      rw [hc s rfl, hc _ (generation_applyFetch s d.1 d.2)]

/-! ## Late calls -/

/-- **The generation that an operation belongs to**, where it goes on with a load or an update. -/
def Operation.generation? : Operation → Option Nat
  | .applyFetch p _ => some p.ticket.generation
  | .fetchWithPassword t _ => some t.generation
  | .resumeUpdate _ p _ => some p.ticket.generation
  | _ => none

/-- **What belongs to another generation comes to nothing**: it is discarded before anything is
sent. -/
theorem Operation.perform_of_ne {generation : Nat} (h : op.generation? = some generation)
    (hne : s.generation ≠ generation) :
    op.perform s = .done (.fetched (.ok .discarded), s) ∨
      op.perform s = .done (.saved (.ok .discarded), s) := by
  cases op with
  | applyFetch p reply =>
    cases h
    rw [perform, applyFetch_of_ne hne]
    exact .inl rfl
  | fetchWithPassword t answer =>
    cases h
    rw [perform, Sync.fetchWithPassword, if_pos hne]
    exact .inl rfl
  | resumeUpdate o p answer =>
    cases h
    rw [perform, Sync.resumeUpdate, if_pos (by simpa [isCurrent] using hne)]
    exact .inr rfl
  | _ => cases h

namespace Call

variable {c : Call}

/-- **A late call** goes on with something of an earlier generation. -/
def isLate (c : Call) : Bool :=
  c.operation.generation?.any (· < c.before.session.generation)

/-- **A late call is discarded**: it sends nothing and leaves the session as it was. -/
theorem discarded_of_isLate (h : c.Valid) (hlate : c.isLate = true) :
    c.exchanges = [] ∧ (c.result = .fetched (.ok .discarded) ∨ c.result = .saved (.ok .discarded)) ∧
      c.session = c.before.session := by
  obtain ⟨generation, hgen, hlt⟩ := (Option.any_eq_true ..).1 hlate
  have hne : c.before.session.generation ≠ generation := by
    have hlt : generation < c.before.session.generation := by simpa using hlt
    omega
  obtain hdone | hdone := Operation.perform_of_ne hgen hne
  · obtain ⟨hes, hresult, hsession⟩ := h.step.of_done hdone
    exact ⟨hes, .inl hresult, hsession⟩
  · obtain ⟨hes, hresult, hsession⟩ := h.step.of_done hdone
    exact ⟨hes, .inr hresult, hsession⟩

/-- After a late call, everything is as before. -/
theorem after_of_isLate (h : c.Valid) (hlate : c.isLate = true) : c.after = c.before := by
  obtain ⟨-, hresult, hsession⟩ := discarded_of_isLate h hlate
  rw [after, hsession]
  obtain hresult | hresult := hresult <;>
  · rw [hresult]
    rfl

/-- A late call sends nothing. -/
theorem sent_of_isLate (h : c.Valid) (hlate : c.isLate = true) : c.sent = [] := by
  obtain ⟨hes, hresult, -⟩ := discarded_of_isLate h hlate
  rw [sent, hes]
  obtain hresult | hresult := hresult <;>
  · rw [hresult]
    rfl

end Call

/-! ## Runs -/

/-- **The fetches that calls start**, in order. -/
def begun (calls : List Call) : List Sync.PendingFetch :=
  calls.filterMap fun c => match c.result with
    | .started (.ok p) => some p
    | _ => none

/-- Whether a call begins a new generation. -/
def Call.renews (c : Call) : Bool := c.operation.renews c.result

namespace Run

variable {start fin : Stage} {calls : List Call}

/-- **A run counts generations**: as many have begun as there are calls that begin one. -/
theorem generation_eq (run : Run start calls fin) :
    fin.session.generation = start.session.generation + calls.countP Call.renews := by
  induction run with
  | nil => rfl
  | @snoc calls c _ valid ih =>
    have hstep : c.after.session.generation =
        c.before.session.generation + c.renews.toNat := generation_of_step valid.step
    rw [hstep, ih, List.countP_append, List.countP_singleton, Nat.add_assoc]
    cases c.renews <;> rfl

/-- A fetch that has been started is of the generation that it begins. -/
theorem generation_of_begun {c : Call} {p : Sync.PendingFetch} (h : c.Valid)
    (hstarted : c.result = .started (.ok p)) :
    p.ticket.generation = c.after.session.generation ∧ c.renews = true := by
  have hgen := generation_of_step h.step
  have hstep := h.step
  rw [hstarted] at hstep
  obtain ⟨id, hbegin⟩ := started_of_step hstep
  obtain ⟨rfl, hsession⟩ := beginFetch_eq_ok hbegin
  refine ⟨congrArg Session.generation hsession.symm, ?_⟩
  rw [hsession] at hgen
  have hone : (c.operation.renews c.result).toNat = 1 := (Nat.add_left_cancel hgen).symm
  exact Bool.toNat_eq_one.1 hone

/-- **The fetches of a run begin later and later generations.** -/
theorem generations_begun (run : Run start calls fin) :
    ((begun calls).map (·.ticket.generation)).Pairwise (· < ·) ∧
      ∀ p ∈ begun calls, p.ticket.generation ≤ fin.session.generation := by
  induction run with
  | nil => exact ⟨.nil, fun p hp => nomatch hp⟩
  | @snoc calls c run valid ih =>
    obtain ⟨hincreasing, hle⟩ := ih
    have hstep : c.after.session.generation = c.before.session.generation + c.renews.toNat :=
      generation_of_step valid.step
    have hbegun : begun (calls ++ [c]) = begun calls ++ begun [c] := List.filterMap_append
    have hlater : ∀ q ∈ begun calls, q.ticket.generation ≤ c.after.session.generation :=
      fun q hq => Nat.le_trans (hle q hq) (by omega)
    rw [hbegun]
    -- At most one fetch comes to the others, and then the generation is a new one.
    by_cases hstarted : ∃ p, c.result = .started (.ok p)
    · obtain ⟨p, hstarted⟩ := hstarted
      obtain ⟨hp, hrenews⟩ := generation_of_begun valid hstarted
      have hone : begun [c] = [p] := by simp [begun, hstarted]
      rw [hrenews, Bool.toNat_true] at hstep
      rw [hone]
      constructor
      · rw [List.map_append, List.pairwise_append]
        refine ⟨hincreasing, List.pairwise_singleton _ _, fun g hg g' hg' => ?_⟩
        obtain ⟨q, hq, rfl⟩ := List.mem_map.1 hg
        rw [List.map_singleton, List.mem_singleton] at hg'
        have := hle q hq
        omega
      · intro q hq
        obtain hq | hq := List.mem_append.1 hq
        · exact hlater q hq
        · rw [List.mem_singleton.1 hq]
          exact Nat.le_of_eq hp
    · have hnone : begun [c] = [] := by
        rw [begun, List.filterMap_cons_none, List.filterMap_nil]
        split
        · next p hresult => exact absurd ⟨p, hresult⟩ hstarted
        · rfl
      rw [hnone, List.append_nil]
      exact ⟨hincreasing, hlater⟩

/-- **Without its late calls a run is the same.** -/
theorem filter_isLate (run : Run start calls fin) : Run start (calls.filter (!·.isLate)) fin := by
  induction run with
  | nil => exact .nil
  | @snoc calls c _ valid ih =>
    rw [List.filter_append, List.filter_singleton]
    cases hlate : c.isLate with
    | true =>
      rw [Call.after_of_isLate valid hlate]
      simpa using ih
    | false => exact .snoc ih valid

/-- Late calls send nothing. -/
theorem sent_filter_isLate (run : Run start calls fin) :
    (calls.filter (!·.isLate)).flatMap Call.sent = calls.flatMap Call.sent := by
  induction run with
  | nil => rfl
  | @snoc calls c _ valid ih =>
    rw [List.filter_append, List.filter_singleton, List.flatMap_append, List.flatMap_append, ih]
    cases hlate : c.isLate with
    | true => simp [Call.sent_of_isLate valid hlate]
    | false => rfl

/-- **The fetches of a run can be completed in any order.** -/
theorem complete_perm (run : Run start calls fin) {cs cs' : List (Sync.PendingFetch × Reply)}
    (hperm : cs.Perm cs') (hnodup : (cs.map Prod.fst).Nodup)
    (hbegun : ∀ c ∈ cs, c.1 ∈ begun calls) :
    fin.session.complete cs = fin.session.complete cs' := by
  refine Session.complete_perm hperm ?_ _
  have hgenerations : ((begun calls).map (·.ticket.generation)).Nodup :=
    run.generations_begun.1.imp Nat.ne_of_lt
  have hmap : cs.map (·.1.ticket.generation) = (cs.map Prod.fst).map (·.ticket.generation) := by
    rw [List.map_map]
    rfl
  rw [hmap]
  refine hnodup.map_on fun p hp q hq hpq => ?_
  obtain ⟨c, hc, rfl⟩ := List.mem_map.1 hp
  obtain ⟨d, hd, rfl⟩ := List.mem_map.1 hq
  exact List.inj_on_of_nodup_map hgenerations (hbegun c hc) (hbegun d hd) hpq

/-- **A fetch is superseded** if and only if a generation has begun since it was started. -/
theorem generation_ne_iff {earlier later : List Call} {c : Call} {p : Sync.PendingFetch}
    (run : Run start (earlier ++ c :: later) fin) (hstarted : c.result = .started (.ok p)) :
    fin.session.generation ≠ p.ticket.generation ↔ ∃ x ∈ later, x.renews = true := by
  rw [List.append_cons] at run
  obtain ⟨middle, hfirst, hlater⟩ := append_iff.1 run
  obtain ⟨-, hvalid, rfl⟩ := snoc_iff.1 hfirst
  rw [hlater.generation_eq, (generation_of_begun hvalid hstarted).1, ← List.countP_pos_iff]
  omega

/-- **Only the latest load counts.** The fetches that a run starts can be completed in any order,
each with any reply. One of them is discarded, and changes nothing, if and only if another load has
been started or a document pasted since, whatever is completed before it. And a run without its late
calls leads to the same session and sends the same requests, if the replies are the same. -/
theorem latest_counts (run : Run start calls fin) :
    (∀ cs cs' : List (Sync.PendingFetch × Reply), cs.Perm cs' → (cs.map Prod.fst).Nodup →
      (∀ c ∈ cs, c.1 ∈ begun calls) → fin.session.complete cs = fin.session.complete cs') ∧
    (∀ earlier c later p, calls = earlier ++ c :: later → c.result = .started (.ok p) →
      ∀ cs reply, Sync.applyFetch (fin.session.complete cs) p reply =
        (.ok .discarded, fin.session.complete cs) ↔ ∃ x ∈ later, x.renews = true) ∧
    Run start (calls.filter (!·.isLate)) fin ∧
    ∀ calls' fin', Run start calls' fin' →
      calls'.map Call.input = (calls.filter (!·.isLate)).map Call.input →
      fin' = fin ∧ calls'.flatMap Call.sent = calls.flatMap Call.sent := by
  refine ⟨fun cs cs' => run.complete_perm, ?_, run.filter_isLate, ?_⟩
  · rintro earlier c later p rfl hstarted cs reply
    rw [← run.generation_ne_iff hstarted, ← fin.session.generation_complete cs]
    constructor
    · intro h
      exact applyFetch_discarded_iff.1 (congrArg Prod.fst h)
    · exact fun h => applyFetch_of_ne h reply
  · intro calls' fin' run' hinput
    obtain ⟨rfl, rfl⟩ := run'.unique run.filter_isLate hinput
    exact ⟨rfl, run.sent_filter_isLate⟩

end Run

/-- A load that is started in a session without a copy in the store. -/
def loadCall (before : Stage) (id : String) : Call :=
  .quiet before (.beginFetch id)
    (.started (.ok ⟨(before.session.beginLoad id).1, none⟩), (before.session.beginLoad id).2)

/-- It can happen if the id is valid. -/
theorem valid_loadCall {before : Stage} {id : String} (hid : DocumentId.isValid id = true)
    (hunlinked : before.session.remoteId = none) : (loadCall before id).Valid := by
  have hbegin : Sync.beginFetch before.session id =
      .ok (⟨(before.session.beginLoad id).1, none⟩, (before.session.beginLoad id).2) := by
    rw [Sync.beginFetch, if_pos hid, hunlinked, if_neg (by simp)]
  exact Call.valid_quiet trivial (by rw [Operation.perform, hbegin]; rfl)

/-- Of two loads, the first is discarded whenever it is completed, and a run in which it has been
completed is the same without that. -/
theorem Run.latest_counts_loadCall :
    ∃ (first second late : Call) (p q : Sync.PendingFetch),
      Run ⟨{}, {}⟩ [first, second, late] late.after ∧ begun [first, second, late] = [p, q] ∧
      (∀ reply reply', late.session.complete [(p, reply), (q, reply')] =
        late.session.complete [(q, reply'), (p, reply)]) ∧
      (∀ cs reply, Sync.applyFetch (late.session.complete cs) p reply =
        (.ok .discarded, late.session.complete cs)) ∧
      Run ⟨{}, {}⟩ [first, second] late.after ∧
      [first, second].flatMap Call.sent = [first, second, late].flatMap Call.sent := by
  let p : Sync.PendingFetch := ⟨⟨1, "A"⟩, none⟩
  let q : Sync.PendingFetch := ⟨⟨2, "B"⟩, none⟩
  let first := loadCall ⟨{}, {}⟩ "A"
  let second := loadCall first.after "B"
  let late : Call :=
    .quiet second.after (.applyFetch p (.error .timeout)) (.fetched (.ok .discarded), second.session)
  have hfirst : Run ⟨{}, {}⟩ ([] ++ [first]) first.after :=
    Run.nil.snoc (valid_loadCall (by decide) rfl)
  have hsecond : Run ⟨{}, {}⟩ ([first] ++ [second]) second.after :=
    hfirst.snoc (valid_loadCall (by decide) rfl)
  have hlate : Run ⟨{}, {}⟩ ([first, second] ++ [late]) late.after :=
    hsecond.snoc (Call.valid_quiet (List.mem_cons_of_mem _ (List.mem_singleton_self p)) rfl)
  have hbegun : begun [first, second, late] = [p, q] := rfl
  obtain ⟨horder, hsuperseded, hshort, hsame⟩ := latest_counts hlate
  refine ⟨first, second, late, p, q, hlate, hbegun, fun reply reply' => ?_, fun cs reply => ?_,
    hshort, (hsame _ _ hshort rfl).2⟩
  · refine horder _ _ (.swap _ _ _) (by simp [p, q]) fun c hc => ?_
    have hmem : c.1 ∈ [p, q] := by
      simp only [List.mem_cons, List.not_mem_nil, or_false] at hc
      obtain rfl | rfl := hc <;> simp
    exact hbegun.symm ▸ hmem
  · exact (hsuperseded [] first [second, late] p rfl rfl cs reply).2 ⟨second, by simp, rfl⟩

end TemplateShare.Session
