import TemplateShare.Command.Copy
import TemplateShare.Proofs.Session.Kept

/-! # A fetch asks once

A fetch for a command puts a question where the store wants a password, and goes on with the answer.
Whatever the store replies and the user answers, it asks once and tries again once: an answer that
has been refused is an error, and no other load starts in between.

* **`Dialogue.transcript`** — what happens when a dialogue is carried out, turn by turn.
* **`Dialogue.transcript_bind`** — the turns of a dialogue that goes on.
* **`Sync.turns_fetch`**, **`Sync.turns_fetchWithPassword`** — the turns of a fetch, and of an answer.
* **`Command.Prompted`** — all the ways in which a fetch with its question can go.
* **`Command.fetchWithPrompt_asks_once`** — how often it asks and sends, and what it leaves. -/

namespace TemplateShare

/-! ## Turns of a dialogue -/

namespace Dialogue

variable {α β σ : Type}

/-- **A turn of a dialogue**: what it does, and the reply. -/
inductive Turn where
  | sent (request : Request) (reply : Reply)
  | asked (question : String) (answer : Option String)
  | confirmed (question : String) (answer : Bool)
  | loaded (path : String) (found : Except FileError Bytes)
  | saved (path : String) (content : Bytes) (written : Except FileError Unit)

/-- **What happens when a dialogue is carried out**, in order. -/
def transcript (w : Replies σ) : Dialogue α → σ → List Turn
  | .done _, _ => []
  | .exchange r next, x =>
    .sent r (w.exchange r x).1 :: (next (w.exchange r x).1).transcript w (w.exchange r x).2
  | .askPassword q next, x =>
    .asked q (w.askPassword q x).1 ::
      (next (w.askPassword q x).1).transcript w (w.askPassword q x).2
  | .confirm q next, x =>
    .confirmed q (w.confirm q x).1 :: (next (w.confirm q x).1).transcript w (w.confirm q x).2
  | .loadFile p next, x =>
    .loaded p (w.loadFile p x).1 :: (next (w.loadFile p x).1).transcript w (w.loadFile p x).2
  | .saveFile p c next, x =>
    .saved p c (w.saveFile p c x).1 ::
      (next (w.saveFile p c x).1).transcript w (w.saveFile p c x).2

/-- The requests that have been sent. -/
def requests (ts : List Turn) : List Request :=
  ts.filterMap fun | .sent r _ => some r | _ => none

/-- The answers to the questions for a password. -/
def answers (ts : List Turn) : List (Option String) :=
  ts.filterMap fun | .asked _ a => some a | _ => none

/-- **A dialogue that goes on** has the turns of its parts, one after the other. -/
theorem transcript_bind (w : Replies σ) (d : Dialogue α) (f : α → Dialogue β) (x : σ) :
    (d.bind f).transcript w x =
      d.transcript w x ++ (f (d.run w x).1).transcript w (d.run w x).2 := by
  induction d generalizing x with
  | done a => rfl
  | exchange r next ih => exact congrArg (_ :: ·) (ih _ _)
  | askPassword q next ih => exact congrArg (_ :: ·) (ih _ _)
  | confirm q next ih => exact congrArg (_ :: ·) (ih _ _)
  | loadFile p next ih => exact congrArg (_ :: ·) (ih _ _)
  | saveFile p c next ih => exact congrArg (_ :: ·) (ih _ _)

end Dialogue

/-! ## Turns of a fetch -/

namespace Sync

open Dialogue

variable {σ : Type} (w : Replies σ) (x : σ)

/-- **A fetch** sends nothing for an id that is not valid, else one request, whose reply is applied
to the session in which the load has been started. -/
theorem turns_fetch (s : Session) (id : String) :
    (DocumentId.isValid id = false ∧ (fetch s id).transcript w x = [] ∧
      ∃ e, ((fetch s id).run w x).1 = (.error e, s)) ∨
    DocumentId.isValid id = true ∧
      ∃ p reply, p.ticket = (s.beginLoad id).1 ∧
        (fetch s id).transcript w x = [.sent p.request reply] ∧
        Fetched (s.beginLoad id).2 p reply ((fetch s id).run w x).1 := by
  unfold fetch beginFetch
  cases hid : DocumentId.isValid id with
  | false => exact .inl ⟨rfl, rfl, _, rfl⟩
  | true => exact .inr ⟨rfl, _, _, rfl, rfl, fetched_applyFetch _ _ _⟩

/-- **An answer to a fetch's question**, with a current ticket, gives the load up if it is blank, and
else is presented in one request. -/
theorem turns_fetchWithPassword {s : Session} {t : Session.LoadTicket} (answer : Option String)
    (current : s.generation = t.generation) :
    (Password.answer answer = none ∧ (fetchWithPassword s t answer).transcript w x = [] ∧
      ((fetchWithPassword s t answer).run w x).1 =
        (.error .unauthorized, s.abortLoad t .accessDenied)) ∨
    ∃ password reply, Password.answer answer = some password ∧
      (fetchWithPassword s t answer).transcript w x =
        [.sent (fetchRequest t.id (some password)) reply] ∧
      Fetched s ⟨t, some password⟩ reply ((fetchWithPassword s t answer).run w x).1 := by
  unfold fetchWithPassword
  rw [if_neg (not_not_intro current)]
  cases Password.answer answer with
  | none => exact .inl ⟨rfl, rfl, rfl⟩
  | some password => exact .inr ⟨password, _, rfl, rfl, fetched_applyFetch _ _ _⟩

/-- **A fetch that is settled**: a document has been loaded, or there is an error and nothing that
lasts has changed. -/
inductive Settled (s : Session) : Outcome FetchOutcome → Prop
  | loaded (summary : LoadSummary) (s' : Session) : Settled s (.ok (.loaded summary), s')
  | failed {s' : Session} (e : Error) (same : s'.kept = s.kept) : Settled s (.error e, s')

/-- What is settled for a session is so for one with the same lasting part. -/
theorem Settled.of_kept {s₁ s₂ : Session} {out : Outcome FetchOutcome} (h : Settled s₁ out)
    (hs : s₁.kept = s₂.kept) : Settled s₂ out := by
  cases h with
  | loaded summary s' => exact .loaded summary s'
  | failed e same => exact .failed e (same.trans hs)

/-- **A reply to a fetch in the current generation settles it**, unless it is a question, for which
no password has been presented. -/
theorem settled_or_asked {s : Session} {p : PendingFetch} {reply : Reply}
    {out : Outcome FetchOutcome} (h : Fetched s p reply out)
    (current : s.generation = p.ticket.generation) :
    Settled s out ∨ p.password = none ∧ out = (.ok (.passwordRequired p.ticket), s) := by
  cases h with
  | loaded => exact .inl (.loaded _ _)
  | asked _ bare => exact .inr ⟨bare, rfl⟩
  | discarded stale => exact absurd current stale
  | failed e state => exact .inl (.failed e (Session.kept_abortLoad s p.ticket state))

end Sync

/-! ## Turns of a fetch with its question -/

namespace Command

open Dialogue

variable {σ : Type} (w : Replies σ) (x : σ)

/-- **Fetch a document**, and where the store wants a password, ask for it and go on with the
answer. -/
def fetchAsking (s : Session) (id : String) : Dialogue (Sync.Outcome Sync.FetchOutcome) :=
  (Sync.fetch s id).bind fun out =>
    match out.1 with
    | .ok (.passwordRequired ticket) =>
      (askPassword ("Password for " ++ ticket.id)).bind (Sync.fetchWithPassword out.2 ticket)
    | _ => .done out

/-- **What a fetch with its question ends with.** For a second question and for a load that is no
longer wanted there are errors as well. -/
def concluded (out : Sync.Outcome Sync.FetchOutcome) : Sync.Outcome Sync.LoadSummary :=
  match out.1 with
  | .error e => (.error e, out.2)
  | .ok (.loaded summary) => (.ok summary, out.2)
  | .ok (.passwordRequired _) => (.error .unauthorized, out.2)
  | .ok .discarded => (.error (.transport "load was superseded"), out.2)

/-- A fetch with its question is a fetch that asks, and then its conclusion. -/
theorem fetchWithPrompt_eq (s : Session) (id : String) :
    fetchWithPrompt s id = (fetchAsking s id).bind fun out => .done (concluded out) := by
  unfold fetchWithPrompt fetchAsking
  rw [bind_eq, bind_bind]
  refine congrArg _ (funext fun out => ?_)
  obtain ⟨first, s⟩ := out
  cases first with
  | error e => rfl
  | ok outcome =>
    cases outcome with
    | loaded summary => rfl
    | discarded => rfl
    | passwordRequired ticket =>
      refine congrArg (Dialogue.bind _) (funext fun out => ?_)
      obtain ⟨outcome, s⟩ := out
      cases outcome with
      | error e => rfl
      | ok outcome => cases outcome <;> rfl

/-- The conclusion takes no turn. -/
theorem transcript_fetchWithPrompt (s : Session) (id : String) :
    (fetchWithPrompt s id).transcript w x = (fetchAsking s id).transcript w x := by
  rw [fetchWithPrompt_eq, transcript_bind]
  exact List.append_nil _

/-- A fetch with its question comes to what is concluded from the one that asks. -/
theorem run_fetchWithPrompt (s : Session) (id : String) :
    ((fetchWithPrompt s id).run w x).1 = concluded ((fetchAsking s id).run w x).1 := by
  rw [fetchWithPrompt_eq, run_bind]
  rfl

/-- **All the ways in which a fetch with its question can go**, with the turns and what they come
to. -/
inductive Prompted (s : Session) (id : String) : List Turn → Sync.Outcome Sync.FetchOutcome → Prop
  | refused (invalid : DocumentId.isValid id = false) (e : Error) : Prompted s id [] (.error e, s)
  | settled {out : Sync.Outcome Sync.FetchOutcome} (valid : DocumentId.isValid id = true)
      (r : Request) (reply : Reply) (settles : Sync.Settled s out) :
      Prompted s id [.sent r reply] out
  | givenUp {a : Option String} {s' : Session} (valid : DocumentId.isValid id = true) (r : Request)
      (reply : Reply) (q : String) (blank : Password.answer a = none) (same : s'.kept = s.kept) :
      Prompted s id [.sent r reply, .asked q a] (.error .unauthorized, s')
  | answered {a : Option String} {password : String} {out : Sync.Outcome Sync.FetchOutcome}
      (valid : DocumentId.isValid id = true) (r : Request) (reply : Reply) (q : String)
      (given : Password.answer a = some password) (reply' : Reply) (settles : Sync.Settled s out) :
      Prompted s id
        [.sent r reply, .asked q a, .sent (Sync.fetchRequest id (some password)) reply'] out

/-- **A fetch that asks goes in one of these ways**, whatever is replied. -/
theorem prompted_fetchAsking (s : Session) (id : String) :
    Prompted s id ((fetchAsking s id).transcript w x) ((fetchAsking s id).run w x).1 := by
  unfold fetchAsking
  rw [transcript_bind, run_bind]
  obtain ⟨invalid, hturns, e, hout⟩ | ⟨valid, p, reply, hticket, hturns, hfetched⟩ :=
    Sync.turns_fetch w x s id
  · rw [hturns, hout]
    exact .refused invalid e
  · -- The load has started a generation of its own, which is the one of its ticket.
    obtain ⟨ticket, presented⟩ := p
    obtain rfl : ticket = (s.beginLoad id).1 := hticket
    have hkept := Session.kept_beginLoad s id
    rw [hturns]
    generalize (Sync.fetch s id).run w x = first at hfetched ⊢
    obtain ⟨out, x⟩ := first
    obtain hsettled | ⟨-, rfl⟩ := Sync.settled_or_asked hfetched rfl
    · cases hsettled.of_kept hkept with
      | loaded summary s' => exact .settled valid _ _ (.loaded summary s')
      | failed e same => exact .settled valid _ _ (.failed e same)
    · let answer := w.askPassword ("Password for " ++ id) x
      show Prompted s id
        (.sent _ reply :: .asked _ answer.1 ::
          (Sync.fetchWithPassword (s.beginLoad id).2 _ answer.1).transcript w answer.2)
        ((Sync.fetchWithPassword (s.beginLoad id).2 _ answer.1).run w answer.2).1
      obtain ⟨blank, hturns, hout⟩ | ⟨password, reply', given, hturns, hfetched⟩ :=
        Sync.turns_fetchWithPassword w answer.2 (s := (s.beginLoad id).2) (t := (s.beginLoad id).1)
          answer.1 rfl
      · rw [hturns, hout]
        exact .givenUp valid _ _ _ blank ((Session.kept_abortLoad _ _ _).trans hkept)
      · rw [hturns]
        -- A password has been presented, so a refusal is no question any more.
        obtain hsettled | ⟨hbare, -⟩ := Sync.settled_or_asked hfetched rfl
        · exact .answered valid _ _ _ given _ (hsettled.of_kept hkept)
        · cases hbare

/-! ### What all these ways have in common -/

section Prompted

variable {s : Session} {id : String} {ts : List Turn} {out : Sync.Outcome Sync.FetchOutcome}

/-- In the end a document has been loaded, or there is an error. -/
theorem Prompted.settled_out (h : Prompted s id ts out) : Sync.Settled s out := by
  cases h with
  | refused _ e => exact .failed e rfl
  | settled _ _ _ settles => exact settles
  | givenUp _ _ _ _ _ same => exact .failed _ same
  | answered _ _ _ _ _ _ settles => exact settles

/-- No second question is asked. -/
theorem Prompted.length_answers_le (h : Prompted s id ts out) : (answers ts).length ≤ 1 := by
  cases h with
  | refused | settled => exact Nat.zero_le 1
  | givenUp | answered => exact Nat.le_refl 1

/-- No third request is sent. -/
theorem Prompted.length_requests_le (h : Prompted s id ts out) : (requests ts).length ≤ 2 := by
  cases h with
  | refused => exact Nat.zero_le 2
  | settled | givenUp => exact Nat.le_succ 1
  | answered => exact Nat.le_refl 2

/-- Nothing is sent if and only if the id is not valid. -/
theorem Prompted.requests_eq_nil_iff (h : Prompted s id ts out) :
    requests ts = [] ↔ DocumentId.isValid id = false := by
  cases h with
  | refused invalid => exact iff_of_true rfl invalid
  | settled valid | givenUp valid | answered valid =>
    exact iff_of_false (List.cons_ne_nil _ _) (by rw [valid]; decide)

/-- After an answer that is missing or blank nothing more is sent. -/
theorem Prompted.length_requests_of_blank (h : Prompted s id ts out) {a : Option String}
    (ha : a ∈ answers ts) (blank : ∀ p ∈ a, Text.isBlank p = true) : (requests ts).length = 1 := by
  cases h with
  | refused => cases ha
  | settled => rfl
  | givenUp => rfl
  | answered _ _ _ _ given =>
    obtain rfl := List.mem_singleton.1 ha
    obtain ⟨hgiven, hanswer⟩ := Password.answer_eq_some given
    rw [blank _ hgiven] at hanswer
    cases hanswer

end Prompted

/-- **A fetch with its question asks once**, whatever is replied. At most one question is put and at
most two requests are sent: none if and only if the id is not valid, and only one if the answer is
missing or blank. The fetch is one that asks, with a conclusion; and what is concluded from is never
a load that is no longer wanted nor a second question. After an error the datasets, the template and
the id of the copy in the store are what they were. -/
theorem fetchWithPrompt_asks_once (s : Session) (id : String) :
    let asking := ((fetchAsking s id).run w x).1
    let turns := (fetchWithPrompt s id).transcript w x
    let out := ((fetchWithPrompt s id).run w x).1
    (answers turns).length ≤ 1 ∧ (requests turns).length ≤ 2 ∧
    (requests turns = [] ↔ DocumentId.isValid id = false) ∧
    (∀ a ∈ answers turns, (∀ p ∈ a, Text.isBlank p = true) → (requests turns).length = 1) ∧
    fetchWithPrompt s id = (fetchAsking s id).bind (fun o => .done (concluded o)) ∧
    asking.1 ≠ .ok .discarded ∧ (∀ ticket, asking.1 ≠ .ok (.passwordRequired ticket)) ∧
    (∀ e, out.1 = .error e → out.2.registry = s.registry ∧ out.2.editor = s.editor ∧
      out.2.template = s.template ∧ out.2.remoteId = s.remoteId) := by
  intro asking turns out
  have hprompted : Prompted s id turns asking := by
    rw [show turns = (fetchAsking s id).transcript w x from transcript_fetchWithPrompt w x s id]
    exact prompted_fetchAsking w x s id
  refine ⟨hprompted.length_answers_le, hprompted.length_requests_le,
    hprompted.requests_eq_nil_iff, fun a ha => hprompted.length_requests_of_blank ha,
    fetchWithPrompt_eq s id, ?_⟩
  rw [show out = concluded asking from run_fetchWithPrompt w x s id]
  have hsettled := hprompted.settled_out
  clear_value asking
  cases hsettled with
  | loaded summary s' =>
    exact ⟨fun h => (nomatch h), fun t h => (nomatch h), fun e h => (nomatch h)⟩
  | failed e same =>
    obtain ⟨hregistry, hdata, htemplate, hremote, -⟩ := Session.eq_of_kept_eq same
    exact ⟨fun h => (nomatch h), fun t h => (nomatch h),
      fun _ _ => ⟨hregistry, hdata, htemplate, hremote⟩⟩

/-- A store that wants a password, a user who answers with a blank, and no files. -/
def withheld : Replies Unit where
  exchange _ _ := (.ok { status := 401, body := "" }, ())
  askPassword _ _ := (some " ", ())
  confirm _ _ := (false, ())
  loadFile _ _ := (.error .notFound, ())
  saveFile _ _ _ := (.error .notFound, ())

/-- **A load that is given up** after one request leaves the session without a copy in the store. -/
theorem fetchWithPrompt_asks_once_withheld :
    let turns := (fetchWithPrompt {} "doc1").transcript withheld ()
    let out := ((fetchWithPrompt {} "doc1").run withheld ()).1
    answers turns = [some " "] ∧ (requests turns).length = 1 ∧ out.1 = .error .unauthorized ∧
      out.2.registry = .initial ∧ out.2.template = "" ∧ out.2.remoteId = none := by
  obtain ⟨-, -, -, hblank, -, -, -, hkept⟩ := fetchWithPrompt_asks_once withheld () {} "doc1"
  have hanswers : answers ((fetchWithPrompt {} "doc1").transcript withheld ()) = [some " "] := by
    decide
  have hout : ((fetchWithPrompt {} "doc1").run withheld ()).1.1 = .error .unauthorized := rfl
  obtain ⟨hregistry, -, htemplate, hremote⟩ := hkept _ hout
  refine ⟨hanswers, hblank (some " ") (by rw [hanswers]; exact List.mem_singleton_self _) ?_, hout,
    hregistry, htemplate, hremote⟩
  rintro p ⟨⟩
  decide

end Command

end TemplateShare
