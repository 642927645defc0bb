import TemplateShare.Proofs.Command.Careful
import TemplateShare.Proofs.Command.Run
import TemplateShare.Proofs.Portable.Readable
import TemplateShare.Proofs.Portable.RoundTrip
import TemplateShare.Proofs.Wire.RoundTrip

/-! # What has been pasted can be opened

A text that is pasted replaces a file. The file can be opened again, with the pasted document in it,
unless the document has a text or a name that the printer lets through and YAML does not.

* **`Command.runs_paste`** — when a text is pasted, and what is written.
* **`Command.runs_loadCopy`** — when a working copy is read.
* **`Command.loadCopy_of_paste`** — what has been pasted is read back.
* **`Command.exists_unreadable_paste`** — a text that is pasted and cannot be read back. -/

namespace TemplateShare.Command

open Procedure

variable {agrees : String → Bool → Prop} {σ σ' : Surroundings} {path text : String}

/-- **The user agrees** whenever they are asked. -/
def Agreeing (_ : String) (answer : Bool) : Prop := answer = true

/-- **A text is pasted**, by a user who agrees, if and only if it is a document, what is at the path is
a working copy or nothing, and the file can be written. -/
theorem runs_paste : (∃ report, Procedure.Runs Agreeing σ (paste text path) σ' (pure report)) ↔
    ∃ dt found fs, Pasted.parse text = .ok dt ∧ existingCopy (σ.files.load path) = .ok found ∧
      σ.files.save path (Utf8.encode (Portable.render .plain dt)) = .ok fs ∧
      σ' = { σ with files := fs } := by
  -- Whatever session is replaced, the same is written.
  have hsaved (s : Session) (dt : DataTemplate) (said report : Report) :
      Procedure.Runs Agreeing σ
        (saveCopy path (.ofSession (s.applyPasted dt)) >>= fun _ => pure said) σ' (pure report) ↔
      ∃ fs, σ.files.save path (Utf8.encode (Portable.render .plain dt)) = .ok fs ∧
        σ' = { σ with files := fs } ∧ report = said := by
    have hrender : (WorkingCopy.ofSession (s.applyPasted dt)).render = Portable.render .plain dt :=
      congrArg (Portable.render .plain) (s.snapshot_applyPasted dt)
    simp only [saveCopy, hrender, runs_saveText_bind, runs_pure]
  constructor
  · rintro ⟨report, h⟩
    obtain ⟨dt, hdt, h⟩ := runs_settle_bind.1 h
    obtain ⟨found, hfound, h⟩ := runs_settle_bind.1 (runs_load_bind.1 h)
    have hdt := liftEncoding_eq_ok.1 hdt
    refine ⟨dt, found, ?_⟩
    extract_lets s jp at h
    -- Only a session with changes asks before it is replaced.
    unfold Session.paste at h
    by_cases hdirty : s.dirty = true
    · rw [if_pos hdirty] at h
      obtain ⟨answer, rfl, h⟩ := runs_confirm_bind.1 h
      obtain ⟨fs, hsave, hσ, -⟩ := (hsaved s dt _ _).1 h
      exact ⟨fs, hdt, hfound, hsave, hσ⟩
    · rw [if_neg hdirty] at h
      obtain ⟨fs, hsave, hσ, -⟩ := (hsaved s dt _ _).1 h
      exact ⟨fs, hdt, hfound, hsave, hσ⟩
  · rintro ⟨dt, found, fs, hdt, hfound, hsave, hσ⟩
    refine Exists.imp (fun _ hrun => runs_settle_bind.2 ⟨dt, liftEncoding_eq_ok.2 hdt,
      runs_load_bind.2 (runs_settle_bind.2 ⟨found, hfound, hrun⟩)⟩) ?_
    cases found with
    | none => exact ⟨_, (hsaved {} dt _ _).2 ⟨fs, hsave, hσ, rfl⟩⟩
    | some copy =>
      dsimp only
      unfold Session.paste
      by_cases hdirty : copy.session.dirty = true
      · rw [if_pos hdirty]
        exact ⟨_, runs_confirm_bind.2
          ⟨true, rfl, (hsaved copy.session dt _ _).2 ⟨fs, hsave, hσ, rfl⟩⟩⟩
      · rw [if_neg hdirty]
        exact ⟨_, (hsaved copy.session dt _ _).2 ⟨fs, hsave, hσ, rfl⟩⟩

/-- **A working copy is read** from a text if and only if it is the working copy of the text. -/
theorem runs_loadCopy {copy : WorkingCopy} (hload : σ.files.load path = .ok (Utf8.encode text)) :
    Procedure.Runs agrees σ (loadCopy path) σ (pure copy) ↔ WorkingCopy.parse text = .ok copy := by
  have htext : textOf (σ.files.load path) = .ok text := by rw [hload, textOf, Utf8.decode_encode]
  rw [loadCopy, runs_bind_pure]
  constructor
  · rintro ⟨text', σ₁, hread, h⟩
    obtain ⟨hok, rfl⟩ := runs_settle_pure.1 (runs_load_bind.1 hread)
    obtain rfl := Except.ok.inj (htext.symm.trans hok)
    exact liftEncoding_eq_ok.1 (runs_settle_pure.1 h).1
  · intro h
    exact ⟨text, σ, runs_load_bind.2 (runs_settle htext σ),
      runs_settle (liftEncoding_eq_ok.2 h) σ⟩

variable {report : Report}

/-- **What has been pasted is read back** if and only if no text has a character that YAML refuses and
no name is too long for a key; then it is read without the white space at the ends of its texts. -/
theorem runs_loadCopy_of_paste (h : Procedure.Runs Agreeing σ (paste text path) σ' (pure report)) :
    ∃ dt, Pasted.parse text = .ok dt ∧ ∀ (agrees : String → Bool → Prop) (copy : WorkingCopy),
      Procedure.Runs agrees σ' (loadCopy path) σ' (pure copy) ↔
        (Portable.HasCleanTexts dt ∧ Portable.HasShortNames dt) ∧
          copy = { template := dt.reloaded } := by
  obtain ⟨dt, found, fs, hdt, -, hsave, rfl⟩ := runs_paste.1 ⟨report, h⟩
  have hwell := Pasted.wellFormed_of_parse hdt
  refine ⟨dt, hdt, fun agrees copy => ?_⟩
  -- A document that was pasted is written without a link.
  rw [← Portable.isReadable_iff hwell, ← WorkingCopy.parse_render_unlinked hwell]
  exact runs_loadCopy (Files.load_of_save hsave)

/-- **What has been pasted can be opened** by every later command, as the pasted document without the
white space at the ends of its texts and without a link, if and only if no text has a character that
YAML refuses and no name is too long for a key. -/
theorem loadCopy_of_paste (h : Procedure.Runs Agreeing σ (paste text path) σ' (pure report)) :
    ∃ dt, Pasted.parse text = .ok dt ∧
      ((∃ copy, Procedure.Runs agrees σ' (loadCopy path) σ' (pure copy)) ↔
        Portable.HasCleanTexts dt ∧ Portable.HasShortNames dt) ∧
      ∀ copy, Procedure.Runs agrees σ' (loadCopy path) σ' (pure copy) →
        copy.template.datasets = dt.datasets.map Dataset.trimEnd ∧
          copy.template.template = Text.trimEnd dt.template ∧
          copy.template.registry.activeName = dt.registry.activeName ∧ copy.record = none ∧
          Procedure.Runs agrees σ' (openCopy path) σ' (pure (copy, copy.session)) := by
  obtain ⟨dt, hdt, hread⟩ := runs_loadCopy_of_paste h
  obtain ⟨ds, hds⟩ := Pasted.exists_ofDatasets_of_parse hdt
  refine ⟨dt, hdt, ?_, fun copy hcopy => ?_⟩
  · constructor
    · rintro ⟨copy, hcopy⟩
      exact ((hread agrees copy).1 hcopy).1
    · intro hfits
      exact ⟨_, (hread agrees _).2 ⟨hfits, rfl⟩⟩
  · obtain ⟨-, rfl⟩ := (hread agrees copy).1 hcopy
    exact ⟨dt.datasets_reloaded, dt.template_reloaded,
      DataTemplate.activeName_reloaded (Registry.before_of_ofDatasets hds), rfl,
      runs_bind hcopy (.refl _ _)⟩

/-- The files after a document has been pasted into a new file. -/
def pastedFiles (dt : DataTemplate) : Files :=
  ⟨[(["a"], Utf8.encode (Portable.render .plain dt))], []⟩

/-- **The JSON of any document is pasted into a new file.** -/
theorem runs_paste_new {dt : DataTemplate} (h : dt.registry.WellFormed) : ∃ report,
    Procedure.Runs Agreeing ⟨{}, {}⟩ (paste (Wire.encode dt).text "a") ⟨pastedFiles dt.sent, {}⟩
      (pure report) := by
  have hsteps : Files.steps "a" = ["a"] := by decide
  have habsent : existingCopy (Files.load {} "a") = .ok none := by
    rw [Files.load, Files.locate, hsteps]
    rfl
  have hsave : Files.save {} "a" (Utf8.encode (Portable.render .plain dt.sent)) =
      .ok (pastedFiles dt.sent) := by
    rw [Files.save, hsteps]
    rfl
  exact runs_paste.2 ⟨dt.sent, none, _, Pasted.parse_text h, habsent, hsave, rfl⟩

/-- A document with control characters. -/
def controlDocument : DataTemplate := .single "h\rx\n1 \n" "" "bell\x07"

/-- It can be opened after it has been pasted. -/
theorem loadCopy_of_paste_controlDocument : ∃ report,
    Procedure.Runs Agreeing ⟨{}, {}⟩ (paste (Wire.encode controlDocument).text "a")
      ⟨pastedFiles controlDocument.sent, {}⟩ (pure report) ∧
    ∃ dt, Pasted.parse (Wire.encode controlDocument).text = .ok dt ∧
      ((∃ copy, Procedure.Runs Agreeing ⟨pastedFiles controlDocument.sent, {}⟩ (loadCopy "a")
          ⟨pastedFiles controlDocument.sent, {}⟩ (pure copy)) ↔
        Portable.HasCleanTexts dt ∧ Portable.HasShortNames dt) ∧
      ∀ copy, Procedure.Runs Agreeing ⟨pastedFiles controlDocument.sent, {}⟩ (loadCopy "a")
          ⟨pastedFiles controlDocument.sent, {}⟩ (pure copy) →
        copy.template.datasets = dt.datasets.map Dataset.trimEnd ∧
          copy.template.template = Text.trimEnd dt.template ∧
          copy.template.registry.activeName = dt.registry.activeName ∧ copy.record = none ∧
          Procedure.Runs Agreeing ⟨pastedFiles controlDocument.sent, {}⟩ (openCopy "a")
            ⟨pastedFiles controlDocument.sent, {}⟩ (pure (copy, copy.session)) := by
  obtain ⟨report, h⟩ := runs_paste_new (DataTemplate.wellFormed_single _ _ _)
  exact ⟨report, h, loadCopy_of_paste h⟩

/-- A document with a character that YAML refuses. -/
def refusedDocument : DataTemplate := .single "" "" "\uFFFE"

/-- **A text that is pasted and cannot be read back**: one of its characters needs an escape that the
printer does not give it. -/
theorem exists_unreadable_paste : ∃ (σ σ' : Surroundings) (text path : String) (report : Report),
    σ.files.load path = .error .notFound ∧
      Procedure.Runs Agreeing σ (paste text path) σ' (pure report) ∧
      ∀ copy, ¬Procedure.Runs Agreeing σ' (loadCopy path) σ' (pure copy) := by
  have hwell : refusedDocument.registry.WellFormed := DataTemplate.wellFormed_single _ _ _
  have hsteps : Files.steps "a" = ["a"] := by decide
  have habsent : Files.load {} "a" = .error .notFound := by
    rw [Files.load, Files.locate, hsteps]
    rfl
  obtain ⟨report, h⟩ := runs_paste_new hwell
  refine ⟨_, _, _, _, report, habsent, h, fun copy hcopy => ?_⟩
  obtain ⟨dt, hdt, hread⟩ := runs_loadCopy_of_paste h
  obtain rfl := Except.ok.inj ((Pasted.parse_text hwell).symm.trans hdt)
  have hclean : ¬Portable.HasCleanTexts refusedDocument.sent := by decide
  -- The template is the refused character itself.
  exact hclean ((hread _ copy).1 hcopy).1.1

end TemplateShare.Command
