import TemplateShare.Error
import TemplateShare.Text.Blank

/-! # Passwords

A document may have a password for opening and one for modifying it. Where there is only the
first, it guards both.

* **`Password.confirm`**: a new password, which has to be typed twice.
* **`Password.answer`**: the answer to a question for a password.
* **`Protection`**: the passwords that are to be set, at least one. -/

namespace TemplateShare

namespace Password

/-- **A password typed twice.** Both empty stands for no password. -/
def confirm (entry confirmation : String) : Except ValidationError (Option String) :=
  if entry ≠ confirmation then .error .passwordMismatch
  else if entry = "" then .ok none
  else if Text.isBlank entry then .error .emptyPassword
  else .ok (some entry)

/-- **The answer to a question for a password.** A blank one gives up, like none at all. -/
def answer (a : Option String) : Option String := a.filter (!Text.isBlank ·)

@[simp] theorem answer_none : answer none = none := rfl

theorem answer_eq_some {a : Option String} {p : String} (h : answer a = some p) :
    a = some p ∧ Text.isBlank p = false := by
  simpa [answer, Option.filter_eq_some_iff] using h

end Password

/-- **The passwords to set**, at least one of them. -/
structure Protection where
  openPassword : Option String
  modifyPassword : Option String
  isSet : openPassword.isSome ∨ modifyPassword.isSome
deriving DecidableEq, Repr

namespace Protection

/-- **Passwords to set.** A password for modifying that is the one for opening adds nothing. -/
def of (openPassword modifyPassword : Option String) : Except ValidationError Protection :=
  let modify := if openPassword = modifyPassword then none else modifyPassword
  if h : openPassword.isSome ∨ modify.isSome then .ok ⟨openPassword, modify, h⟩
  else .error .emptyPassword

/-- **Passwords to set**, each typed twice. -/
def ofEntries (opening openingAgain modifying modifyingAgain : String) :
    Except ValidationError Protection := do
  let o ← Password.confirm opening openingAgain
  let m ← Password.confirm modifying modifyingAgain
  of o m

/-- The password that guards changes. -/
def guard? (p : Protection) : Option String := p.modifyPassword <|> p.openPassword

/-- There always is a password that guards changes. -/
theorem isSome_guard? (p : Protection) : p.guard?.isSome = true := by
  have := p.isSet
  cases h : p.modifyPassword <;> simp_all [guard?]

/-- How a password is shown where it must not be read. -/
def redacted : String := "<redacted>"

/-- A password as a log shows it. -/
def shown : Option String → String
  | none => "None"
  | some _ => "Some(\"" ++ redacted ++ "\")"

/-- **How a log shows the passwords**: whether they are there. -/
def summary (p : Protection) : String :=
  "ProtectRequest \x7b open: " ++ shown p.openPassword ++ ", modify: " ++
    shown p.modifyPassword ++ " \x7d"

end Protection

end TemplateShare
