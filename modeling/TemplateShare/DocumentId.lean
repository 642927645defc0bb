import TemplateShare.Error

/-! # Ids of documents

The store gives each document an id: up to 24 letters and digits of ASCII, `_` and `-`. -/

namespace TemplateShare.DocumentId

/-- The characters of ids. -/
def isIdChar (c : Char) : Bool := c.isAlphanum || c == '_' || c == '-'

/-- **Valid ids** have one to 24 characters. -/
def isValid (id : String) : Bool :=
  let cs := id.toList
  !cs.isEmpty && cs.length ≤ 24 && cs.all isIdChar

/-- **Check an id.** -/
def check (id : String) : Except ValidationError Unit :=
  if isValid id then .ok () else .error (.invalidRemoteId id)

@[simp] theorem check_eq_ok {id : String} : check id = .ok () ↔ isValid id = true := by
  unfold check
  split <;> simp_all

end TemplateShare.DocumentId
