/-! # What can go wrong

Faults of the user's input (`ValidationError`), faults of a text that is to be read
(`EncodingError`), faults of an exchange with the store, and faults of the machine, all joined in
`Error`. Each has one wording. -/

namespace TemplateShare

/-- **Faults of input.** They are reported at once and never reach the store. -/
inductive ValidationError where
  | invalidName (name : String)
  | duplicateName (name : String)
  /-- Removing the dataset would leave none. -/
  | lastDataset
  | unknownDataset (name : String)
  | emptyTemplate
  | notEnoughRows
  | passwordMismatch
  | emptyPassword
  /-- The operation needs a remote copy and there is none. -/
  | noRemoteCopy
  | protectUnavailable
  | invalidRemoteId (id : String)
  /-- Only a document of one default dataset fits into a link. -/
  | notInlinable
  | noConflict
deriving DecidableEq, Repr

/-- The wording of a fault of input. -/
def ValidationError.message : ValidationError → String
  | .invalidName name => "Invalid Data Set Name: '" ++ name ++ "'"
  | .duplicateName name => "Data Set '" ++ name ++ "' already exists"
  | .lastDataset => "Cannot remove the last remaining Data Set"
  | .unknownDataset name => "No Data Set named '" ++ name ++ "'"
  | .emptyTemplate => "No Template"
  | .notEnoughRows => "Not Enough Data Rows"
  | .passwordMismatch => "Password Verification Failed"
  | .emptyPassword => "Invalid Password"
  | .noRemoteCopy => "No Link to Update"
  | .protectUnavailable => "Protection can only be set on a DataTemplate you can modify"
  | .invalidRemoteId id => "Invalid link id: '" ++ id ++ "'"
  | .notInlinable => "Only a single Default Data Set can be shared as an inline link"
  | .noConflict => "There is no conflict to resolve"

/-- **What is wrong with the structure of a text.** -/
inductive Malformation where
  /-- Not the text of any value of the expected shape. -/
  | unreadable
  /-- A portable document without its first lines. -/
  | notDocument
  /-- A stored document without its hash. -/
  | missingHash
  /-- A link that names neither a document nor carries one. -/
  | emptyLink
  /-- The datasets break the rules for datasets. -/
  | datasets (e : ValidationError)
deriving DecidableEq, Repr

/-- The wording of a malformation. -/
def Malformation.message : Malformation → String
  | .unreadable => "unreadable text"
  | .notDocument => "not a DataTemplate document (missing '---' / 'dt:' header)"
  | .missingHash => "missing dt_hash"
  | .emptyLink => "link carries no DataTemplate"
  | .datasets e => e.message

/-- **Faults of a text that is to be read.** Nothing of the text has been used by then. -/
inductive EncodingError where
  /-- The structure is wrong. -/
  | malformed (m : Malformation)
  /-- A field is not Base64 of a text; the detail names the field. -/
  | badEncoding (detail : String)
deriving DecidableEq, Repr

/-- The wording of a fault of reading. -/
def EncodingError.message : EncodingError → String
  | .malformed m => "Malformed DataTemplate: " ++ m.message
  | .badEncoding detail => "Invalid Character Encoding in DataTemplate: " ++ detail

/-- **Faults of the machine's files.** -/
inductive FileError where
  | notFound
  | notADirectory
  | isADirectory
  | nameTooLong
  /-- A path with a character that no path may hold. -/
  | invalidPath
  /-- The content is not a text. -/
  | notText
  /-- Any other fault, in the machine's words. -/
  | other (words : String)
deriving DecidableEq, Repr

/-- The wording of a fault of files. -/
def FileError.message : FileError → String
  | .notFound => "No such file or directory (os error 2)"
  | .notADirectory => "Not a directory (os error 20)"
  | .isADirectory => "Is a directory (os error 21)"
  | .nameTooLong => "File name too long (os error 36)"
  | .invalidPath => "file name contained an unexpected NUL byte"
  | .notText => "stream did not contain valid UTF-8"
  | .other words => words

/-- Whether the fault means that there is nothing at the path. -/
def FileError.isAbsence : FileError → Bool
  | .notFound | .notADirectory | .nameTooLong | .invalidPath => true
  | .isADirectory | .notText | .other _ => false

/-- **All faults.** -/
inductive Error where
  | validation (e : ValidationError)
  | encoding (e : EncodingError)
  /-- The store wants a password. -/
  | unauthorized
  /-- The store refused the password. -/
  | forbidden
  /-- The store holds a later revision. -/
  | conflict (localRevision : Nat)
  | notFound (id : String)
  /-- Any other answer of the store. -/
  | http (status : Nat) (reason : String)
  /-- No answer of the store. -/
  | transport (detail : String)
  | file (e : FileError)
  /-- The settings file cannot be read. -/
  | settings
  | config (detail : String)
  | clipboard (detail : String)
deriving DecidableEq, Repr

/-- The wording of a fault. -/
def Error.message : Error → String
  | .validation e => e.message
  | .encoding e => e.message
  | .unauthorized => "401 Unauthorized: a password is required"
  | .forbidden => "403 Forbidden: the password was rejected"
  | .conflict n => "Remote DataTemplate is a Later Revision (local revision " ++ toString n ++ ")"
  | .notFound id => "HTTP ERROR 404: DataTemplate '" ++ id ++ "' Not Found"
  | .http status reason => "HTTP ERROR " ++ toString status ++ ": " ++ reason
  | .transport detail => "Transport error: " ++ detail
  | .file e => "IO error: " ++ e.message
  | .settings => "Serialization error: unreadable settings"
  | .config detail => "Config error: " ++ detail
  | .clipboard detail => "Clipboard error: " ++ detail

/-- Whether the store denied access. -/
def Error.isAccessDenied : Error → Bool
  | .unauthorized | .forbidden => true
  | _ => false

/-- Whether the fault comes from an exchange with the store. -/
def Error.isProtocol : Error → Bool
  | .unauthorized | .forbidden | .conflict _ | .notFound _ | .http .. | .transport _ => true
  | _ => false

instance : Coe ValidationError Error := ⟨.validation⟩

instance : Coe EncodingError Error := ⟨.encoding⟩

/-- **A computation that succeeds goes on from a part that did.** -/
theorem Except.bind_eq_ok {ε α β : Type} {x : Except ε α} {f : α → Except ε β} {b : β} :
    x >>= f = .ok b ↔ ∃ a, x = .ok a ∧ f a = .ok b := by
  cases x with
  | error e => exact ⟨fun h => (nomatch h), fun ⟨a, h, _⟩ => (nomatch h)⟩
  | ok a =>
    constructor
    · exact fun h => ⟨a, rfl, h⟩
    · rintro ⟨a', ha, h⟩
      obtain rfl := Except.ok.inj ha
      exact h

/-- The result with its fault among all faults. -/
def liftValidation {α : Type} : Except ValidationError α → Except Error α
  | .ok a => .ok a
  | .error e => .error (.validation e)

/-- The result with its fault among all faults. -/
def liftEncoding {α : Type} : Except EncodingError α → Except Error α
  | .ok a => .ok a
  | .error e => .error (.encoding e)

@[simp] theorem liftValidation_ok {α : Type} (a : α) : liftValidation (.ok a) = .ok a := rfl

@[simp] theorem liftValidation_error {α : Type} (e : ValidationError) :
    liftValidation (.error e : Except ValidationError α) = .error (.validation e) := rfl

@[simp] theorem liftEncoding_ok {α : Type} (a : α) : liftEncoding (.ok a) = .ok a := rfl

@[simp] theorem liftEncoding_error {α : Type} (e : EncodingError) :
    liftEncoding (.error e : Except EncodingError α) = .error (.encoding e) := rfl

/-- A result that is no fault stays as it is. -/
theorem liftValidation_eq_ok {α : Type} {x : Except ValidationError α} {a : α} :
    liftValidation x = .ok a ↔ x = .ok a := by
  cases x <;> simp

/-- A result that is no fault stays as it is. -/
theorem liftEncoding_eq_ok {α : Type} {x : Except EncodingError α} {a : α} :
    liftEncoding x = .ok a ↔ x = .ok a := by
  cases x <;> simp

end TemplateShare
