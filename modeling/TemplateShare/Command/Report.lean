import TemplateShare.Preview
import TemplateShare.Session
import TemplateShare.Settings

/-! # Reports of commands

What a command tells its user, apart from the faults that end it: messages, a text that is its
output, the session as it left it, a table or settings. How these are shown is not decided here. -/

namespace TemplateShare

/-- How serious a message is. -/
inductive Message.Level where
  | info
  | success
  | warning
  | error
deriving DecidableEq, Repr

/-- **A message to the user.** -/
structure Message where
  level : Message.Level
  text : String
deriving DecidableEq, Repr

/-- **What a command reports.** -/
structure Report where
  messages : List Message := []
  /-- A text that is to be printed as it is: a link, a document, a payload. -/
  output : Option String := none
  session : Option Session := none
  preview : Option Preview := none
  settings : Option Settings := none
deriving Repr, Inhabited

namespace Report

/-- Add a message at the end. -/
def tell (r : Report) (level : Message.Level) (text : String) : Report :=
  { r with messages := r.messages ++ [⟨level, text⟩] }

/-- Whether a message is one of an error. -/
def hasErrors (r : Report) : Bool := r.messages.any fun m => m.level = .error

end Report

end TemplateShare
