import TemplateShare.Text.Blank

/-! # Datasets

A dataset is a name with a pair of texts: tabular data and the variables that go with it. -/

namespace TemplateShare

/-- **The two texts of a dataset**: its tabular data and its variables. -/
structure Buffers where
  data : String := ""
  vars : String := ""
deriving DecidableEq, Repr, Inhabited

/-- Whether both texts hold nothing but white space. -/
def Buffers.isBlank (b : Buffers) : Bool := Text.isBlank b.data && Text.isBlank b.vars

/-- **A named pair of texts.** -/
structure Dataset where
  name : String
  buffers : Buffers := {}
deriving DecidableEq, Repr, Inhabited

/-- The name of the dataset that every new document starts with. -/
def Dataset.defaultName : String := "Default"

/-- **Valid names** start with an ASCII letter and go on with ASCII letters, digits, `_`, blanks
and `-`. -/
def Dataset.isValidName (name : String) : Bool :=
  match name.toList with
  | [] => false
  | c :: cs => c.isAlpha && cs.all fun x => x.isAlphanum || x == '_' || x == ' ' || x == '-'

/-- The texts of a new dataset are blank. -/
@[simp] theorem Buffers.isBlank_empty : ({} : Buffers).isBlank = true := rfl

end TemplateShare
