import TemplateShare.Error
import TemplateShare.Text.Blank

/-! # The clipboard

The desktop's clipboard is filled by a tool that reads the text from its input. The first tool that
succeeds is enough; of several complaints the last one counts.

* **`Clipboard.Tool`**, **`Clipboard.tools`**: the tools in the order in which they are tried.
* **`Clipboard.copy`**: which tools run, and what comes of it. -/

namespace TemplateShare.Clipboard

/-- **A tool**: its name, and the arguments that make it read its input. -/
structure Tool where
  name : String
  arguments : List String
deriving DecidableEq, Repr

/-- **The tools** in the order in which they are tried. -/
def tools : List Tool :=
  [⟨"xclip", ["-selection", "clipboard"]⟩, ⟨"xsel", ["--clipboard", "--input"]⟩, ⟨"wl-copy", []⟩]

/-- The complaint about a tool: it is missing, or it ends with a status other than zero. -/
def complaint (t : Tool) : Option Nat → String
  | none => "Failed to spawn " ++ t.name ++ ": " ++ FileError.notFound.message
  | some status => t.name ++ " exited with exit status: " ++ toString status

/-- **Try tools** until one succeeds. `status` is how a tool ends, if there is such a tool. The
tools that ran come with the result; `last` is the complaint so far. -/
def tryTools (status : Tool → Option Nat) (last : String) : List Tool → Except Error Unit × List Tool
  | [] => (.error (.clipboard last), [])
  | t :: ts =>
    match status t with
    | some 0 => (.ok (), [t])
    | some n =>
      let (result, ran) := tryTools status (complaint t (some n)) ts
      (result, t :: ran)
    | none => tryTools status (complaint t none) ts

/-- **Copy to the clipboard.** Each of the tools that ran has been given the text. -/
def copy (status : Tool → Option Nat) : Except Error Unit × List Tool := tryTools status "" tools

/-- **A text for the clipboard** ends in one line break. -/
def prepare (text : String) : String := Text.trimEnd text ++ "\n"

end TemplateShare.Clipboard
