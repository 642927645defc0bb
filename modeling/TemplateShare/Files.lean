import TemplateShare.Assoc
import TemplateShare.Error
import TemplateShare.Text.Utf8

/-! # Files

The files below a working directory. A path is walked step by step from there, so every step but
the last has to lead to a directory.

* **`Files`**: the files and the directories.
* **`Files.load`**, **`Files.save`**, **`Files.remove`**: what can be done with them. -/

namespace TemplateShare

/-- A place below the working directory: the names on the way to it. -/
abbrev Place := List String

/-- **The files and the directories** below a working directory, which itself is not among them. -/
structure Files where
  contents : List (Place × Bytes) := []
  directories : List Place := []
deriving DecidableEq, Repr, Inhabited

namespace Files

/-- What is at a place. -/
inductive Entry where
  | file (content : Bytes)
  | directory
deriving DecidableEq, Repr

/-- **What is at a place**, if anything. -/
def entry (fs : Files) (p : Place) : Option Entry :=
  if p.isEmpty then some .directory
  else
    match fs.contents.lookup p with
    | some c => some (.file c)
    | none => if fs.directories.contains p then some .directory else none

/-! ## Paths -/

/-- The names of a path. A slash at the end asks for a directory, like the name `.` there. -/
def steps (path : String) : List String :=
  let names := ((path.toList.splitOn '/').filter (!·.isEmpty)).map String.ofList
  if path.toList.getLast? = some '/' then names ++ ["."] else names

/-- The path of the directory that a file lies in, where the path names one. -/
def parentPath (path : String) : Option String :=
  let parent := (path.toList.reverse.dropWhile (· != '/')).drop 1
  if parent.isEmpty then none else some (String.ofList parent.reverse)

/-- The longest name, in octets. -/
def longestName : Nat := 255

/-- The octets that a path has to stay below. -/
def longestPath : Nat := 4096

/-- **Walk from a place** that has to be a directory if there is another step. The last step may
lead to nothing. -/
def walk (fs : Files) : Place → List String → Except FileError Place
  | p, [] => .ok p
  | p, s :: rest =>
    match fs.entry p with
    | none => .error .notFound
    | some (.file _) => .error .notADirectory
    | some .directory =>
      if s = "." then walk fs p rest
      else if s = ".." then walk fs p.dropLast rest
      else if longestName < s.utf8ByteSize then .error .nameTooLong
      else walk fs (p ++ [s]) rest

/-- A path that can be asked for. -/
def checkPath (path : String) : Except FileError Unit :=
  if path.toList.contains '\x00' then .error .invalidPath
  else if path.isEmpty then .error .notFound
  else if longestPath ≤ path.utf8ByteSize then .error .nameTooLong
  else .ok ()

/-- Where a path leads. -/
def locate (fs : Files) (path : String) : Except FileError Place := do
  checkPath path
  fs.walk [] (steps path)

/-! ## Reading and writing -/

/-- **The content of a file.** -/
def load (fs : Files) (path : String) : Except FileError Bytes := do
  match fs.entry (← fs.locate path) with
  | some (.file c) => return c
  | some .directory => throw FileError.isADirectory
  | none => throw FileError.notFound

/-- Make the directories of a path that are missing. -/
def makeDirectories (fs : Files) : Place → List String → Except FileError Files
  | _, [] => .ok fs
  | p, s :: rest => do
    let q ← fs.walk p [s]
    match fs.entry q with
    | some _ => fs.makeDirectories q rest
    | none => ({ fs with directories := fs.directories ++ [q] } : Files).makeDirectories q rest

/-- **Write a file**, in a directory that is made where it is missing. -/
def save (fs : Files) (path : String) (content : Bytes) : Except FileError Files := do
  checkPath path
  let names := steps path
  let asksDirectory := names.getLast? = some "."
  let parent := (if asksDirectory then names.dropLast else names).dropLast
  let fs ← fs.makeDirectories [] parent
  let place ← fs.walk [] (if asksDirectory then names.dropLast else names)
  match fs.entry place with
  | some .directory => throw FileError.isADirectory
  | some (.file _) =>
    if asksDirectory then throw FileError.notADirectory
    else return { fs with contents := Assoc.insert place content fs.contents }
  | none =>
    if asksDirectory then throw FileError.isADirectory
    else return { fs with contents := Assoc.insert place content fs.contents }

/-- Take a file away. -/
def remove (fs : Files) (p : Place) : Files :=
  { fs with contents := fs.contents.filter (·.1 != p) }

@[simp] theorem entry_nil (fs : Files) : fs.entry [] = some .directory := rfl

@[simp] theorem walk_nil (fs : Files) (p : Place) : fs.walk p [] = .ok p := rfl

end Files

end TemplateShare
