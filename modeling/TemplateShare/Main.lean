import Std.Time.DateTime.Timestamp
import TemplateShare.CommandLine.Program
import TemplateShare.Files

/-! # The command line program

Carries out what the arguments ask for: questions go to the terminal, files are read and written. No
network is within reach here, so no request is answered, and no tool for the clipboard either. -/

namespace TemplateShare.CommandLine

/-- The number of a fault, which some parts of the machine report as a negative one. -/
def faultNumber (number : UInt32) : Nat :=
  if number.toNat < Nat.pow 2 31 then number.toNat else Nat.pow 2 32 - number.toNat

/-- The fault of a file that the machine reports. -/
def fileFault (e : IO.Error) : FileError :=
  let ofNumber (number : UInt32) (words : String) : FileError :=
    match faultNumber number with
    | 2 => .notFound
    | 20 => .notADirectory
    | 21 => .isADirectory
    | 36 => .nameTooLong
    | n => .other (words ++ " (os error " ++ toString n ++ ")")
  match e with
  | .noFileOrDirectory _ n words | .invalidArgument _ n words | .permissionDenied _ n words
  | .resourceExhausted _ n words | .inappropriateType _ n words | .noSuchThing _ n words
  | .interrupted _ n words | .alreadyExists _ n words => ofNumber n words
  | .otherError n words | .resourceBusy n words | .resourceVanished n words
  | .unsupportedOperation n words | .hardwareFault n words | .unsatisfiedConstraints n words
  | .illegalOperation n words | .protocolError n words | .timeExpired n words => ofNumber n words
  | .unexpectedEof => .other "unexpected end of file"
  | .userError words => .other words

/-- The result of an action on files. -/
def guarded {α : Type} (action : IO α) : IO (Except FileError α) := do
  match ← action.toBaseIO with
  | .ok a => return .ok a
  | .error e => return .error (fileFault e)

/-- Read a file. -/
def loadOctets (path : String) : IO Bytes := do return (← IO.FS.readBinFile path).toList

/-- Write a file. Where its directory is missing, make it and try again. -/
def saveOctets (path : String) (content : Bytes) : IO Unit := do
  let write : IO Unit := IO.FS.writeBinFile path ⟨content.toArray⟩
  try write
  catch e =>
    match fileFault e, Files.parentPath path with
    | .notFound, some directory =>
      IO.FS.createDirAll directory
      write
    | _, _ => throw e

/-- Ask on the terminal, and read a line without its end. -/
def ask (prompt : String) : IO String := do
  IO.eprint prompt
  let line ← (← IO.getStdin).getLine
  let isEnd (c : Char) : Bool := c == '\n' || c == '\r'
  return String.ofList (line.toList.reverse.dropWhile isEnd).reverse

/-- **Carry out a dialogue** with the user and the files of the machine. -/
def carryOut {α : Type} (exchange : Request → Reply) : Dialogue α → IO α
  | .done a => return a
  | .exchange r next => carryOut exchange (next (exchange r))
  | .askPassword q next => do carryOut exchange (next (some (← ask (passwordPrompt q))))
  | .confirm q next => do carryOut exchange (next (agrees (← ask (agreementPrompt q))))
  | .loadFile p next => do carryOut exchange (next (← guarded (loadOctets p)))
  | .saveFile p c next => do carryOut exchange (next (← guarded (saveOctets p c)))

/-- Whether an order reads the input. -/
def readsInput : Order → Bool
  | .paste _ none => true
  | _ => false

/-- All of the input. -/
partial def restOfInput (input : IO.FS.Stream) (got : ByteArray) : IO ByteArray := do
  let more ← input.read 65536
  if more.isEmpty then return got
  restOfInput input (got ++ more)

/-- The current time. -/
def currentTime : IO Instant := do
  let t ← Std.Time.Timestamp.now
  let seconds := t.val.second.val
  let nanos := t.val.nano.val
  return if nanos < 0 then ⟨seconds - 1, (nanos + 1000000000).toNat⟩ else ⟨seconds, nanos.toNat⟩

/-- What an invocation prints. -/
def carryOutInvocation (i : Invocation) : IO Printed := do
  let directory := settingsDirectory (← IO.getEnv "DTLINK_CONFIG_DIR")
    (← IO.getEnv "XDG_CONFIG_HOME") (← IO.getEnv "HOME")
  match directory with
  | .error e => return { fault := some e }
  | .ok settingsDirectory =>
    let input ← if readsInput i.order then restOfInput (← IO.getStdin) .empty else pure .empty
    let env : Environment :=
      { settingsDirectory, serverVariable := ← IO.getEnv "DTLINK_SERVER"
        hasTerminal := ← (← IO.getStderr).isTty, input := input.toList, now := ← currentTime }
    match ← carryOut (fun _ => .error .timeout) (Setup.prepare env i.server) with
    | .error e => return { fault := some e }
    | .ok setup => carryOut setup.endpoint.reply (setup.perform env i)

/-- How the program is used. -/
def usage : String :=
  "Usage: dtlink [--server URL] [--no-input] [--verbose] COMMAND\n\n" ++
    "Commands: pull, push, protect, dataset, preview, render, link, open, paste, export, config\n"

/-- The version of the program. -/
def version : String := "dtlink 0.3.0\n"

end TemplateShare.CommandLine

open TemplateShare.CommandLine in
/-- **The program.** It ends with 1 after a fault, and with 2 where the arguments make no sense. -/
def main (args : List String) : IO UInt32 := do
  match Invocation.ofArguments args with
  | .error .help =>
    IO.print usage
    return 0
  | .error .version =>
    IO.print version
    return 0
  | .error .fault =>
    IO.eprint usage
    return 2
  | .ok i =>
    let printed ← carryOutInvocation i
    IO.print printed.output
    IO.eprint printed.complaint
    return UInt32.ofNat printed.exitCode
