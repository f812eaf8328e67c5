import Bulletin.Command.Run
import Bulletin.Journal.Filter

namespace Bulletin

/-- A workspace on the real files, which shows notices through a filter. -/
abbrev Shell := ReaderT Filter IO

namespace Shell

/-- The number of a system error, which may be given with either sign. -/
def errorNumber (code : UInt32) : UInt32 :=
  min code (0 - code)

def fileError : IO.Error → FileError
  | .noFileOrDirectory .. => .notFound
  | .alreadyExists .. => .alreadyExists
  | .inappropriateType _ code _ => if errorNumber code = 20 then .notDirectory else .isDirectory
  | .invalidArgument _ code details =>
    if errorNumber code = 36 then .nameTooLong
    else if errorNumber code = 22 then .invalidArgument
    else .other details
  | error => .other error.toString

def attempt {α : Type} (action : IO α) : Shell (Except FileError α) := do
  match ← action.toBaseIO with
  | .ok a => return .ok a
  | .error error => return .error (fileError error)

instance : Workspace Shell where
  readFile path := attempt do
    return (← IO.FS.readBinFile path).toList
  writeFile path bytes := attempt (IO.FS.writeBinFile path bytes.toByteArray)
  appendFile path bytes := attempt do
    let sink ← IO.FS.Handle.mk path .append
    sink.write bytes.toByteArray
  makeDir path := attempt (IO.FS.createDir path)
  isDir path := do
    match ← attempt (IO.FS.Handle.mk (path ++ "/.") .read) with
    | .ok _ => return !path.isEmpty
    | .error _ => return false
  log notice := do
    if (← read).shows notice then
      IO.eprintln notice.text

end Shell

end Bulletin

def main (arguments : List String) : IO UInt32 := do
  let environment ← IO.getEnv Bulletin.sinkVariable
  let exit ←
    match Bulletin.Filter.ofSetting (← IO.getEnv "RUST_LOG") with
    | none => pure Bulletin.Command.Exit.broken
    | some filter =>
      (Bulletin.Command.run (m := Bulletin.Shell) arguments environment).run filter
  IO.print exit.output
  return exit.code.toUInt32
