import Bulletin.Text.Utf8
import Bulletin.Workspace

namespace Bulletin.Source

open Workspace

variable {m : Type → Type} [Monad m] [Workspace m]

/-- The text of a file, or nothing if there is no such file. Bytes that are not UTF-8 are taken for
Latin-1, in which every byte is a character. -/
def read (path : String) : m (Except FileError (Option String)) := do
  match ← readFile path with
  | .error .notFound => return .ok none
  | .error error => return .error error
  | .ok bytes =>
    match Utf8.decode? bytes with
    | some text => return .ok (some text)
    | none =>
      log (.latin1Assumed path)
      return .ok (some (Utf8.latin1 bytes))

def readOrAbsent (path : String) : m (Option String) := do
  match ← read path with
  | .ok text => return text
  | .error error =>
    log (.inputUnreadable path error)
    return none

end Bulletin.Source
