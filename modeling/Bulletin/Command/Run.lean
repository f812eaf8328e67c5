import Bulletin.Command.Line
import Bulletin.Compose
import Bulletin.Emit

namespace Bulletin.Command

open Workspace

variable {m : Type → Type} [Monad m] [Workspace m]

def programName : String :=
  "release-notes-cli"

def version : String :=
  "1.0.0"

structure Exit where
  code : Nat
  output : String
  deriving DecidableEq, Repr

namespace Exit

def success : Exit :=
  ⟨0, ""⟩

def failure : Exit :=
  ⟨1, ""⟩

/-- The program breaks off before it has looked at its arguments. -/
def broken : Exit :=
  ⟨101, ""⟩

def ofStop : Stop → Exit
  | .usage => ⟨2, ""⟩
  | .help => success
  | .version => ⟨0, programName ++ " " ++ version ++ "\n"⟩

end Exit

def perform : Request → m Exit
  | .compose root context => do
    match ← compose ⟨root⟩ context with
    | .ok _ => return .success
    | .error error =>
      log (.composeFailed error)
      return .failure
  | .emit root artifact sink => do
    match ← emit (artifact.getD (Layout.mk root).artifact) sink with
    | .ok _ => return .success
    | .error error =>
      log (.emitFailed error)
      return .failure

def run (arguments : List String) (environment : Option String) : m Exit :=
  match Request.read arguments environment with
  | .error stop => return .ofStop stop
  | .ok request => perform request

end Bulletin.Command
