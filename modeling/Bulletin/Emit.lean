import Bulletin.Artifact.Store
import Bulletin.Output

namespace Bulletin

open Workspace

variable {m : Type → Type} [Monad m] [Workspace m]

def sinkVariable : String :=
  "GITHUB_OUTPUT"

def Output.appendTo (o : Output) (sink : String) : m (Except EmitError Unit) := do
  return (← appendFile sink (Utf8.encode o.text)).mapError (.sink sink)

def emit (artifact sink : String) : m (Except EmitError Output) := do
  match ← Artifact.load artifact with
  | .error error => return .error (.artifact error)
  | .ok r =>
    let output := Output.ofRelease r
    match ← output.appendTo sink with
    | .error error => return .error error
    | .ok () =>
      log (.outputsEmitted sink output.tag)
      return .ok output

end Bulletin
