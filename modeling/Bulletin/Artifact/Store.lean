import Bulletin.Artifact
import Bulletin.Workspace

namespace Bulletin.Artifact

open Workspace

variable {m : Type → Type} [Monad m] [Workspace m]

def directory? (path : String) : Option String :=
  (Path.parent? path).filter (!·.isEmpty)

def missingDirectory? (path : String) : m (Option String) := do
  match directory? path with
  | none => return none
  | some directory => return if ← isDir directory then none else some directory

/-- Stores a release in a file. The directory of the file has to exist. -/
def save (r : Release) (path : String) : m (Except ArtifactError Unit) := do
  match ← missingDirectory? path with
  | some directory => return .error (.missingDirectory directory)
  | none => return (← writeFile path (encode r)).mapError (.inaccessible path)

def load (path : String) : m (Except ArtifactError Release) := do
  match ← readFile path with
  | .error .notFound => return .error (.missing path)
  | .error error => return .error (.inaccessible path error)
  | .ok bytes => return (decode bytes).mapError .malformed

/-- Stores a release and reports how that went, which is also whether it was stored. -/
def persist (r : Release) (path : String) : m Bool := do
  match ← save r path with
  | .ok () =>
    log (.artifactWritten path)
    return true
  | .error (.missingDirectory directory) =>
    log (.artifactDirectoryAbsent path directory)
    return false
  | .error error =>
    log (.artifactUnwritable path error)
    return false

end Bulletin.Artifact
