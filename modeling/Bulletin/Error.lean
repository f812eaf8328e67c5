import Bulletin.FileTree.Error
import Bulletin.Json.Fault

namespace Bulletin

inductive ArtifactError
  | missing (path : String)
  | missingDirectory (path : String)
  | inaccessible (path : String) (error : FileError)
  | malformed (error : Json.Error)
  deriving DecidableEq, Repr

def ArtifactError.message : ArtifactError → String
  | missing path => "Artifact not found: " ++ path
  | missingDirectory path => "Artifact directory does not exist: " ++ path
  | inaccessible path error => "Failed to access artifact " ++ path ++ ": " ++ error.message
  | malformed error => "Serialization error: " ++ error.message

inductive ComposeError
  | noDirectory (path : String) (error : FileError)
  deriving DecidableEq, Repr

def ComposeError.message : ComposeError → String
  | noDirectory path error => "Failed to create " ++ path ++ ": " ++ error.message

inductive EmitError
  | artifact (error : ArtifactError)
  | sink (path : String) (error : FileError)
  deriving DecidableEq, Repr

def EmitError.message : EmitError → String
  | artifact error => error.message
  | sink path error => "Failed to write output sink " ++ path ++ ": " ++ error.message

end Bulletin
