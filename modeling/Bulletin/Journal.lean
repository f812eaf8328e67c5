import Bulletin.Error

namespace Bulletin

inductive Level
  | error
  | warn
  | info
  | debug
  | trace
  deriving DecidableEq, Repr

namespace Level

def all : List Level :=
  [error, warn, info, debug, trace]

/-- The place of a level among all levels; a smaller one is graver. -/
def rank : Level → Nat
  | error => 0
  | warn => 1
  | info => 2
  | debug => 3
  | trace => 4

def name : Level → String
  | error => "ERROR"
  | warn => "WARN"
  | info => "INFO"
  | debug => "DEBUG"
  | trace => "TRACE"

def ofName? (name : String) : Option Level :=
  all.find? (·.name.toLower = name.toLower)

end Level

inductive Notice
  | templateAbsent (path : String)
  | templateParsed (title tag : String)
  | templateUnusable
  | templateUnwritable (path : String) (error : FileError)
  | inputUnreadable (path : String) (error : FileError)
  | companionAbsent
  | artifactWritten (path : String)
  | artifactDirectoryAbsent (path directory : String)
  | artifactUnwritable (path : String) (error : ArtifactError)
  | latin1Assumed (path : String)
  | outputsEmitted (sink tag : String)
  | composeFailed (error : ComposeError)
  | emitFailed (error : EmitError)
  deriving DecidableEq, Repr

namespace Notice

def level : Notice → Level
  | templateAbsent _ | templateUnusable | latin1Assumed _ => .warn
  | templateParsed .. => .debug
  | artifactWritten _ | outputsEmitted .. => .info
  | templateUnwritable .. | inputUnreadable .. | companionAbsent | artifactDirectoryAbsent ..
  | artifactUnwritable .. | composeFailed _ | emitFailed _ => .error

def target : Notice → String
  | latin1Assumed _ => "release_notes::sources"
  | outputsEmitted .. => "release_notes::emitter"
  | composeFailed _ | emitFailed _ => "release_notes_cli"
  | _ => "release_notes::composer"

def message : Notice → String
  | templateAbsent _ => "template not found, creating default"
  | templateParsed .. => "parsed template"
  | templateUnusable => "no valid sections in template, using default"
  | templateUnwritable .. => "failed to write default template"
  | inputUnreadable .. => "failed to read input file"
  | companionAbsent => "failed to read README.md or CHANGELOG.md; it is missing or unreadable"
  | artifactWritten _ => "wrote release artifact"
  | artifactDirectoryAbsent .. => "failed to write artifact, directory does not exist"
  | artifactUnwritable .. => "failed to write artifact"
  | latin1Assumed _ => "failed to decode as UTF-8, falling back to Latin-1"
  | outputsEmitted .. => "emitted release outputs"
  | composeFailed _ => "compose failed"
  | emitFailed _ => "emit failed"

def fields : Notice → List (String × String)
  | templateAbsent path => [("path", path)]
  | templateParsed title tag => [("title", title), ("tag", tag)]
  | templateUnusable => []
  | templateUnwritable path error => [("path", path), ("error", error.message)]
  | inputUnreadable path error => [("path", path), ("error", error.message)]
  | companionAbsent => []
  | artifactWritten path => [("path", path)]
  | artifactDirectoryAbsent path directory => [("path", path), ("dir", directory)]
  | artifactUnwritable path error => [("path", path), ("error", error.message)]
  | latin1Assumed path => [("path", path)]
  | outputsEmitted sink tag => [("sink", sink), ("tag", tag)]
  | composeFailed error => [("error", error.message)]
  | emitFailed error => [("error", error.message)]

def fieldNames (n : Notice) : List String :=
  "message" :: n.fields.map (·.1)

def text (n : Notice) : String :=
  n.level.name ++ " " ++ n.target ++ ": " ++ n.message ++
    String.join (n.fields.map fun (name, value) ↦ " " ++ name ++ "=" ++ value)

/-- The first line of a notice's text, without the line break that ends it. -/
def headline (n : Notice) : String :=
  let line := n.text.toList.takeWhile (· ≠ '\n')
  String.ofList (if line.getLast? = some '\r' then line.dropLast else line)

end Notice

end Bulletin
