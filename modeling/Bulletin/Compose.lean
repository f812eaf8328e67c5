import Bulletin.Artifact.Store
import Bulletin.Layout
import Bulletin.Placeholder
import Bulletin.Source
import Bulletin.Template.Default

namespace Bulletin

open Workspace

variable {m : Type → Type} [Monad m] [Workspace m]

namespace Template

def writeDefault (path : String) : m (Except FileError Unit) :=
  writeFile path (Utf8.encode default)

def restoreDefault (path : String) : m Unit := do
  match ← writeDefault path with
  | .ok () => return ()
  | .error error => log (.templateUnwritable path error)

def usable (text : Option String) : Option String :=
  text.filter fun text ↦ !Text.isAllBlank text

/-- The text of a template file. One that is absent or blank is replaced by the default one before
it is read. -/
def fetch (path : String) : m String := do
  match usable (← Source.readOrAbsent path) with
  | some text => return text
  | none =>
    log (.templateAbsent path)
    restoreDefault path
    return default

/-- The release that a template file announces, and whether the default release had to stand in for
it. -/
def load (path : String) : m (Release × Bool) := do
  let r := release (← fetch path)
  if r.isComplete then
    log (.templateParsed r.title r.tag)
    return (r, false)
  else
    log .templateUnusable
    restoreDefault path
    return (defaultRelease, true)

end Template

structure Composition where
  release : Release
  usedDefault : Bool
  isStored : Bool
  deriving DecidableEq, Repr

/-- Composes the release of a repository and stores it. Only a directory for it that cannot be
created is an error; whatever else is missing has a substitute. -/
def compose (layout : Layout) (context : Context) : m (Except ComposeError Composition) := do
  match ← makeDirs layout.artifactDirectory with
  | .error error => return .error (.noDirectory layout.artifactDirectory error)
  | .ok () =>
    let (template, usedDefault) ← Template.load layout.template
    let readme ← Source.readOrAbsent layout.readme
    let changelog ← Source.readOrAbsent layout.changelog
    if readme.isNone || changelog.isNone then
      log .companionAbsent
    let values : Values := { context, readme, changelog }
    let release := values.applyRelease template
    let isStored ← Artifact.persist release layout.artifact
    return .ok { release, usedDefault, isStored }

end Bulletin
