import Bulletin.FileTree.Path

namespace Bulletin

structure Layout where
  root : String
  deriving DecidableEq, Repr

namespace Layout

def templateName : String :=
  "compressor.settings.txt"

def readmeName : String :=
  "README.md"

def changelogName : String :=
  "CHANGELOG.md"

def artifactDirectoryName : String :=
  "temp"

def artifactName : String :=
  "schema.json"

def current : Layout :=
  ⟨"."⟩

def template (l : Layout) : String :=
  Path.join l.root templateName

def readme (l : Layout) : String :=
  Path.join l.root readmeName

def changelog (l : Layout) : String :=
  Path.join l.root changelogName

def artifactDirectory (l : Layout) : String :=
  Path.join l.root artifactDirectoryName

def artifact (l : Layout) : String :=
  Path.join l.artifactDirectory artifactName

end Layout

end Bulletin
