import Bulletin.Marker
import Bulletin.Section
import Bulletin.Text.Blank

namespace Bulletin

abbrev Release := PerSection String

namespace Release

def empty : Release :=
  ⟨"", "", ""⟩

def isComplete (r : Release) : Bool :=
  r.toList.all (!·.isEmpty)

/-- A section's text as it is announced: without end marks, and trimmed after they have gone. -/
def cleanText (s : String) : String :=
  String.ofList (Text.trim (Marker.erase s.toList))

def clean (r : Release) : Release :=
  r.map cleanText

def toTemplate (r : Release) : String :=
  String.join (Section.all.map fun kind ↦
    kind.token ++ " " ++ r.get kind ++ Marker.text ++ "\n")

end Release

end Bulletin
