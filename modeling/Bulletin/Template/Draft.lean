import Bulletin.Marker
import Bulletin.Release
import Bulletin.Section
import Bulletin.Text.Blank
import Bulletin.Text.Escape

namespace Bulletin

/-- How far a section has come while a template is read. The lines that belong to it are kept with
the latest first, each without the blanks around it. -/
inductive Slot
  | idle
  | collecting (lines : List (List Char))
  | done (lines : List (List Char))
  deriving DecidableEq, Repr

namespace Slot

def isCollecting : Slot → Bool
  | collecting _ => true
  | _ => false

def lines : Slot → List (List Char)
  | idle => []
  | collecting lines => lines
  | done lines => lines

def close (line : List Char) (lines : List (List Char)) : Slot :=
  if Marker.occursIn line then done lines else collecting lines

/-- Offers a trimmed line to a section. An idle section takes the line that opens it, a collecting
one takes any line, and one that is done takes none. The opening line counts without its marks,
a later line only up to its first mark. -/
def take? (kind : Section) (line : List Char) : Slot → Option Slot
  | idle => (kind.opening? line).map fun rest ↦ close line [Text.trim (Marker.erase rest)]
  | collecting lines =>
    some (close line
      ((if Marker.occursIn line then Text.trim (Marker.before line) else line) :: lines))
  | done _ => none

/-- A description keeps its line ends; the lines of a title or a tag are joined by single blanks. -/
def text (kind : Section) (slot : Slot) : List Char :=
  match kind with
  | .description => slot.lines.reverse.flatMap (· ++ ['\n'])
  | .title | .tag => [' '].intercalate slot.lines.reverse

end Slot

abbrev Draft := PerSection Slot

namespace Draft

def start : Draft :=
  ⟨.idle, .idle, .idle⟩

def isCollecting (d : Draft) : Bool :=
  d.toList.any Slot.isCollecting

def commentMarks : List String :=
  ["#", "//"]

def isComment (line : List Char) : Bool :=
  commentMarks.any (·.toList.isPrefixOf line)

/-- Offers a trimmed line to the sections in order; the first one that takes it is the only one
to change. -/
def offer (d : Draft) (line : List Char) : Draft :=
  let taken := Section.all.findSome? fun kind ↦
    ((d.get kind).take? kind line).map fun slot ↦ d.set kind slot
  taken.getD d

/-- Reads one line. Inside a section every line is text, comments included. -/
def feed (d : Draft) (raw : List Char) : Draft :=
  let line := Text.trim raw
  if !d.isCollecting && isComment line then d else d.offer line

def finish (d : Draft) : Release :=
  .ofFn fun kind ↦ String.ofList (Escape.decodeChars ((d.get kind).text kind))

end Draft

namespace Template

def lines (text : String) : List (List Char) :=
  text.toList.splitOn '\n'

def draft (text : String) : Draft :=
  (lines text).foldl Draft.feed Draft.start

def parse (text : String) : Release :=
  (draft text).finish

def release (text : String) : Release :=
  (parse text).clean

end Template

end Bulletin
