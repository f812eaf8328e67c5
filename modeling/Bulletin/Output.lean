import Bulletin.Release
import Bulletin.Text.Base64
import Bulletin.Text.Utf8

namespace Bulletin

/-- What a pipeline is told about a release. The description is in base64 because it may have
several lines. -/
structure Output where
  title : String
  descriptionBase64 : String
  tag : String
  deriving DecidableEq, Repr

namespace Output

def ofRelease (r : Release) : Output where
  title := Text.trimmed r.title
  descriptionBase64 := String.ofList (Base64.encode (Utf8.encode r.description))
  tag := Text.trimmed r.tag

def lines (o : Output) : List String :=
  ["release_title=" ++ o.title,
    "release_description_b64=" ++ o.descriptionBase64,
    "release_tag=" ++ o.tag]

def text (o : Output) : String :=
  String.join (o.lines.map (· ++ "\n"))

end Output

end Bulletin
