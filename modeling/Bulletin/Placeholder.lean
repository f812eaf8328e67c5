import Bulletin.Release
import Bulletin.Text.Blank
import Bulletin.Text.Scan

namespace Bulletin

structure Context where
  commitHash : String
  repoName : String
  contributorsSince : String
  whatsChangedUrl : String
  deriving DecidableEq, Repr

inductive Placeholder
  | commitHash
  | repoName
  | contributorsSince
  | whatsChangedUrl
  | readme
  | changelog
  deriving DecidableEq, Repr

namespace Placeholder

def all : List Placeholder :=
  [commitHash, repoName, contributorsSince, whatsChangedUrl, readme, changelog]

def name : Placeholder → String
  | commitHash => "COMMIT_HASH"
  | repoName => "REPO_NAME"
  | contributorsSince => "CONTRIBUTORS_SINCE"
  | whatsChangedUrl => "WHATS_CHANGED_URL"
  | readme => "README_MD"
  | changelog => "CHANGELOG_MD"

def chars (p : Placeholder) : List Char :=
  p.name.toList

def ofName? (name : String) : Option Placeholder :=
  all.find? (·.name = name)

/-- The inside of a token after its dollar sign: a name in braces, with blanks around it or not. -/
def braced? : List Char → Option (Placeholder × Nat)
  | '{' :: s =>
    let named := s.dropWhile Text.isBlank
    match all.find? (·.chars.isPrefixOf named) with
    | none => none
    | some p =>
      let after := named.drop p.chars.length
      match after.dropWhile Text.isBlank with
      | '}' :: _ =>
        some (p, 1 + (s.takeWhile Text.isBlank).length + p.chars.length +
          (after.takeWhile Text.isBlank).length + 1)
      | _ => none
  | _ => none

def rule : Text.Rule Placeholder := fun c s ↦
  if c = '$' then braced? s else none

theorem mem_all (p : Placeholder) : p ∈ all := by
  cases p <;> simp [all]

end Placeholder

structure Values where
  context : Context
  readme : Option String
  changelog : Option String
  deriving DecidableEq, Repr

namespace Values

def readmeFallback : String :=
  "README.md file not found."

def changelogFallback : String :=
  "CHANGELOG.md file not found."

def orFallback (fallback : String) (text : Option String) : String :=
  (text.filter (!·.isEmpty)).getD fallback

def get (v : Values) : Placeholder → String
  | .commitHash => v.context.commitHash
  | .repoName => v.context.repoName
  | .contributorsSince => v.context.contributorsSince
  | .whatsChangedUrl => v.context.whatsChangedUrl
  | .readme => orFallback readmeFallback v.readme
  | .changelog => orFallback changelogFallback v.changelog

/-- Puts each placeholder's text in its place. Text that was put in is not searched again. -/
def apply (v : Values) (text : String) : String :=
  String.ofList (Text.render (fun p ↦ (v.get p).toList) (Text.scan Placeholder.rule text.toList))

def applyRelease (v : Values) (r : Release) : Release :=
  r.map v.apply

@[simp]
theorem toList_apply (v : Values) (text : String) :
    (v.apply text).toList =
      Text.render (fun p ↦ (v.get p).toList) (Text.scan Placeholder.rule text.toList) :=
  String.toList_ofList

end Values

end Bulletin
