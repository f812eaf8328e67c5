namespace Bulletin.Path

def segments (path : String) : List String :=
  (path.toList.splitOn '/').map String.ofList

/-- A name below a path. A path that is empty or ends in a slash needs no further slash. -/
def join (path name : String) : String :=
  if path.isEmpty || path.toList.getLast? = some '/' then path ++ name
  else path ++ "/" ++ name

def isIdle (segment : String) : Bool :=
  segment.isEmpty || segment == "."

def withoutIdleEnd (segments : List String) : List String :=
  (segments.reverse.dropWhile isIdle).reverse

def slashed (segments : List String) : String :=
  String.intercalate "/" segments

/-- The path without its last part, taken by its text alone. A dot counts as a part only where a
relative path begins with it. The empty path and the root have no parent. -/
def parent? (path : String) : Option String :=
  match segments path with
  | [] => none
  | first :: others =>
    let named := withoutIdleEnd others
    let above := withoutIdleEnd named.dropLast
    if path.isEmpty then none
    else if first.isEmpty then
      if named.isEmpty then none else some ("/" ++ slashed above)
    else if named.isEmpty then some ""
    else some (slashed (first :: above))

def ancestorsUpTo : Nat → String → List String
  | 0, path => [path]
  | n + 1, path =>
    path :: match parent? path with
      | none => []
      | some parent => ancestorsUpTo n parent

def ancestors (path : String) : List String :=
  ancestorsUpTo path.length path

end Bulletin.Path
