import Bulletin.FileTree.Basic
import Bulletin.FileTree.Error
import Bulletin.FileTree.Path

namespace Bulletin

/-- What a path leads to inside a file tree, before it is known whether anything is there. -/
inductive Place
  /-- An existing directory, which the path reaches by a dot, two dots or the root. -/
  | directory (location : Location)
  /-- A name in an existing directory. The slash tells whether one follows the name. -/
  | entry (parent : Location) (name : String) (slash : Bool)

def maxNameBytes : Nat :=
  255

def maxPathBytes : Nat :=
  4095

def isTooLong (name : String) : Bool :=
  maxNameBytes < name.utf8ByteSize

namespace Directory

/-- Goes down through directories from a location. Two dots go up, but never above the top. -/
def walk (d : Directory) (here : Location) : List String → Except FileError Location
  | [] => .ok here
  | segment :: segments =>
    if Path.isIdle segment then walk d here segments
    else if segment = ".." then walk d here.dropLast segments
    else if isTooLong segment then .error .nameTooLong
    else
      match find? d (here ++ [segment]) with
      | none => .error .notFound
      | some (.file _) => .error .notDirectory
      | some (.directory _) => walk d (here ++ [segment]) segments

/-- Resolves all of a path but its last name. A path that cannot be one is not looked for. -/
def locate (d : Directory) (path : String) : Except FileError Place :=
  let segments := Path.segments path
  let named := segments.filter (!·.isEmpty)
  if path.toList.contains '\x00' then .error .nulInName
  else if path.isEmpty then .error .notFound
  else if maxPathBytes < path.utf8ByteSize then .error .nameTooLong
  else
    match named.getLast? with
    | none => .ok (.directory [])
    | some last => do
      let here ← walk d [] named.dropLast
      if last = "." then .ok (.directory here)
      else if last = ".." then .ok (.directory here.dropLast)
      else .ok (.entry here last (segments.getLast? = some ""))

def isDir (d : Directory) (path : String) : Bool :=
  match locate d path with
  | .error _ => false
  | .ok (.directory _) => true
  | .ok (.entry parent name _) => !isTooLong name && isDirectoryAt d (parent ++ [name])

def read (d : Directory) (path : String) : Except FileError (List UInt8) := do
  match ← locate d path with
  | .directory _ => .error .isDirectory
  | .entry parent name slash =>
    if isTooLong name then .error .nameTooLong
    else
      match find? d (parent ++ [name]) with
      | none => .error .notFound
      | some (.directory _) => .error .isDirectory
      | some (.file bytes) => if slash then .error .notDirectory else .ok bytes

def target (d : Directory) (path : String) : Except FileError Location := do
  match ← locate d path with
  | .directory _ => .error .isDirectory
  | .entry parent name slash =>
    if slash then .error .isDirectory
    else if isTooLong name then .error .nameTooLong
    else if isDirectoryAt d (parent ++ [name]) then .error .isDirectory
    else .ok (parent ++ [name])

def bytesAt (d : Directory) (location : Location) : List UInt8 :=
  match find? d location with
  | some (.file bytes) => bytes
  | _ => []

def write (d : Directory) (path : String) (bytes : List UInt8) : Except FileError Directory := do
  let location ← target d path
  .ok (put d (.file bytes) location)

def append (d : Directory) (path : String) (bytes : List UInt8) : Except FileError Directory := do
  let location ← target d path
  .ok (put d (.file (bytesAt d location ++ bytes)) location)

def makeDir (d : Directory) (path : String) : Except FileError Directory := do
  match ← locate d path with
  | .directory _ => .error .alreadyExists
  | .entry parent name _ =>
    if isTooLong name then .error .nameTooLong
    else if (find? d (parent ++ [name])).isSome then .error .alreadyExists
    else .ok (put d (.directory []) (parent ++ [name]))

def clear (d : Directory) (location : Location) : Directory :=
  if location.isEmpty then [] else put d (.directory []) location

/-- Removes a directory by its path when nothing is left in it. A path that led through what was in
the directory leads nowhere now and leaves it, and one that ends with dots is no name for it. -/
def removeCleared (d : Directory) (path : String) : Directory × Except FileError Unit :=
  match locate d path with
  | .error .notFound => (d, .ok ())
  | .error error => (d, .error error)
  | .ok (.directory _) => (d, .error .invalidArgument)
  | .ok (.entry parent name _) => (erase d (parent ++ [name]), .ok ())

def remove (d : Directory) (path : String) : Directory × Except FileError Unit :=
  match locate d path with
  | .error error => (d, .error error)
  | .ok (.directory location) => removeCleared (clear d location) path
  | .ok (.entry parent name slash) =>
    if isTooLong name then (d, .error .nameTooLong)
    else
      match find? d (parent ++ [name]) with
      | none => (d, .error .notFound)
      | some (.directory _) => removeCleared (clear d (parent ++ [name])) path
      | some (.file _) =>
        if slash then (d, .error .notDirectory) else (erase d (parent ++ [name]), .ok ())

inductive Entry
  | directory
  | file (bytes : List UInt8)

mutual

def listNode (path : String) : Node → List (String × Entry)
  | .file bytes => [(path, .file bytes)]
  | .directory entries => (path, .directory) :: listEntries (path ++ "/") entries

def listEntries (start : String) : List (String × Node) → List (String × Entry)
  | [] => []
  | (name, node) :: entries => listNode (start ++ name) node ++ listEntries start entries

end

def list (d : Directory) : List (String × Entry) :=
  listEntries "" d

end Directory

end Bulletin
