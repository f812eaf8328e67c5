import Bulletin.FileTree.Access
import Bulletin.Journal

namespace Bulletin

/-- What the program needs of its surroundings: access to files by path, and a journal. -/
class Workspace (m : Type → Type) where
  readFile (path : String) : m (Except FileError (List UInt8))
  writeFile (path : String) (bytes : List UInt8) : m (Except FileError Unit)
  appendFile (path : String) (bytes : List UInt8) : m (Except FileError Unit)
  makeDir (path : String) : m (Except FileError Unit)
  isDir (path : String) : m Bool
  log (notice : Notice) : m Unit

namespace Workspace

variable {m : Type → Type} [Monad m] [Workspace m]

/-- Creates the first of some directories, each of which lies in the one after it. The ones it lies
in are created only where they are missing, and a directory that exists is as good as a new one. -/
def makeDirsFrom : List String → m (Except FileError Unit)
  | [] => return .error .notFound
  | path :: ancestors =>
    if path.isEmpty then return .ok ()
    else do
      match ← makeDir path with
      | .ok () => return .ok ()
      | .error .notFound =>
        match ← makeDirsFrom ancestors with
        | .error error => return .error error
        | .ok () => settle path (← makeDir path)
      | .error error => settle path (.error error)
where
  settle (path : String) : Except FileError Unit → m (Except FileError Unit)
    | .ok () => return .ok ()
    | .error error => return if ← isDir path then .ok () else .error error

def makeDirs (path : String) : m (Except FileError Unit) :=
  makeDirsFrom (Path.ancestors path)

end Workspace

structure World where
  files : Directory
  journal : List Notice

def World.empty : World :=
  ⟨[], []⟩

/-- A workspace that is a value: every access takes a world to the next one. -/
abbrev Sandbox := StateM World

namespace Sandbox

def change (f : Directory → Except FileError Directory) : Sandbox (Except FileError Unit) :=
  fun w ↦
    match f w.files with
    | .ok files => (.ok (), { w with files })
    | .error error => (.error error, w)

def remove (path : String) : Sandbox (Except FileError Unit) :=
  fun w ↦
    let (files, outcome) := w.files.remove path
    (outcome, { w with files })

instance : Workspace Sandbox where
  readFile path := fun w ↦ (w.files.read path, w)
  writeFile path bytes := change (·.write path bytes)
  appendFile path bytes := change (·.append path bytes)
  makeDir path := change (·.makeDir path)
  isDir path := fun w ↦ (w.files.isDir path, w)
  log notice := fun w ↦ ((), { w with journal := w.journal ++ [notice] })

theorem run_change_of_ok {f : Directory → Except FileError Directory} {w : World}
    {files : Directory} (h : f w.files = .ok files) :
    StateT.run (change f) w = pure (.ok (), { w with files }) := by
  simp only [StateT.run, change, h]
  rfl

theorem run_change_of_error {f : Directory → Except FileError Directory} {w : World}
    {error : FileError} (h : f w.files = .error error) :
    StateT.run (change f) w = pure (.error error, w) := by
  simp only [StateT.run, change, h]
  rfl

variable {path : String} {bytes : List UInt8} {w : World}

@[simp]
theorem run_readFile :
    StateT.run (Workspace.readFile path : Sandbox _) w = pure (w.files.read path, w) :=
  rfl

@[simp]
theorem run_isDir :
    StateT.run (Workspace.isDir path : Sandbox _) w = pure (w.files.isDir path, w) :=
  rfl

@[simp]
theorem run_log (notice : Notice) :
    StateT.run (Workspace.log notice : Sandbox _) w =
      pure ((), { w with journal := w.journal ++ [notice] }) :=
  rfl

theorem run_writeFile_of_ok {files : Directory} (h : w.files.write path bytes = .ok files) :
    StateT.run (Workspace.writeFile path bytes : Sandbox _) w = pure (.ok (), { w with files }) :=
  run_change_of_ok h

theorem run_writeFile_of_error {error : FileError} (h : w.files.write path bytes = .error error) :
    StateT.run (Workspace.writeFile path bytes : Sandbox _) w = pure (.error error, w) :=
  run_change_of_error h

theorem run_appendFile_of_ok {files : Directory} (h : w.files.append path bytes = .ok files) :
    StateT.run (Workspace.appendFile path bytes : Sandbox _) w = pure (.ok (), { w with files }) :=
  run_change_of_ok h

theorem run_appendFile_of_error {error : FileError}
    (h : w.files.append path bytes = .error error) :
    StateT.run (Workspace.appendFile path bytes : Sandbox _) w = pure (.error error, w) :=
  run_change_of_error h

theorem run_makeDir_of_ok {files : Directory} (h : w.files.makeDir path = .ok files) :
    StateT.run (Workspace.makeDir path : Sandbox _) w = pure (.ok (), { w with files }) :=
  run_change_of_ok h

theorem run_makeDir_of_error {error : FileError} (h : w.files.makeDir path = .error error) :
    StateT.run (Workspace.makeDir path : Sandbox _) w = pure (.error error, w) :=
  run_change_of_error h

end Sandbox

end Bulletin
