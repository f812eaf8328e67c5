import Bulletin.FileTree.Access

namespace Bulletin

def Node.find? : Node → Location → Option Node
  | .file bytes, below => if below.isEmpty then some (.file bytes) else none
  | .directory entries, below => Directory.find? entries below

def Node.isLeaf : Node → Bool
  | .file _ => true
  | .directory entries => entries.isEmpty

namespace Directory

def entryOf : Node → Entry
  | .file bytes => .file bytes
  | .directory _ => .directory

/-- What is at a location: a file with its bytes, or a directory whatever it holds. -/
def entryAt? (d : Directory) (location : Location) : Option Entry :=
  (find? d location).map entryOf

def IsFileAt (d : Directory) (location : Location) : Prop :=
  ∃ bytes, entryAt? d location = some (.file bytes)

variable {d : Directory} {location : Location} {bytes : List UInt8}

theorem find?_cons (d : Directory) (name : String) (below : Location) :
    find? d (name :: below) = (d.lookup name).bind (·.find? below) := by
  rw [find?]
  cases d.lookup name with
  | none => rfl
  | some node => cases node <;> rfl

theorem find?_append (d : Directory) (location below : Location) :
    find? d (location ++ below) = (find? d location).bind (·.find? below) := by
  induction location generalizing d with
  | nil => rfl
  | cons name location ih =>
    rw [List.cons_append, find?_cons, find?_cons]
    cases d.lookup name with
    | none => rfl
    | some node =>
      cases node with
      | file bytes => cases location <;> simp [Node.find?]
      | directory entries => exact ih entries

theorem isDirectoryAt_iff : isDirectoryAt d location = true ↔
    ∃ entries, find? d location = some (.directory entries) := by
  rw [isDirectoryAt]
  split <;> simp_all

theorem isDirectoryAt_eq (d : Directory) (location : Location) :
    isDirectoryAt d location = (entryAt? d location matches some .directory) := by
  rw [isDirectoryAt, entryAt?]
  cases find? d location with
  | none => rfl
  | some node => cases node <;> rfl

theorem entryAt?_of_isDirectoryAt (h : isDirectoryAt d location) :
    entryAt? d location = some .directory := by
  obtain ⟨entries, he⟩ := isDirectoryAt_iff.mp h
  rw [entryAt?, he]
  rfl

theorem bytesAt_eq (d : Directory) (location : Location) :
    bytesAt d location = match entryAt? d location with
      | some (.file bytes) => bytes
      | _ => [] := by
  rw [bytesAt, entryAt?]
  cases find? d location with
  | none => rfl
  | some node => cases node <;> rfl

theorem entryAt?_eq_file_iff : entryAt? d location = some (.file bytes) ↔
    find? d location = some (.file bytes) := by
  rw [entryAt?]
  cases find? d location with
  | none => simp
  | some node => cases node <;> simp [entryOf]

theorem bytesAt_of_entryAt? (h : entryAt? d location = some (.file bytes)) :
    bytesAt d location = bytes := by
  rw [bytesAt_eq, h]

theorem isDirectoryAt_of_append {below : Location} (h : isDirectoryAt d (location ++ below)) :
    isDirectoryAt d location := by
  obtain ⟨entries, he⟩ := isDirectoryAt_iff.mp h
  rw [find?_append] at he
  cases hf : find? d location with
  | none => simp [hf] at he
  | some node =>
    cases node with
    | file bytes => simp [hf, Node.find?] at he
    | directory inner => exact isDirectoryAt_iff.mpr ⟨inner, hf⟩

theorem isDirectoryAt_dropLast (h : isDirectoryAt d location) :
    isDirectoryAt d location.dropLast := by
  rcases List.eq_nil_or_concat location with rfl | ⟨parent, name, rfl⟩
  · exact h
  · rw [List.concat_eq_append] at h ⊢
    rw [List.dropLast_concat]
    exact isDirectoryAt_of_append h

end Directory

end Bulletin
