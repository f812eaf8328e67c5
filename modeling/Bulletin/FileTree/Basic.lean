namespace Bulletin

inductive Node
  | file (bytes : List UInt8)
  | directory (entries : List (String × Node))

abbrev Directory := List (String × Node)

/-- The way from a directory to a node, as the names on it. -/
abbrev Location := List String

namespace Directory

/-- The directory with another node for a name: in place of the one it has, or else at its end. -/
def set (name : String) (node : Node) : Directory → Directory
  | [] => [(name, node)]
  | (other, old) :: d =>
    if other = name then (name, node) :: d else (other, old) :: set name node d

def find? (d : Directory) : Location → Option Node
  | [] => some (.directory d)
  | name :: below =>
    match d.lookup name with
    | none => none
    | some (.file bytes) => if below.isEmpty then some (.file bytes) else none
    | some (.directory inner) => find? inner below

def isDirectoryAt (d : Directory) (location : Location) : Bool :=
  match find? d location with
  | some (.directory _) => true
  | _ => false

/-- The directory under a name, which is empty if the name stands for anything else. -/
def inner (d : Directory) (name : String) : Directory :=
  match d.lookup name with
  | some (.directory entries) => entries
  | _ => []

def put (d : Directory) (node : Node) : Location → Directory
  | [] => d
  | [name] => set name node d
  | name :: below => set name (.directory (put (inner d name) node below)) d

def erase (d : Directory) : Location → Directory
  | [] => d
  | [name] => d.filter (·.1 ≠ name)
  | name :: below => set name (.directory (erase (inner d name) below)) d

theorem lookup_set_self (name : String) (node : Node) (d : Directory) :
    (set name node d).lookup name = some node := by
  induction d with
  | nil => simp [set]
  | cons entry d ih =>
    obtain ⟨other, old⟩ := entry
    by_cases h : other = name
    · simp [set, h]
    · simp [set, h, List.lookup_cons, beq_eq_false_iff_ne.mpr (Ne.symm h), ih]

theorem lookup_set_of_ne {name name' : String} (h : name' ≠ name) (node : Node) (d : Directory) :
    (set name node d).lookup name' = d.lookup name' := by
  have hb : (name' == name) = false := beq_eq_false_iff_ne.mpr h
  induction d with
  | nil => simp [set, h]
  | cons entry d ih =>
    obtain ⟨other, old⟩ := entry
    by_cases ho : other = name
    · simp [set, ho, List.lookup_cons, hb]
    · simp [set, ho, List.lookup_cons, ih]

end Directory

end Bulletin
