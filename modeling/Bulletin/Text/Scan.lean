namespace Bulletin.Text

/-- A rule looks at a character and the text after it. It declines, or it gives a value and the
number of further characters that the value stands for. -/
abbrev Rule (β : Type) := Char → List Char → Option (β × Nat)

inductive Piece (β : Type)
  | plain (c : Char)
  | found (value : β)
  deriving DecidableEq

variable {β γ : Type}

def Piece.plain? : Piece β → Option Char
  | .plain c => some c
  | .found _ => none

def Piece.isFound : Piece β → Bool
  | .plain _ => false
  | .found _ => true

def Piece.text (value : β → List Char) : Piece β → List Char
  | .plain c => [c]
  | .found b => value b

/-- Scans onwards with `done` behind it, the latest piece first, and `covered` characters still
belonging to the last value found. -/
def scanFrom (rule : Rule β) (done : List (Piece β)) : Nat → List Char → List (Piece β)
  | _, [] => done.reverse
  | covered + 1, _ :: s => scanFrom rule done covered s
  | 0, c :: s =>
    match rule c s with
    | some (b, covered) => scanFrom rule (.found b :: done) covered s
    | none => scanFrom rule (.plain c :: done) 0 s

/-- The pieces of a text under a rule, from left to right. A character that a value stands for is
never looked at again. -/
def scan (rule : Rule β) (s : List Char) : List (Piece β) :=
  scanFrom rule [] 0 s

def render (value : β → List Char) (pieces : List (Piece β)) : List Char :=
  pieces.flatMap (Piece.text value)

theorem scanFrom_eq_append (rule : Rule β) (done : List (Piece β)) (covered : Nat)
    (s : List Char) :
    scanFrom rule done covered s = done.reverse ++ scanFrom rule [] covered s := by
  induction s generalizing done covered with
  | nil => cases covered <;> simp [scanFrom]
  | cons c s ih =>
    cases covered with
    | succ covered => exact ih done covered
    | zero =>
      cases h : rule c s with
      | none =>
        simp only [scanFrom, h]
        rw [ih (.plain c :: done), ih [.plain c]]
        simp
      | some found =>
        simp only [scanFrom, h]
        rw [ih (.found found.1 :: done), ih [.found found.1]]
        simp

theorem scanFrom_eq_scan_drop (rule : Rule β) (covered : Nat) (s : List Char) :
    scanFrom rule [] covered s = scan rule (s.drop covered) := by
  induction s generalizing covered with
  | nil => cases covered <;> rfl
  | cons c s ih =>
    cases covered with
    | zero => rfl
    | succ covered => exact ih covered

@[simp]
theorem scan_nil (rule : Rule β) : scan rule [] = [] :=
  rfl

theorem scan_cons_of_eq_none {rule : Rule β} {c : Char} {s : List Char} (h : rule c s = none) :
    scan rule (c :: s) = .plain c :: scan rule s := by
  simp only [scan, scanFrom, h]
  exact scanFrom_eq_append rule [.plain c] 0 s

theorem scan_cons_of_eq_some {rule : Rule β} {c : Char} {s : List Char} {b : β} {covered : Nat}
    (h : rule c s = some (b, covered)) :
    scan rule (c :: s) = .found b :: scan rule (s.drop covered) := by
  rw [← scanFrom_eq_scan_drop]
  simp only [scan, scanFrom, h]
  exact scanFrom_eq_append rule [.found b] covered s

@[simp]
theorem render_nil (value : β → List Char) : render value [] = [] :=
  rfl

@[simp]
theorem render_plain (value : β → List Char) (c : Char) (pieces : List (Piece β)) :
    render value (.plain c :: pieces) = c :: render value pieces :=
  rfl

@[simp]
theorem render_found (value : β → List Char) (b : β) (pieces : List (Piece β)) :
    render value (.found b :: pieces) = value b ++ render value pieces :=
  rfl

end Bulletin.Text
