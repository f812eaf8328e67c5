namespace Bulletin.Text

def size : List Char → Nat
  | [] => 0
  | c :: s => c.utf8Size + size s

def dropBytes? (n : Nat) (s : List Char) : Option (List Char) :=
  match n, s with
  | 0, s => some s
  | _, [] => none
  | n, c :: s => if c.utf8Size ≤ n then dropBytes? (n - c.utf8Size) s else none

def takeBytes? (n : Nat) (s : List Char) : Option (List Char) :=
  match n, s with
  | 0, _ => some []
  | _, [] => none
  | n, c :: s => if c.utf8Size ≤ n then (takeBytes? (n - c.utf8Size) s).map (c :: ·) else none

/-- The bytes of a text from a place on, unless they begin or end inside a character. -/
def slice? (s : List Char) (start length : Nat) : Option (List Char) :=
  (dropBytes? start s).bind (takeBytes? length)

@[simp]
theorem size_nil : size [] = 0 :=
  rfl

@[simp]
theorem size_cons (c : Char) (s : List Char) : size (c :: s) = c.utf8Size + size s :=
  rfl

theorem dropBytes?_size_append (s t : List Char) : dropBytes? (size s) (s ++ t) = some t := by
  induction s with
  | nil => simp [dropBytes?]
  | cons c s ih =>
    have hc := c.utf8Size_pos
    rw [List.cons_append, dropBytes?, if_pos (by simp), size_cons, Nat.add_sub_cancel_left, ih]
    simp only [size_cons]
    omega

theorem takeBytes?_size_append (s t : List Char) : takeBytes? (size s) (s ++ t) = some s := by
  induction s with
  | nil => simp [takeBytes?]
  | cons c s ih =>
    have hc := c.utf8Size_pos
    rw [List.cons_append, takeBytes?, if_pos (by simp), size_cons, Nat.add_sub_cancel_left, ih]
    · rfl
    · simp only [size_cons]
      omega

theorem slice?_append (s t u : List Char) : slice? (s ++ (t ++ u)) (size s) (size t) = some t := by
  rw [slice?, dropBytes?_size_append]
  exact takeBytes?_size_append t u

end Bulletin.Text
