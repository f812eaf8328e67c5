import Bulletin.Json.Structure

namespace Bulletin.Json

/-- A pass over a value: in front of it, behind a bracket that has just been opened, behind an item,
or behind the whole value; with the brackets that are open, the innermost first, and what is left of
the text. Nothing limits how many brackets may be open. -/
inductive Pass
  | value (brackets : List Bracket) (s : List UInt8)
  | opened (bracket : Bracket) (outer : List Bracket) (s : List UInt8)
  | item (bracket : Bracket) (outer : List Bracket) (s : List UInt8)
  | finished (rest : List UInt8)

namespace Pass

def leave (brackets : List Bracket) (s : List UInt8) : Pass :=
  match brackets with
  | [] => .finished s
  | bracket :: outer => .item bracket outer s

def enter (bracket : Bracket) (outer : List Bracket) (s : List UInt8) : Except Fault Pass :=
  match bracket with
  | .list => .ok (.value (.list :: outer) s)
  | .object => (skipKey s).map (.value (.object :: outer))

def step : Pass → Except Fault Pass
  | .value brackets s =>
    match (skipSpace s).head?.bind Bracket.ofOpener? with
    | some bracket => .ok (.opened bracket brackets ((skipSpace s).drop 1))
    | none => (skipScalar (skipSpace s)).map (leave brackets)
  | .opened bracket outer s =>
    match skipSpace s with
    | [] => .error (.next bracket.atEnd [])
    | b :: rest =>
      if b = bracket.closer then .ok (leave outer rest)
      else enter bracket outer (b :: rest)
  | .item bracket outer s =>
    match skipSpace s with
    | [] => .error (.next bracket.atEnd [])
    | b :: rest =>
      if b = bracket.closer then .ok (leave outer rest)
      else if b = comma then enter bracket outer rest
      else .error (.next bracket.expectedCommaOrEnd (b :: rest))
  | .finished rest => .ok (.finished rest)

def rest : Pass → List UInt8
  | .value _ s => s
  | .opened _ _ s => s
  | .item _ _ s => s
  | .finished s => s

def isOpened : Pass → Bool
  | .opened .. => true
  | _ => false

def isFinished : Pass → Bool
  | .finished _ => true
  | _ => false

/-- A step gets forward, or it turns from a bracket that has been opened to the first value in
it. -/
def measure (p : Pass) : Nat :=
  2 * p.rest.length + p.isOpened.toNat

theorem measure_leave (brackets : List Bracket) (s : List UInt8) :
    (leave brackets s).measure = 2 * s.length := by
  cases brackets <;> rfl

theorem measure_le_of_enter {bracket : Bracket} {outer : List Bracket} {s : List UInt8} {p : Pass}
    (h : enter bracket outer s = .ok p) : p.measure ≤ 2 * s.length := by
  cases bracket with
  | list =>
    cases h
    exact Nat.le_refl _
  | object =>
    obtain ⟨afterKey, hk, rfl⟩ := exists_of_map_eq_ok h
    have hlt := length_lt_of_skipKey hk
    change 2 * afterKey.length ≤ 2 * s.length
    omega

theorem measure_lt_of_step {p q : Pass} (hp : ¬p.isFinished = true) (h : p.step = .ok q) :
    q.measure < p.measure := by
  cases p with
  | value brackets s =>
    change q.measure < 2 * s.length
    have hle := length_skipSpace_le s
    rw [step] at h
    split at h
    · rename_i bracket ho
      cases hs : skipSpace s with
      | nil => simp [hs] at ho
      | cons b more =>
        have hlt := length_lt_of_skipSpace hs
        simp only [hs, List.drop_succ_cons, List.drop_zero, Except.ok.injEq] at h
        subst h
        change 2 * more.length + 1 < 2 * s.length
        omega
    · obtain ⟨more, hr, rfl⟩ := exists_of_map_eq_ok h
      have hlt := length_lt_of_skipScalar hr
      rw [measure_leave]
      omega
  | opened bracket outer s =>
    change q.measure < 2 * s.length + 1
    rw [step] at h
    split at h
    · cases h
    · rename_i b more hs
      have hlt := length_lt_of_skipSpace hs
      split at h
      · cases h
        rw [measure_leave]
        omega
      · have hq := measure_le_of_enter h
        rw [List.length_cons] at hq
        omega
  | item bracket outer s =>
    change q.measure < 2 * s.length
    rw [step] at h
    split at h
    · cases h
    · rename_i b more hs
      have hlt := length_lt_of_skipSpace hs
      split at h
      · cases h
        rw [measure_leave]
        omega
      · split at h
        · have hq := measure_le_of_enter h
          omega
        · cases h
  | finished rest => exact absurd rfl hp

def run (p : Pass) : Except Fault (List UInt8) :=
  if _hp : p.isFinished then .ok p.rest
  else
    match _hq : p.step with
    | .error fault => .error fault
    | .ok q => run q
termination_by p.measure
decreasing_by exact measure_lt_of_step ‹_› ‹_›

theorem measure_ge_of_run {p : Pass} {left : List UInt8} (h : p.run = .ok left) :
    2 * left.length ≤ p.measure := by
  fun_induction run p with
  | case1 p hp =>
    simp only [Except.ok.injEq] at h
    rw [← h, measure]
    omega
  | case2 => simp at h
  | case3 p hp q hq ih =>
    have := measure_lt_of_step hp hq
    have := ih h
    omega

end Pass

def skipValue (s : List UInt8) : Except Fault (List UInt8) :=
  (Pass.value [] s).run

theorem length_lt_of_skipValue {s left : List UInt8} (h : skipValue s = .ok left) :
    left.length < s.length := by
  rw [skipValue, Pass.run, dif_neg (by simp [Pass.isFinished])] at h
  split at h
  · simp at h
  · rename_i q hq
    have hle := Pass.measure_ge_of_run h
    have hlt := Pass.measure_lt_of_step (by simp [Pass.isFinished]) hq
    change q.measure < 2 * s.length at hlt
    omega

end Bulletin.Json
