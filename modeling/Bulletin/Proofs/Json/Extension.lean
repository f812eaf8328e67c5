import Bulletin.Proofs.Json.Skipping

namespace Bulletin.Json

variable {s rest : List UInt8} {b : UInt8} {covered n : Nat}

theorem dropWhile_append_of_ne_nil {p : UInt8 → Bool} (h : s.dropWhile p ≠ []) (t : List UInt8) :
    (s ++ t).dropWhile p = s.dropWhile p ++ t := by
  rw [List.dropWhile_append, if_neg (by simpa using h)]

theorem skipSpace_append (h : skipSpace s = b :: rest) (t : List UInt8) :
    skipSpace (s ++ t) = b :: (rest ++ t) := by
  have hne : skipSpace s ≠ [] := h ▸ List.cons_ne_nil b rest
  rw [skipSpace, dropWhile_append_of_ne_nil hne, ← skipSpace, h, List.cons_append]

theorem readWord_append {word : List UInt8} (h : readWord word s = .ok rest) (t : List UInt8) :
    readWord word (s ++ t) = .ok (rest ++ t) := by
  induction word generalizing s with
  | nil =>
    cases h
    rfl
  | cons w word ih =>
    cases s with
    | nil => cases h
    | cons b s =>
      rw [readWord] at h
      split at h
      · rename_i hb
        rw [List.cons_append, readWord, if_pos hb, ih h]
      · cases h

theorem readCodeUnit_append (h : readCodeUnit s = .ok (n, rest)) (t : List UInt8) :
    readCodeUnit (s ++ t) = .ok (n, rest ++ t) := by
  rw [readCodeUnit] at h
  split at h
  · cases h
  · rename_i hlong
    have hlength : 4 ≤ s.length := by
      rw [List.length_take] at hlong
      omega
    rw [readCodeUnit, List.take_append_of_le_length hlength, List.drop_append_of_le_length hlength]
    rw [if_neg hlong]
    split at h
    · cases h
      rfl
    · cases h

theorem readPairByte_append {wanted : UInt8} (h : readPairByte wanted s = .ok rest)
    (t : List UInt8) : readPairByte wanted (s ++ t) = .ok (rest ++ t) := by
  cases s with
  | nil => cases h
  | cons b s =>
    rw [readPairByte] at h
    split at h
    · rename_i hb
      cases h
      rw [List.cons_append, readPairByte, if_pos hb]
    · cases h

theorem readNumbered_append {meant : List UInt8 × Nat} (h : readNumbered s = .ok meant)
    (t : List UInt8) : readNumbered (s ++ t) = .ok meant := by
  obtain ⟨⟨n, s₁⟩, hn, h⟩ := exists_of_bind_eq_ok h
  rw [readNumbered, readCodeUnit_append hn]
  dsimp only [bind, Except.bind] at h ⊢
  split at h
  · cases h
  rename_i hlow
  rw [if_neg hlow]
  split at h
  · rename_i hhigh
    rw [if_pos hhigh]
    obtain ⟨s₂, h₂, h⟩ := exists_of_bind_eq_ok h
    obtain ⟨s₃, h₃, h⟩ := exists_of_bind_eq_ok h
    obtain ⟨⟨m, s₄⟩, h₄, h⟩ := exists_of_bind_eq_ok h
    rw [readPairByte_append h₂]
    dsimp only
    rw [readPairByte_append h₃]
    dsimp only
    rw [readCodeUnit_append h₄]
    dsimp only at h ⊢
    split at h
    · rename_i hm
      rw [if_pos hm]
      exact h
    · cases h
  · rename_i hhigh
    rw [if_neg hhigh]
    exact h

theorem readEscape_append {meant : List UInt8 × Nat} (h : readEscape s = .ok meant)
    (t : List UInt8) : readEscape (s ++ t) = .ok meant := by
  cases s with
  | nil => cases h
  | cons b s =>
    rw [readEscape] at h
    rw [List.cons_append, readEscape]
    split at h
    · exact h
    · split at h
      · rename_i hb
        rw [if_pos hb, readNumbered_append h]
      · cases h

theorem skipEscape_append (h : skipEscape s = .ok covered) (t : List UInt8) :
    skipEscape (s ++ t) = .ok covered := by
  cases s with
  | nil => cases h
  | cons b s =>
    rw [skipEscape] at h
    rw [List.cons_append, skipEscape]
    split at h
    · rename_i hshort
      rw [if_pos hshort, h]
    · rename_i hshort
      rw [if_neg hshort]
      split at h
      · rename_i hb
        obtain ⟨⟨n, rest⟩, hn, hcovered⟩ := exists_of_map_eq_ok h
        rw [if_pos hb, readCodeUnit_append hn, ← hcovered]
        rfl
      · cases h

theorem readStringFrom_append {done bytes : List UInt8}
    (h : readStringFrom done covered s = .ok (bytes, rest)) (t : List UInt8) :
    readStringFrom done covered (s ++ t) = .ok (bytes, rest ++ t) := by
  induction s generalizing done covered with
  | nil => cases covered <;> cases h
  | cons b s ih =>
    rw [List.cons_append]
    cases covered with
    | succ covered => exact ih h
    | zero =>
      rw [readStringFrom] at h ⊢
      split at h
      · rename_i hb
        cases h
        rw [if_pos hb]
      · rename_i hquote
        rw [if_neg hquote]
        split at h
        · rename_i hb
          rw [if_pos hb]
          split at h
          · cases h
          · rename_i hescape
            rw [readEscape_append hescape]
            exact ih h
        · rename_i hescape
          rw [if_neg hescape]
          split at h
          · cases h
          · rename_i hcontrol
            rw [if_neg hcontrol]
            exact ih h

theorem readString_append {text : String} (h : readString s = .ok (text, rest)) (t : List UInt8) :
    readString (s ++ t) = .ok (text, rest ++ t) := by
  obtain ⟨⟨bytes, left⟩, hs, h⟩ := exists_of_bind_eq_ok h
  rw [readString, readStringFrom_append hs]
  dsimp only [bind, Except.bind] at h ⊢
  split at h
  · cases h
    rfl
  · cases h

theorem skipStringFrom_append (h : skipStringFrom covered s = .ok rest) (t : List UInt8) :
    skipStringFrom covered (s ++ t) = .ok (rest ++ t) := by
  induction s generalizing covered with
  | nil => cases covered <;> cases h
  | cons b s ih =>
    rw [List.cons_append]
    cases covered with
    | succ covered => exact ih h
    | zero =>
      rw [skipStringFrom] at h ⊢
      split at h
      · rename_i hb
        cases h
        rw [if_pos hb]
      · rename_i hquote
        rw [if_neg hquote]
        split at h
        · rename_i hb
          rw [if_pos hb]
          split at h
          · cases h
          · rename_i hescape
            rw [skipEscape_append hescape]
            exact ih h
        · rename_i hescape
          rw [if_neg hescape]
          split at h
          · cases h
          · rename_i hcontrol
            rw [if_neg hcontrol]
            exact ih h

theorem head?_append_of_ne_nil (hs : s ≠ []) (t : List UInt8) : (s ++ t).head? = s.head? := by
  rw [List.head?_append, List.head?_eq_some_head hs, Option.some_or]

theorem drop_one_append (hs : s ≠ []) (t : List UInt8) : (s ++ t).drop 1 = s.drop 1 ++ t :=
  List.drop_append_of_le_length (List.length_pos_iff.mpr hs)

theorem startsWithDigit_append (hs : s ≠ []) (t : List UInt8) :
    startsWithDigit (s ++ t) = startsWithDigit s := by
  rw [startsWithDigit, head?_append_of_ne_nil hs, startsWithDigit]

theorem ne_nil_of_length_le (h : rest.length ≤ s.length) (hne : rest ≠ []) : s ≠ [] := by
  rintro rfl
  exact hne (List.eq_nil_of_length_eq_zero (Nat.le_zero.mp h))

theorem skipExponent_append (h : skipExponent s = .ok rest) (hne : rest ≠ []) (t : List UInt8) :
    skipExponent (s ++ t) = .ok (rest ++ t) := by
  have hs := ne_nil_of_length_le (length_le_of_skipExponent h) hne
  have hdrop : (if s.head?.any isSign then s.drop 1 ++ t else s ++ t) =
      (if s.head?.any isSign then s.drop 1 else s) ++ t := by
    split <;> rfl
  rw [skipExponent] at h
  rw [skipExponent, head?_append_of_ne_nil hs, drop_one_append hs, hdrop]
  split at h
  · cases h
  · rename_i b more hb
    rw [hb, List.cons_append]
    dsimp only
    split at h
    · rename_i hdigit
      cases h
      rw [if_pos hdigit, dropWhile_append_of_ne_nil hne]
    · cases h

theorem skipScale_append (h : skipScale s = .ok rest) (hne : rest ≠ []) (t : List UInt8) :
    skipScale (s ++ t) = .ok (rest ++ t) := by
  have hs := ne_nil_of_length_le (length_le_of_skipScale h) hne
  rw [skipScale] at h
  rw [skipScale, head?_append_of_ne_nil hs, drop_one_append hs]
  split at h
  · rename_i hmark
    rw [if_pos hmark, skipExponent_append h hne]
  · rename_i hmark
    cases h
    rw [if_neg hmark]

theorem skipFraction_append (h : skipFraction s = .ok rest) (hne : rest ≠ []) (t : List UInt8) :
    skipFraction (s ++ t) = .ok (rest ++ t) := by
  have hs := ne_nil_of_length_le (length_le_of_skipFraction h) hne
  rw [skipFraction] at h
  rw [skipFraction, head?_append_of_ne_nil hs, drop_one_append hs]
  split at h
  · rename_i hpoint
    rw [if_pos hpoint]
    dsimp only at h ⊢
    split at h
    · rename_i hdigit
      have hfraction : s.drop 1 ≠ [] := by
        intro hnil
        rw [hnil] at hdigit
        cases hdigit
      have hrest := ne_nil_of_length_le (length_le_of_skipScale h) hne
      rw [startsWithDigit_append hfraction, if_pos hdigit, dropWhile_append_of_ne_nil hrest,
        skipScale_append h hne]
    · cases h
  · rename_i hpoint
    rw [if_neg hpoint, skipScale_append h hne]

/-- A number has no end of its own, as more digits may follow. What it is becomes certain only where
something is left behind it. -/
theorem skipNumber_append (h : skipNumber s = .ok rest) (hne : rest ≠ []) (t : List UInt8) :
    skipNumber (s ++ t) = .ok (rest ++ t) := by
  cases s with
  | nil => cases h
  | cons b s =>
    rw [skipNumber] at h
    rw [List.cons_append, skipNumber]
    split at h
    · cases h
    rename_i hdigit
    rw [if_neg hdigit]
    split at h
    · rename_i hzero
      rw [if_pos hzero]
      split at h
      · cases h
      · rename_i hmore
        have hs := ne_nil_of_length_le (length_le_of_skipFraction h) hne
        rw [startsWithDigit_append hs, if_neg hmore, skipFraction_append h hne]
    · rename_i hzero
      have hs := ne_nil_of_length_le (length_le_of_skipFraction h) hne
      rw [if_neg hzero, dropWhile_append_of_ne_nil hs, skipFraction_append h hne]

def Next.append (t : List UInt8) : Next → Next
  | item s => item (s ++ t)
  | closed rest => closed (rest ++ t)

theorem readNext_append {bracket : Bracket} {isFirst : Bool} {next : Next}
    (h : readNext bracket isFirst s = .ok next) (t : List UInt8) :
    readNext bracket isFirst (s ++ t) = .ok (next.append t) := by
  rw [readNext] at h
  split at h
  · cases h
  rename_i b rest hb
  rw [readNext, skipSpace_append hb]
  dsimp only
  split at h
  · rename_i hcloser
    cases h
    rw [if_pos hcloser]
    rfl
  rename_i hcloser
  rw [if_neg hcloser]
  split at h
  · rename_i hfirst
    cases h
    rw [if_pos hfirst]
    rfl
  rename_i hfirst
  rw [if_neg hfirst]
  split at h
  · rename_i hcomma
    rw [if_pos hcomma]
    split at h
    · cases h
    rename_i c more hc
    rw [skipSpace_append hc]
    dsimp only
    split at h
    · cases h
    · rename_i htrailing
      cases h
      rw [if_neg htrailing]
      rfl
  · cases h

theorem readColon_append (h : readColon s = .ok rest) (t : List UInt8) :
    readColon (s ++ t) = .ok (rest ++ t) := by
  rw [readColon] at h
  split at h
  · cases h
  rename_i b more hb
  rw [readColon, skipSpace_append hb]
  dsimp only
  split at h
  · rename_i hcolon
    cases h
    rw [if_pos hcolon]
  · cases h

theorem readKeyQuote_append (h : readKeyQuote s = .ok rest) (t : List UInt8) :
    readKeyQuote (s ++ t) = .ok (rest ++ t) := by
  rw [readKeyQuote] at h
  split at h
  · cases h
  rename_i b more hb
  rw [readKeyQuote, skipSpace_append hb]
  dsimp only
  split at h
  · rename_i hquote
    cases h
    rw [if_pos hquote]
  · cases h

theorem skipKey_append (h : skipKey s = .ok rest) (t : List UInt8) :
    skipKey (s ++ t) = .ok (rest ++ t) := by
  obtain ⟨afterQuote, hq, h⟩ := exists_of_bind_eq_ok h
  obtain ⟨afterKey, hk, h⟩ := exists_of_bind_eq_ok h
  rw [skipKey, readKeyQuote_append hq]
  change (skipString (afterQuote ++ t) >>= readColon) = _
  rw [skipString, skipStringFrom_append hk]
  exact readColon_append h t

theorem skipScalar_append (h : skipScalar s = .ok rest) (hne : rest ≠ []) (t : List UInt8) :
    skipScalar (s ++ t) = .ok (rest ++ t) := by
  cases s with
  | nil => cases h
  | cons b s =>
    rw [skipScalar] at h
    rw [List.cons_append, skipScalar]
    split at h
    · exact readWord_append h t
    split at h
    · rename_i hminus
      rw [if_pos hminus, skipNumber_append h hne]
    rename_i hminus
    rw [if_neg hminus]
    split at h
    · rename_i hdigit
      rw [if_pos hdigit, ← List.cons_append, skipNumber_append h hne]
    rename_i hdigit
    rw [if_neg hdigit]
    split at h
    · rename_i hquote
      rw [if_pos hquote]
      exact skipStringFrom_append h t
    · cases h

namespace Pass

variable {p q : Pass} {left : List UInt8}

def append (t : List UInt8) : Pass → Pass
  | value brackets s => value brackets (s ++ t)
  | opened bracket outer s => opened bracket outer (s ++ t)
  | item bracket outer s => item bracket outer (s ++ t)
  | finished rest => finished (rest ++ t)

theorem leave_append (brackets : List Bracket) (s t : List UInt8) :
    leave brackets (s ++ t) = (leave brackets s).append t := by
  cases brackets <;> rfl

theorem enter_append {bracket : Bracket} {outer : List Bracket} (h : enter bracket outer s = .ok q)
    (t : List UInt8) : enter bracket outer (s ++ t) = .ok (q.append t) := by
  cases bracket with
  | list =>
    cases h
    rfl
  | object =>
    obtain ⟨afterKey, hk, rfl⟩ := exists_of_map_eq_ok h
    rw [enter, skipKey_append hk]
    rfl

theorem step_append (h : p.step = .ok q) (hne : q.rest ≠ []) (t : List UInt8) :
    (p.append t).step = .ok (q.append t) := by
  cases p with
  | value brackets s =>
    rw [step] at h
    rw [append, step]
    cases hs : skipSpace s with
    | nil =>
      rw [hs] at h
      cases h
    | cons b more =>
      rw [hs] at h
      rw [skipSpace_append hs]
      dsimp only [List.head?_cons] at h ⊢
      split at h
      · cases h
        rfl
      · obtain ⟨rest, hr, rfl⟩ := exists_of_map_eq_ok h
        have hrest : rest ≠ [] := by
          cases brackets <;> exact hne
        rw [← List.cons_append, skipScalar_append hr hrest, ← leave_append]
        rfl
  | opened bracket outer s =>
    rw [step] at h
    rw [append, step]
    split at h
    · cases h
    rename_i b more hb
    rw [skipSpace_append hb]
    dsimp only
    split at h
    · rename_i hcloser
      cases h
      rw [if_pos hcloser, leave_append]
    · rename_i hcloser
      rw [if_neg hcloser, ← List.cons_append, enter_append h]
  | item bracket outer s =>
    rw [step] at h
    rw [append, step]
    split at h
    · cases h
    rename_i b more hb
    rw [skipSpace_append hb]
    dsimp only
    split at h
    · rename_i hcloser
      cases h
      rw [if_pos hcloser, leave_append]
    rename_i hcloser
    rw [if_neg hcloser]
    split at h
    · rename_i hcomma
      rw [if_pos hcomma, enter_append h]
    · cases h
  | finished rest =>
    cases h
    rfl

theorem rest_ne_nil_of_run (h : p.run = .ok left) (hne : left ≠ []) : p.rest ≠ [] := by
  intro hrest
  have hmeasure := measure_ge_of_run h
  have hpos := List.length_pos_iff.mpr hne
  have hopened := Bool.toNat_le p.isOpened
  rw [measure, hrest, List.length_nil] at hmeasure
  omega

theorem run_append (h : p.run = .ok left) (hne : left ≠ []) (t : List UInt8) :
    (p.append t).run = .ok (left ++ t) := by
  fun_induction run p with
  | case1 p hp =>
    cases p with
    | finished rest =>
      cases h
      have hfinished : (finished (rest ++ t)).isFinished = true := rfl
      rw [append, run, dif_pos hfinished]
      rfl
    | _ => cases hp
  | case2 p hp error hq => cases h
  | case3 p hp q hq ih =>
    have happend : (p.append t).isFinished = false := by
      cases p with
      | finished rest => exact absurd rfl hp
      | _ => rfl
    rw [run_eq happend, step_append hq (rest_ne_nil_of_run h hne)]
    exact ih h

end Pass

theorem skipValue_append (h : skipValue s = .ok rest) (hne : rest ≠ []) (t : List UInt8) :
    skipValue (s ++ t) = .ok (rest ++ t) :=
  Pass.run_append h hne t

end Bulletin.Json
