import Bulletin.Json.Skip
import Bulletin.Proofs.Json.Strings
import Mathlib.Data.List.DropRight

namespace Bulletin.Json

open Utf8 (bytes)

variable {c : Char} {b s t fraction exponent : List Char} {rest more : List UInt8} {x : UInt8}
  {v : Value} {vs : List Value} {m : String × Value} {ms : List (String × Value)}

/-- What stands behind a value: a blank, a comma, a bracket or nothing. -/
def Ends (t : List Char) : Prop :=
  ∀ c ∈ t.head?, c ∈ spaces ++ [',', ']', '}']

theorem ends_cons (h : c ∈ spaces ++ [',', ']', '}']) (t : List Char) : Ends (c :: t) := by
  intro c' hc
  cases hc
  exact h

theorem Ends.append_space (h : Ends t) (hb : IsSpace b) : Ends (b ++ t) := by
  cases b with
  | nil => exact h
  | cons c b => exact ends_cons (List.mem_append_left _ (hb c List.mem_cons_self)) _

theorem ascii_of_mem_spaces : ∀ c ∈ spaces, c.toNat < 0x80 ∧ isSpace (ascii c) := by
  decide

theorem skipSpace_bytes (hb : IsSpace b) (rest : List UInt8) :
    skipSpace (bytes b ++ rest) = skipSpace rest := by
  refine List.dropWhile_append_of_pos (fun x hx ↦ ?_)
  obtain ⟨c, hc, hx⟩ := List.mem_flatMap.mp hx
  obtain ⟨hascii, hspace⟩ := ascii_of_mem_spaces c (hb c hc)
  rw [Utf8.utf8EncodeChar_of_ascii hascii, List.mem_singleton] at hx
  exact hx ▸ hspace

theorem skipSpace_bytes_cons (hb : IsSpace b) (hx : isSpace x = false) (rest : List UInt8) :
    skipSpace (bytes b ++ x :: rest) = x :: rest := by
  rw [skipSpace_bytes hb, skipSpace, List.dropWhile_cons_of_neg (Bool.eq_false_iff.mp hx)]

theorem skipSpace_skipSpace (rest : List UInt8) : skipSpace (skipSpace rest) = skipSpace rest :=
  List.dropWhile_idempotent isSpace rest

theorem bytes_between {l r : Char} (hl : l.toNat < 0x80) (hr : r.toNat < 0x80) (s : List Char)
    (rest : List UInt8) :
    bytes (l :: s ++ [r]) ++ rest = ascii l :: (bytes s ++ ascii r :: rest) := by
  simp [bytes_cons_of_ascii, hl, hr]

theorem bytes_quoted (form : List Char) (rest : List UInt8) :
    bytes ('"' :: form ++ ['"']) ++ rest = quote :: (bytes form ++ quote :: rest) :=
  bytes_between (by decide) (by decide) form rest

theorem bytes_append_cons {l : Char} (hl : l.toNat < 0x80) (s t : List Char) :
    bytes (s ++ l :: t) = bytes s ++ ascii l :: bytes t := by
  rw [Utf8.bytes_append, bytes_cons_of_ascii hl]

theorem bytes_member (b form a s t : List Char) :
    bytes (b ++ ('"' :: form ++ ['"']) ++ a ++ ':' :: s ++ t) =
      bytes b ++ quote :: (bytes form ++ quote :: (bytes a ++ ascii ':' :: bytes (s ++ t))) := by
  simp [bytes_cons_of_ascii, quote]

theorem readKeyQuote_bytes (hb : IsSpace b) (rest : List UInt8) :
    readKeyQuote (bytes b ++ quote :: rest) = .ok rest := by
  rw [readKeyQuote, skipSpace_bytes_cons hb (by decide)]
  simp

theorem readColon_bytes (hb : IsSpace b) (rest : List UInt8) :
    readColon (bytes b ++ ascii ':' :: rest) = .ok rest := by
  rw [readColon, skipSpace_bytes_cons hb (by decide)]
  simp

def digits : List Char :=
  ['0', '1', '2', '3', '4', '5', '6', '7', '8', '9']

theorem mem_digits (h : c.isDigit) : c ∈ digits := by
  have hall : ∀ n < 0x80, (Char.ofNat n).isDigit → Char.ofNat n ∈ digits := by decide +kernel
  have hc : c.toNat ≤ 0x39 := by
    simp only [Char.isDigit, Bool.and_eq_true, decide_eq_true_eq] at h
    exact h.2
  have hn := hall c.toNat (by omega)
  rw [Char.ofNat_toNat] at hn
  exact hn h

theorem ascii_of_mem_digits : ∀ c ∈ digits, c.toNat < 0x80 ∧ isDigit (ascii c) := by
  decide

theorem dropWhile_isDigit (hs : ∀ c ∈ s, c.isDigit) (hr : ∀ x ∈ rest.head?, ¬isDigit x) :
    (bytes s ++ rest).dropWhile isDigit = rest := by
  rw [List.dropWhile_append_of_pos]
  · cases rest with
    | nil => rfl
    | cons x rest => exact List.dropWhile_cons_of_neg (hr x rfl)
  · intro x hx
    obtain ⟨c, hc, hx⟩ := List.mem_flatMap.mp hx
    obtain ⟨hascii, hdigit⟩ := ascii_of_mem_digits c (mem_digits (hs c hc))
    rw [Utf8.utf8EncodeChar_of_ascii hascii, List.mem_singleton] at hx
    exact hx ▸ hdigit

theorem IsDigits.exists_cons (h : IsDigits s) (hr : ∀ x ∈ rest.head?, ¬isDigit x) :
    ∃ c ∈ digits, ∃ s', s = c :: s' ∧ bytes s ++ rest = ascii c :: (bytes s' ++ rest) ∧
      (bytes s' ++ rest).dropWhile isDigit = rest := by
  obtain ⟨hne, hall⟩ := h
  obtain ⟨c, s', rfl⟩ := List.exists_cons_of_ne_nil hne
  have hc := mem_digits (hall c List.mem_cons_self)
  refine ⟨c, hc, s', rfl, ?_, ?_⟩
  · rw [bytes_cons_of_ascii (ascii_of_mem_digits c hc).1, List.cons_append]
  · exact dropWhile_isDigit (fun d hd ↦ hall d (List.mem_cons_of_mem _ hd)) hr

def Stops (rest : List UInt8) : Prop :=
  ∀ x ∈ rest.head?, ¬isDigit x ∧ x ≠ ascii '.' ∧ ¬isExponentMark x

theorem Ends.stops (h : Ends t) : Stops (bytes t) := by
  have hall : ∀ c ∈ spaces ++ [',', ']', '}'],
      c.toNat < 0x80 ∧ ¬isDigit (ascii c) ∧ ascii c ≠ ascii '.' ∧ ¬isExponentMark (ascii c) := by
    decide
  intro x hx
  cases t with
  | nil => cases hx
  | cons c t =>
    obtain ⟨hascii, hc⟩ := hall c (h c rfl)
    rw [bytes_cons_of_ascii hascii] at hx
    cases hx
    exact hc

theorem skipExponent_bytes {sign : List Char} (hs : sign ∈ [[], ['+'], ['-']]) (h : IsDigits s)
    (hr : ∀ x ∈ rest.head?, ¬isDigit x) :
    skipExponent (bytes (sign ++ s) ++ rest) = .ok rest := by
  obtain ⟨c, hc, s', -, hbytes, hdrop⟩ := h.exists_cons hr
  have hall : ∀ c ∈ digits, isDigit (ascii c) ∧ isSign (ascii c) = false := by decide
  obtain ⟨hdigit, hnosign⟩ := hall c hc
  rw [Utf8.bytes_append, List.append_assoc, hbytes]
  simp only [List.mem_cons, List.not_mem_nil, or_false] at hs
  rcases hs with rfl | rfl | rfl
  · simp [skipExponent, hnosign, hdigit, hdrop]
  · have hplus : isSign (ascii '+') := by decide
    simp [skipExponent, bytes_cons_of_ascii, hplus, hdigit, hdrop]
  · have hminus : isSign (ascii '-') := by decide
    simp [skipExponent, bytes_cons_of_ascii, hminus, hdigit, hdrop]

theorem skipScale_bytes (he : IsExponent exponent) (hr : Stops rest) :
    skipScale (bytes exponent ++ rest) = .ok rest := by
  cases he with
  | none =>
    have hmark : rest.head?.any isExponentMark = false := by
      rw [Option.any_eq_false]
      exact fun x hx ↦ Bool.eq_false_iff.mpr (hr x hx).2.2
    simp [skipScale, hmark]
  | @digits mark sign s hm hs h =>
    have hall : ∀ c ∈ ['e', 'E'], c.toNat < 0x80 ∧ isExponentMark (ascii c) := by decide
    obtain ⟨hascii, hmark⟩ := hall mark hm
    have hskip := skipExponent_bytes hs h (fun x hx ↦ (hr x hx).1)
    rw [List.cons_append, bytes_cons_of_ascii hascii]
    simpa [skipScale, hmark] using hskip

theorem head?_exponent (he : IsExponent exponent) (hr : Stops rest) :
    ∀ x ∈ (bytes exponent ++ rest).head?, ¬isDigit x ∧ x ≠ ascii '.' := by
  intro x hx
  cases he with
  | none => exact ⟨(hr x hx).1, (hr x hx).2.1⟩
  | @digits mark sign s hm hs h =>
    have hall : ∀ c ∈ ['e', 'E'], c.toNat < 0x80 ∧ ¬isDigit (ascii c) ∧ ascii c ≠ ascii '.' := by
      decide
    obtain ⟨hascii, hmark⟩ := hall mark hm
    rw [List.cons_append, bytes_cons_of_ascii hascii] at hx
    cases hx
    exact hmark

theorem skipFraction_bytes (hf : IsFraction fraction) (he : IsExponent exponent)
    (hr : Stops rest) : skipFraction (bytes (fraction ++ exponent) ++ rest) = .ok rest := by
  have hscale := skipScale_bytes he hr
  have hhead := head?_exponent he hr
  rw [Utf8.bytes_append, List.append_assoc]
  cases hf with
  | none =>
    have hpoint : (bytes exponent ++ rest).head? ≠ some (ascii '.') :=
      fun h ↦ (hhead _ h).2 rfl
    rw [Utf8.bytes_nil, List.nil_append, skipFraction, if_neg (by simpa using hpoint), hscale]
  | @digits s h =>
    obtain ⟨c, hc, s', -, hbytes, hdrop⟩ := h.exists_cons (fun x hx ↦ (hhead x hx).1)
    have hdigit := (ascii_of_mem_digits c hc).2
    rw [bytes_cons_of_ascii (by decide), List.cons_append, hbytes]
    simp [skipFraction, startsWithDigit, hdigit, hdrop, hscale]

theorem head?_fraction (hf : IsFraction fraction) (he : IsExponent exponent) (hr : Stops rest) :
    ∀ x ∈ (bytes (fraction ++ exponent) ++ rest).head?, ¬isDigit x := by
  intro x hx
  cases hf with
  | none => exact (head?_exponent he hr x hx).1
  | digits h =>
    rw [List.cons_append, bytes_cons_of_ascii (by decide)] at hx
    cases hx
    decide

theorem skipNumber_bytes {whole : List Char} (hw : IsDigits whole)
    (hz : whole.head? = some '0' → whole = ['0']) (hf : IsFraction fraction)
    (he : IsExponent exponent) (hr : Stops rest) :
    skipNumber (bytes (whole ++ (fraction ++ exponent)) ++ rest) = .ok rest := by
  have hfraction := skipFraction_bytes hf he hr
  have hhead := head?_fraction hf he hr
  rw [Utf8.bytes_append, List.append_assoc]
  generalize bytes (fraction ++ exponent) ++ rest = more at hfraction hhead
  obtain ⟨c, hc, s', rfl, hbytes, hdrop⟩ := hw.exists_cons hhead
  obtain ⟨hascii, hdigit⟩ := ascii_of_mem_digits c hc
  rw [hbytes, skipNumber]
  by_cases hzero : c = '0'
  · obtain ⟨-, rfl⟩ := List.cons.inj (hz (congrArg some hzero))
    have hnodigit : startsWithDigit more = false := by
      rw [startsWithDigit, Option.any_eq_false]
      exact fun x hx ↦ Bool.eq_false_iff.mpr (hhead x hx)
    have hdigit : isDigit (ascii '0') := by decide
    simp [hdigit, hzero, hnodigit, hfraction]
  · have hne : ascii c ≠ ascii '0' := by
      intro h
      rw [← ofUInt8_ascii hascii, h] at hzero
      exact hzero rfl
    simp [hdigit, hne, hdrop, hfraction]

def Value.firsts : Value → List Char
  | null => ['n']
  | boolean true => ['t']
  | boolean false => ['f']
  | number _ => '-' :: digits
  | string _ => ['"']
  | list _ => ['[']
  | object _ => ['{']

theorem Value.ascii_of_mem_firsts (v : Value) :
    ∀ c ∈ v.firsts,
      c.toNat < 0x80 ∧ isSpace (ascii c) = false ∧ ascii c ≠ Bracket.list.closer := by
  cases v with
  | boolean b => cases b <;> decide
  | _ =>
    simp only [firsts]
    decide

theorem Value.ascii_ne_quote (hv : ∀ text, v ≠ .string text) : ∀ c ∈ v.firsts, ascii c ≠ quote := by
  cases v with
  | string text => exact absurd rfl (hv text)
  | boolean b => cases b <;> decide
  | _ =>
    simp only [firsts]
    decide

theorem exists_cons_of_writes (h : Writes (.value v) s) : ∃ c ∈ v.firsts, ∃ s', s = c :: s' := by
  cases h with
  | number h =>
    obtain @⟨sign, whole, fraction, exponent, hs, ⟨hne, hw⟩, hz, hf, he⟩ := h
    obtain ⟨c, whole, rfl⟩ := List.exists_cons_of_ne_nil hne
    simp only [List.mem_cons, List.not_mem_nil, or_false] at hs
    rcases hs with rfl | rfl
    · exact ⟨c, List.mem_cons_of_mem _ (mem_digits (hw c List.mem_cons_self)), _, rfl⟩
    · exact ⟨'-', List.mem_cons_self, _, rfl⟩
  | string h =>
    cases h
    exact ⟨_, List.mem_cons_self, _, rfl⟩
  | _ => exact ⟨_, List.mem_cons_self, _, rfl⟩

theorem skipSpace_element (h : Writes (.element v) s) (t : List Char) :
    ∃ c ∈ v.firsts, ∃ more, skipSpace (bytes (s ++ t)) = ascii c :: more := by
  cases h with
  | @element _ b s a hb h ha =>
    obtain ⟨c, hc, s', rfl⟩ := exists_cons_of_writes h
    obtain ⟨hascii, hspace, -⟩ := v.ascii_of_mem_firsts c hc
    rw [List.append_assoc, List.append_assoc, Utf8.bytes_append, List.cons_append,
      bytes_cons_of_ascii hascii]
    exact ⟨c, hc, _, skipSpace_bytes_cons hb hspace _⟩

theorem skipSpace_elements (h : Writes (.elements vs) s) (t : List Char) :
    ∃ x more, skipSpace (bytes (s ++ t)) = x :: more ∧ x ≠ Bracket.list.closer := by
  have hfirst {v : Value} {s : List Char} (h : Writes (.element v) s) (t : List Char) :
      ∃ x more, skipSpace (bytes (s ++ t)) = x :: more ∧ x ≠ Bracket.list.closer := by
    obtain ⟨c, hc, more, hmore⟩ := skipSpace_element h t
    exact ⟨ascii c, more, hmore, (v.ascii_of_mem_firsts c hc).2.2⟩
  cases h with
  | lastElement h => exact hfirst h t
  | moreElements h hs =>
    rw [List.append_assoc]
    exact hfirst h _

theorem skipSpace_member (h : Writes (.member m) s) (t : List Char) :
    ∃ more, skipSpace (bytes (s ++ t)) = quote :: more := by
  cases h with
  | member hb hk ha h =>
    obtain @⟨form, hk⟩ := hk
    rw [bytes_member]
    exact ⟨_, skipSpace_bytes_cons hb (by decide) _⟩

theorem skipSpace_members (h : Writes (.members ms) s) (t : List Char) :
    ∃ more, skipSpace (bytes (s ++ t)) = quote :: more := by
  cases h with
  | lastMember h => exact skipSpace_member h t
  | moreMembers h hs =>
    rw [List.append_assoc]
    exact skipSpace_member h _

theorem skipScalar_number (h : IsNumber s) (hr : Stops rest) :
    skipScalar (bytes s ++ rest) = .ok rest := by
  obtain @⟨sign, whole, fraction, exponent, hs, hw, hz, hf, he⟩ := h
  have hskip := skipNumber_bytes hw hz hf he hr
  simp only [List.mem_cons, List.not_mem_nil, or_false] at hs
  rcases hs with rfl | rfl
  · obtain ⟨c, hc, s', -, hbytes, -⟩ := hw.exists_cons (head?_fraction hf he hr)
    have hall : ∀ c ∈ digits,
        wordAfter? (ascii c) = none ∧ ascii c ≠ ascii '-' ∧ isDigit (ascii c) := by
      decide
    obtain ⟨hword, hminus, hdigit⟩ := hall c hc
    rw [Utf8.bytes_append, List.append_assoc, hbytes] at hskip
    rw [List.nil_append, List.append_assoc, Utf8.bytes_append, List.append_assoc, hbytes,
      skipScalar, hword]
    simpa [hminus, hdigit] using hskip
  · have hword : wordAfter? (ascii '-') = none := by decide
    simpa [skipScalar, bytes_cons_of_ascii, hword] using hskip

theorem skipScalar_string {text : String} (h : WritesString text s) (rest : List UInt8) :
    skipScalar (bytes s ++ rest) = .ok rest := by
  obtain @⟨form, h⟩ := h
  have hskip : skipString (bytes form ++ quote :: rest) = .ok rest := by
    rw [skipString_writesChars h, skipString_quote]
  have hword : wordAfter? quote = none := by decide
  have hminus : quote ≠ ascii '-' := by decide
  have hdigit : isDigit quote = false := by decide
  rw [bytes_quoted, skipScalar, hword]
  simpa [hminus, hdigit] using hskip

theorem skipKey_bytes {key : String} {form a : List Char} (hb : IsSpace b)
    (hk : WritesChars key.toList form) (ha : IsSpace a) (rest : List UInt8) :
    skipKey (bytes b ++ quote :: (bytes form ++ quote :: (bytes a ++ ascii ':' :: rest))) =
      .ok rest := by
  have hskip : skipString (bytes form ++ quote :: (bytes a ++ ascii ':' :: rest)) =
      .ok (bytes a ++ ascii ':' :: rest) := by
    rw [skipString_writesChars hk, skipString_quote]
  simp [skipKey, readKeyQuote_bytes hb, hskip, readColon_bytes ha, bind, Except.bind]

theorem skipKey_skipSpace (rest : List UInt8) : skipKey (skipSpace rest) = skipKey rest := by
  rw [skipKey, readKeyQuote, skipSpace_skipSpace]
  rfl

namespace Pass

variable {bracket : Bracket} {brackets outer : List Bracket} {p : Pass}

theorem run_eq (hp : p.isFinished = false) : p.run = p.step >>= run := by
  rw [run, dif_neg (Bool.eq_false_iff.mp hp)]
  split <;> rename_i h <;> rw [h] <;> rfl

theorem run_value_skipSpace (brackets : List Bracket) (s : List UInt8) :
    (value brackets (skipSpace s)).run = (value brackets s).run := by
  rw [run_eq rfl, run_eq rfl, step, step, skipSpace_skipSpace]

theorem run_value_bytes (hb : IsSpace b) (brackets : List Bracket) (s : List UInt8) :
    (value brackets (bytes b ++ s)).run = (value brackets s).run := by
  rw [run_eq rfl, run_eq rfl, step, step, skipSpace_bytes hb]

theorem run_item_bytes (hb : IsSpace b) (bracket : Bracket) (outer : List Bracket)
    (s : List UInt8) : (item bracket outer (bytes b ++ s)).run = (item bracket outer s).run := by
  rw [run_eq rfl, run_eq rfl, step, step, skipSpace_bytes hb]

theorem enter_skipSpace (bracket : Bracket) (outer : List Bracket) (s : List UInt8) :
    (enter bracket outer (skipSpace s) >>= run) = (enter bracket outer s >>= run) := by
  cases bracket with
  | list => exact run_value_skipSpace (.list :: outer) s
  | object => rw [enter, skipKey_skipSpace, enter]

theorem run_value_opener {s : List UInt8} (hs : skipSpace s = x :: more)
    (hx : Bracket.ofOpener? x = some bracket) (brackets : List Bracket) :
    (value brackets s).run = (opened bracket brackets more).run := by
  rw [run_eq rfl, step, hs]
  simp [hx, bind, Except.bind]

theorem run_value_scalar {s : List UInt8} (hs : skipSpace s = x :: more)
    (hx : Bracket.ofOpener? x = none) (h : skipScalar (x :: more) = .ok rest)
    (brackets : List Bracket) : (value brackets s).run = (leave brackets rest).run := by
  rw [run_eq rfl, step, hs]
  simp [hx, h, bind, Except.bind, Except.map]

theorem run_opened {s : List UInt8} (hs : skipSpace s = x :: more) (hx : x ≠ bracket.closer)
    (outer : List Bracket) :
    (opened bracket outer s).run = (enter bracket outer s >>= run) := by
  rw [← enter_skipSpace, run_eq rfl, step, hs]
  simp [hx]

theorem run_opened_closer {s : List UInt8} (hs : skipSpace s = bracket.closer :: more)
    (outer : List Bracket) : (opened bracket outer s).run = (leave outer more).run := by
  rw [run_eq rfl, step, hs]
  simp [bind, Except.bind]

theorem run_item_closer {s : List UInt8} (hs : skipSpace s = bracket.closer :: more)
    (outer : List Bracket) : (item bracket outer s).run = (leave outer more).run := by
  rw [run_eq rfl, step, hs]
  simp [bind, Except.bind]

theorem run_item_comma {s : List UInt8} (hs : skipSpace s = comma :: more)
    (bracket : Bracket) (outer : List Bracket) :
    (item bracket outer s).run = (enter bracket outer more >>= run) := by
  have hne : comma ≠ bracket.closer := by cases bracket <;> decide
  rw [run_eq rfl, step, hs]
  simp [hne]

/-- What it means for the text of a part that a pass comes to its end. The blanks behind an element
belong to it, but a pass ends in front of them. -/
def PassesOver : Part → List Char → Prop
  | .value _, s => ∀ brackets t, Ends t →
      (value brackets (bytes (s ++ t))).run = (leave brackets (bytes t)).run
  | .element _, s => ∀ brackets t, Ends t → ∃ a, IsSpace a ∧
      (value brackets (bytes (s ++ t))).run = (leave brackets (bytes (a ++ t))).run
  | .elements _, s => ∀ outer t,
      (enter .list outer (bytes (s ++ ']' :: t)) >>= run) = (leave outer (bytes t)).run
  | .member _, s => ∀ outer t, Ends t →
      (enter .object outer (bytes (s ++ t)) >>= run) = (item .object outer (bytes t)).run
  | .members _, s => ∀ outer t,
      (enter .object outer (bytes (s ++ '}' :: t)) >>= run) = (leave outer (bytes t)).run

theorem run_value_written (h : Writes (.value v) s)
    (hv : ∀ c ∈ v.firsts, Bracket.ofOpener? (ascii c) = none)
    (hskip : skipScalar (bytes s ++ rest) = .ok rest) (brackets : List Bracket) :
    (value brackets (bytes s ++ rest)).run = (leave brackets rest).run := by
  obtain ⟨c, hc, s', rfl⟩ := exists_cons_of_writes h
  obtain ⟨hascii, hspace, -⟩ := v.ascii_of_mem_firsts c hc
  rw [bytes_cons_of_ascii hascii, List.cons_append] at hskip ⊢
  have hfirst : skipSpace (ascii c :: (bytes s' ++ rest)) = ascii c :: (bytes s' ++ rest) :=
    List.dropWhile_cons_of_neg (Bool.eq_false_iff.mp hspace)
  exact run_value_scalar hfirst (hv c hc) hskip brackets

theorem passesOver_of_writes {part : Part} (h : Writes part s) : PassesOver part s := by
  induction h with
  | null =>
    intro brackets t _
    exact run_value_scalar rfl (by decide) rfl brackets
  | true =>
    intro brackets t _
    exact run_value_scalar rfl (by decide) rfl brackets
  | false =>
    intro brackets t _
    exact run_value_scalar rfl (by decide) rfl brackets
  | @number s h =>
    intro brackets t ht
    have hskip := skipScalar_number h ht.stops
    rw [Utf8.bytes_append]
    exact run_value_written (.number h) (by simp only [Value.firsts]; decide) hskip brackets
  | @string text s h =>
    intro brackets t _
    have hskip := skipScalar_string h (bytes t)
    rw [Utf8.bytes_append]
    exact run_value_written (.string h) (by simp only [Value.firsts]; decide) hskip brackets
  | @emptyList b hb =>
    intro brackets t _
    rw [Utf8.bytes_append, bytes_between (by decide) (by decide),
      run_value_opener rfl (by decide : Bracket.ofOpener? (ascii '[') = some .list)]
    exact run_opened_closer (skipSpace_bytes_cons hb (by decide) _) brackets
  | @list vs s h ih =>
    intro brackets t _
    obtain ⟨x, more, hfirst, hx⟩ := skipSpace_elements h (']' :: t)
    have hrun := ih brackets t
    rw [bytes_append_cons (by decide)] at hfirst hrun
    rw [Utf8.bytes_append, bytes_between (by decide) (by decide),
      run_value_opener rfl (by decide : Bracket.ofOpener? (ascii '[') = some .list),
      run_opened hfirst hx, hrun]
  | @emptyObject b hb =>
    intro brackets t _
    rw [Utf8.bytes_append, bytes_between (by decide) (by decide),
      run_value_opener rfl (by decide : Bracket.ofOpener? (ascii '{') = some .object)]
    exact run_opened_closer (skipSpace_bytes_cons hb (by decide) _) brackets
  | @object ms s h ih =>
    intro brackets t _
    obtain ⟨more, hfirst⟩ := skipSpace_members h ('}' :: t)
    have hrun := ih brackets t
    rw [bytes_append_cons (by decide)] at hfirst hrun
    rw [Utf8.bytes_append, bytes_between (by decide) (by decide),
      run_value_opener rfl (by decide : Bracket.ofOpener? (ascii '{') = some .object),
      run_opened hfirst (by decide), hrun]
  | @element v b s a hb h ha ih =>
    intro brackets t ht
    have hrun := ih brackets (a ++ t) (ht.append_space ha)
    refine ⟨a, ha, ?_⟩
    rw [List.append_assoc, List.append_assoc, Utf8.bytes_append, run_value_bytes hb, hrun]
  | @lastElement v s h ih =>
    intro outer t
    obtain ⟨a, ha, hrun⟩ := ih (.list :: outer) (']' :: t) (ends_cons (by decide) t)
    have hclose : skipSpace (bytes (a ++ ']' :: t)) = Bracket.list.closer :: bytes t := by
      rw [bytes_append_cons (by decide), skipSpace_bytes_cons ha (by decide)]
      rfl
    exact hrun.trans (run_item_closer hclose outer)
  | @moreElements v vs s s' h hs ih ihs =>
    intro outer t
    obtain ⟨a, ha, hrun⟩ := ih (.list :: outer) (',' :: (s' ++ ']' :: t)) (ends_cons (by decide) _)
    have hcomma : skipSpace (bytes (a ++ ',' :: (s' ++ ']' :: t))) =
        comma :: bytes (s' ++ ']' :: t) := by
      rw [bytes_append_cons (by decide), skipSpace_bytes_cons ha (by decide)]
      rfl
    rw [List.append_assoc, List.cons_append]
    exact (hrun.trans (run_item_comma hcomma .list outer)).trans (ihs outer t)
  | @member key v b k a s hb hk ha h ih =>
    intro outer t ht
    obtain ⟨a', ha', hrun⟩ := ih (.object :: outer) t ht
    obtain @⟨form, hk⟩ := hk
    rw [enter, bytes_member, skipKey_bytes hb hk ha]
    refine hrun.trans ?_
    rw [Utf8.bytes_append]
    exact run_item_bytes ha' .object outer (bytes t)
  | @lastMember m s h ih =>
    intro outer t
    have hrun := ih outer ('}' :: t) (ends_cons (by decide) t)
    rw [hrun]
    exact run_item_closer (by rw [bytes_cons_of_ascii (by decide)]; rfl) outer
  | @moreMembers m ms s s' h hs ih ihs =>
    intro outer t
    have hrun := ih outer (',' :: (s' ++ '}' :: t)) (ends_cons (by decide) _)
    rw [List.append_assoc, List.cons_append, hrun, bytes_cons_of_ascii (by decide)]
    exact (run_item_comma rfl .object outer).trans (ihs outer t)

end Pass

theorem skipValue_element (h : Writes (.element v) s) (ht : Ends t) :
    ∃ a, IsSpace a ∧ skipValue (bytes (s ++ t)) = .ok (bytes (a ++ t)) := by
  obtain ⟨a, ha, hrun⟩ := Pass.passesOver_of_writes h [] t ht
  refine ⟨a, ha, hrun.trans ?_⟩
  rw [Pass.leave, Pass.run]
  rfl

end Bulletin.Json
