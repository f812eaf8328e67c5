import Bulletin.Proofs.Text.Blank
import Bulletin.Proofs.Text.Escape

namespace Bulletin

namespace Text

variable {base : ℕ} {c : Char}

theorem not_isDigitIn_of_isBlank (hbase : base ≤ 16) (h : isBlank c) : ¬isDigitIn base c := by
  have hascii : ∀ n < 0x80, isBlank (Char.ofNat n) → ∀ d < 16,
      (Char.ofNat n).toLower ≠ Nat.digitChar d := by
    decide +kernel
  rw [isDigitIn, Option.isSome_iff_exists]
  rintro ⟨d, hd⟩
  by_cases hc : c.toNat < 0x80
  · obtain ⟨hlt, hlower⟩ := (digitValue?_eq_some_iff hbase).mp hd
    have hne := hascii c.toNat hc
    rw [Char.ofNat_toNat] at hne
    exact hne h d (Nat.lt_of_lt_of_le hlt hbase) hlower
  · rw [digitValue?_of_not_ascii hc] at hd
    cases hd

end Text

namespace Escape

open Text

variable {b : Char} {s t : List Char}

/-- A character is no digit of the number behind a backslash, and no letter that announces one. -/
def EndsNumber (b : Char) : Prop :=
  (∀ base ≤ 16, ¬isDigitIn base b) ∧ ∀ form ∈ hexForms, b ≠ form.1

theorem endsNumber_of_isBlank (h : isBlank b) : EndsNumber b := by
  have hletters : ∀ form ∈ hexForms, ¬isBlank form.1 := by decide
  refine ⟨fun base hbase ↦ not_isDigitIn_of_isBlank hbase h, ?_⟩
  rintro form hform rfl
  exact hletters form hform h

theorem endsNumber_backslash : EndsNumber '\\' := by
  have hdigits : ∀ base < 17, ¬isDigitIn base '\\' := by decide +kernel
  exact ⟨fun base hbase ↦ hdigits base (Nat.lt_succ_of_le hbase), by decide⟩

theorem octalDigits_append_end (hb : EndsNumber b) (s t : List Char) :
    octalDigits (s ++ b :: t) = octalDigits s := by
  have hstop : (b :: t).takeWhile (isDigitIn 8) = [] :=
    List.takeWhile_cons_of_neg (hb.1 8 (by decide))
  rw [octalDigits, octalDigits, ← List.take_takeWhile, ← List.take_takeWhile,
    List.takeWhile_append, hstop]
  split
  · rename_i hlength
    rw [List.append_nil, (List.takeWhile_prefix _).eq_of_length hlength]
  · rfl

theorem octal?_append_end (hb : EndsNumber b) (s t : List Char) :
    octal? (s ++ b :: t) = octal? s := by
  have hdigits := octalDigits_append_end hb s t
  rw [octal?, octal?, ← octalDigits, ← octalDigits, hdigits]

theorem hex?_append_end (hb : EndsNumber b) (s t : List Char) : hex? (s ++ b :: t) = hex? s := by
  refine Option.ext (fun ⟨meant, n⟩ ↦ ?_)
  rw [hex?_eq_some_iff, hex?_eq_some_iff]
  constructor
  · rintro ⟨letter, digits, c, hbegins, hl, hc, hmeant⟩
    have hdigits := (exists_isNumeral_iff (by decide)).mp ⟨_, hc⟩
    have hnot : b ∉ letter :: digits := by
      rintro (_ | ⟨_, hmem⟩)
      · exact hb.2 _ hl rfl
      · exact hb.1 16 (by decide) (hdigits b hmem)
    exact ⟨letter, digits, c, prefix_of_append_cons hnot hbegins, hl, hc, hmeant⟩
  · rintro ⟨letter, digits, c, hbegins, hrest⟩
    exact ⟨letter, digits, c, List.prefix_append_of_prefix hbegins, hrest⟩

theorem singleton_isPrefix_append_iff {x : Char} (hs : s ≠ []) :
    [x] <+: s ++ t ↔ [x] <+: s := by
  cases s with
  | nil => exact absurd rfl hs
  | cons first s =>
    rw [List.cons_append, List.cons_prefix_cons, List.cons_prefix_cons]
    exact and_congr_right (fun _ ↦ iff_of_true List.nil_prefix List.nil_prefix)

/-- What stands behind a backslash means the same whatever follows, if the next character ends a
number and begins no sequence of its own right behind the backslash. -/
theorem sequence?_append_end (hb : EndsNumber b) (hs : s = [] → sequence? (b :: t) = none) :
    sequence? (s ++ b :: t) = sequence? s := by
  rcases eq_or_ne s [] with rfl | hne
  · exact hs rfl
  · refine Option.ext (fun ⟨meant, n⟩ ↦ ?_)
    rw [sequence?_eq_some_iff, sequence?_eq_some_iff, octal?_append_end hb, hex?_append_end hb]
    simp only [singleton_isPrefix_append_iff hne]

theorem rule_fits : Rule.Fits rule :=
  fun _ _ _ _ h ↦ (rule_bounds h).2.2

theorem decodeChars_append (hb : EndsNumber b)
    (hs : s.getLast? = some '\\' → sequence? (b :: t) = none) :
    decodeChars (s ++ b :: t) = decodeChars s ++ decodeChars (b :: t) := by
  have hrule : ∀ c u, c :: u <:+ s → rule c (u ++ b :: t) = rule c u := by
    intro c u hsuffix
    rw [rule, rule]
    split
    · rename_i hc
      refine sequence?_append_end hb (fun hu ↦ hs ?_)
      obtain ⟨front, rfl⟩ := hsuffix
      rw [hu, hc, List.getLast?_append, List.getLast?_singleton, Option.some_or]
    · rfl
  rw [decodeChars, scan_append rule_fits hrule, render_append, decodeChars, decodeChars]

theorem hex?_eq_none (hb : EndsNumber b) (t : List Char) : hex? (b :: t) = none := by
  refine Option.eq_none_iff_forall_ne_some.mpr (fun ⟨meant, n⟩ h ↦ ?_)
  obtain ⟨letter, digits, c, hbegins, hl, -⟩ := hex?_eq_some_iff.mp h
  exact hb.2 _ hl (List.cons_prefix_cons.mp hbegins).1.symm

theorem sequence?_blank (hb : isBlank b) (hn : b ≠ '\n') (t : List Char) :
    sequence? (b :: t) = none := by
  have hnumber := endsNumber_of_isBlank hb
  have hletters : ∀ form ∈ shortForms, ¬isBlank form.2 := by decide
  have hsimple : simple? b = none :=
    Option.eq_none_iff_forall_ne_some.mpr (fun _ h ↦ hletters _ (simple?_eq_some_iff.mp h) hb)
  have hoctal : octal? (b :: t) = none := octal?_cons_eq_none_iff.mpr (hnumber.1 8 (by decide))
  rw [sequence?_cons hn hsimple, hoctal, Option.none_or, hex?_eq_none hnumber]

/-- A text is decoded on its own in front of a blank, unless a backslash at its end joins it to the
next line. -/
theorem decodeChars_append_blank (hb : isBlank b) (hs : b = '\n' → s.getLast? ≠ some '\\')
    (t : List Char) : decodeChars (s ++ b :: t) = decodeChars s ++ b :: decodeChars t := by
  have hplain : b ≠ '\\' := by
    rintro rfl
    cases hb
  rw [← decodeChars_cons_of_ne hplain]
  refine decodeChars_append (endsNumber_of_isBlank hb) (fun hlast ↦ ?_)
  exact sequence?_blank hb (fun hn ↦ hs hn hlast) t

theorem decodeChars_append_space (s t : List Char) :
    decodeChars (s ++ ' ' :: t) = decodeChars s ++ ' ' :: decodeChars t :=
  decodeChars_append_blank rfl (fun h ↦ absurd h (by decide)) t

/-- The backslashes at the end of a text. Each two of them are one that is meant. -/
def openBackslashes (s : List Char) : ℕ :=
  (s.reverse.takeWhile (· = '\\')).length

theorem openBackslashes_concat (s : List Char) :
    openBackslashes (s ++ ['\\']) = openBackslashes s + 1 := by
  rw [openBackslashes, List.reverse_concat, List.takeWhile_cons_of_pos (by decide),
    List.length_cons, openBackslashes]

theorem exists_openBackslashes (s : List Char) : ∃ front, front.getLast? ≠ some '\\' ∧
    s = front ++ List.replicate (openBackslashes s) '\\' := by
  have hall : ∀ c ∈ s.reverse.takeWhile (· = '\\'), c = '\\' :=
    fun c hc ↦ of_decide_eq_true (List.mem_takeWhile_imp (p := (· = '\\')) hc)
  refine ⟨(s.reverse.dropWhile (· = '\\')).reverse, ?_, ?_⟩
  · rw [List.getLast?_reverse]
    intro hhead
    have hfirst := List.head?_dropWhile_not (· = '\\') s.reverse
    rw [hhead] at hfirst
    cases hfirst
  · rw [openBackslashes, ← List.reverse_replicate, ← List.eq_replicate_of_mem hall,
      ← List.reverse_append, List.takeWhile_append_dropWhile, List.reverse_reverse]

theorem decodeChars_doubled (n : ℕ) (t : List Char) :
    decodeChars (List.replicate (2 * n) '\\' ++ t) = List.replicate n '\\' ++ decodeChars t := by
  induction n with
  | zero => rfl
  | succ n ih =>
    have hpair (s : List Char) : sequence? ('\\' :: s) = some (['\\'], 1) :=
      sequence?_short (by decide) s
    rw [Nat.mul_succ, List.replicate_succ, List.replicate_succ, List.cons_append, List.cons_append,
      decodeChars_backslash_of_eq_some (hpair _), List.drop_one, List.tail_cons, ih]
    rfl

/-- Backslashes that are all paired do not reach over the end of a text. -/
theorem decodeChars_append_of_even (hb : EndsNumber b) (hs : 2 ∣ openBackslashes s)
    (t : List Char) : decodeChars (s ++ b :: t) = decodeChars s ++ decodeChars (b :: t) := by
  obtain ⟨front, hfront, hsplit⟩ := exists_openBackslashes s
  obtain ⟨n, hn⟩ := hs
  rw [hsplit, hn]
  cases n with
  | zero =>
    rw [Nat.mul_zero, List.replicate_zero, List.append_nil]
    exact decodeChars_append hb (fun h ↦ absurd h hfront)
  | succ n =>
    -- the first of the backslashes already ends what stands in front of it
    have hcut (u : List Char) :
        decodeChars (front ++ (List.replicate (2 * (n + 1)) '\\' ++ u)) =
          decodeChars front ++ (List.replicate (n + 1) '\\' ++ decodeChars u) := by
      rw [← decodeChars_doubled]
      exact decodeChars_append endsNumber_backslash (fun h ↦ absurd h hfront)
    have hfull := hcut []
    rw [List.append_nil] at hfull
    rw [List.append_assoc, hcut, hfull, decodeChars_nil, List.append_nil, List.append_assoc]

/-- A backslash without a partner joins a text to the next line. -/
theorem decodeChars_append_newline_of_odd (hs : ¬2 ∣ openBackslashes s) (t : List Char) :
    decodeChars (s ++ '\n' :: t) = decodeChars s.dropLast ++ decodeChars t := by
  obtain ⟨front, -, hsplit⟩ := exists_openBackslashes s
  obtain ⟨n, hn⟩ : ∃ n, openBackslashes s = n + 1 := by
    refine Nat.exists_eq_succ_of_ne_zero (fun hzero ↦ hs ?_)
    rw [hzero]
    exact Nat.dvd_zero 2
  have hconcat : s = s.dropLast ++ ['\\'] := by
    rw [hsplit, hn, List.replicate_succ', ← List.append_assoc, List.dropLast_concat]
  have heven : 2 ∣ openBackslashes s.dropLast := by
    have hcount := openBackslashes_concat s.dropLast
    rw [← hconcat] at hcount
    omega
  have hjoin : sequence? ('\n' :: t) = some ([], 1) := rfl
  rw [hconcat, List.append_assoc, List.singleton_append,
    decodeChars_append_of_even endsNumber_backslash heven, decodeChars_backslash_of_eq_some hjoin,
    List.dropLast_concat]
  rfl

/-- What a line says together with its line end, which a backslash without a partner takes away. -/
def decodeLine (line : List Char) : List Char :=
  if 2 ∣ openBackslashes line then decodeChars line ++ ['\n'] else decodeChars line.dropLast

theorem decodeChars_append_newline (s t : List Char) :
    decodeChars (s ++ '\n' :: t) = decodeLine s ++ decodeChars t := by
  rw [decodeLine]
  split
  · rename_i heven
    have hn : EndsNumber '\n' := endsNumber_of_isBlank (by decide)
    rw [decodeChars_append_of_even hn heven, decodeChars_cons_of_ne (by decide),
      List.append_assoc, List.singleton_append]
  · rename_i hodd
    exact decodeChars_append_newline_of_odd hodd t

end Escape

end Bulletin
