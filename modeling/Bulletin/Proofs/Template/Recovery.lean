import Bulletin.Proofs.Template.Draft

namespace Bulletin.Template

open Text

/-- The lines with an end mark right behind the last one, and more text behind that. -/
def markLast (after : List Char) : List (List Char) → List (List Char)
  | [] => []
  | [line] => [line ++ Marker.chars ++ after]
  | line :: next :: lines => line :: markLast after (next :: lines)

/-- A section of a template that is closed: its token, the text behind the token, further lines and
an end mark right behind the last of them. -/
structure Block where
  kind : Section
  indent : List Char
  word : List Char
  first : List Char
  more : List (List Char)
  after : List Char
  isToken : kind.IsToken word
  isBlank_indent : indent.all isBlank
  isBlank_after : more = [] → after.all isBlank
  unmarked : ∀ line ∈ first :: more, ¬Marker.chars <:+: line
  newline_not_mem : ∀ line ∈ indent :: after :: first :: more, '\n' ∉ line

def Block.lines (b : Block) : List (List Char) :=
  markLast b.after ((b.indent ++ b.word ++ b.first) :: b.more)

def Block.texts (b : Block) : List (List Char) :=
  (b.first :: b.more).map trim

inductive Part
  | filler (line : List Char)
  | block (b : Block)

def Part.lines : Part → List (List Char)
  | filler line => [line]
  | block b => b.lines

/-- Parts that follow one another when some sections are closed already. What is outside of a
section opens none, no section comes again, and no line of a section opens one that comes before it,
unless that is closed. -/
def WellFormed (closed : List Section) : List Part → Prop
  | [] => True
  | .filler line :: parts =>
    '\n' ∉ line ∧ (∀ kind ∉ closed, ¬kind.Opens (trim line)) ∧ WellFormed closed parts
  | .block b :: parts =>
    b.kind ∉ closed ∧
      (∀ line ∈ b.lines.tail, ∀ kind ∉ closed, kind.Precedes b.kind → ¬kind.Opens (trim line)) ∧
      WellFormed (b.kind :: closed) parts

instance decidableWellFormed : ∀ closed parts, Decidable (WellFormed closed parts)
  | _, [] => inferInstanceAs (Decidable True)
  | closed, .filler line :: parts =>
    have := decidableWellFormed closed parts
    inferInstanceAs (Decidable ('\n' ∉ line ∧ (∀ kind ∉ closed, ¬kind.Opens (trim line)) ∧ _))
  | closed, .block b :: parts =>
    have := decidableWellFormed (b.kind :: closed) parts
    inferInstanceAs (Decidable (b.kind ∉ closed ∧
      (∀ line ∈ b.lines.tail, ∀ kind ∉ closed, kind.Precedes b.kind → ¬kind.Opens (trim line)) ∧ _))

def textOf (parts : List Part) : String :=
  String.ofList (['\n'].intercalate (parts.flatMap Part.lines))

def blockOf? (kind : Section) (parts : List Part) : Option Block :=
  parts.findSome? fun
    | .filler _ => none
    | .block b => if b.kind = kind then some b else none

/-- The lines of a description, each with its line end; those of a title or a tag with single blanks
between them. -/
def joined (texts : List (List Char)) : Section → List Char
  | .description => texts.flatMap (· ++ ['\n'])
  | .title | .tag => [' '].intercalate texts

/-- What a section says, which is nothing if it is not there. -/
def contentOf (parts : List Part) (kind : Section) : String :=
  match blockOf? kind parts with
  | none => ""
  | some b => Escape.decode (String.ofList (joined b.texts kind))

variable {kind : Section} {word line after : List Char} {texts lines : List (List Char)}
  {closed : List Section} {d : Draft} {b : Block} {part : Part} {parts : List Part}

theorem take?_word (hw : kind.IsToken word) (hm : ¬Marker.chars <:+: line) :
    Slot.idle.take? kind (word ++ line) = some (.collecting [trim line]) := by
  have hn := Marker.unmarked_append hw.slash_not_mem hm
  rw [Slot.take?, Section.opening?_append hw, Option.map_some, Marker.erase_of_unmarked hm,
    Slot.close, Marker.occursIn_of_unmarked hn]
  rfl

theorem take?_word_marked (hw : kind.IsToken word) (hm : ¬Marker.chars <:+: line) :
    Slot.idle.take? kind (word ++ (line ++ Marker.chars)) = some (.done [trim line]) := by
  have ho := Marker.occursIn_append (Marker.unmarked_append hw.slash_not_mem hm) []
  rw [List.append_nil, List.append_assoc] at ho
  rw [Slot.take?, Section.opening?_append hw, Option.map_some, Marker.erase_append_chars hm,
    Slot.close, ho]
  rfl

theorem take?_line (hm : ¬Marker.chars <:+: line) :
    (Slot.collecting texts).take? kind line = some (.collecting (line :: texts)) := by
  have ho := Marker.occursIn_of_unmarked hm
  rw [Slot.take?, ho, Slot.close, ho]
  rfl

theorem take?_line_marked (hm : ¬Marker.chars <:+: line) (after : List Char) :
    (Slot.collecting texts).take? kind (line ++ Marker.chars ++ after) =
      some (.done (trim line :: texts)) := by
  have ho := Marker.occursIn_append hm after
  rw [Slot.take?, Marker.before_append hm, ho, Slot.close, ho]
  rfl

namespace Block

theorem trim_opening (b : Block) (line : List Char) :
    trim (b.indent ++ b.word ++ line) = b.word ++ trimEnd line := by
  rw [List.append_assoc, trim_blank_append (List.all_eq_true.mp b.isBlank_indent),
    b.isToken.trim_append]

theorem trimEnd_marked (hafter : after.all isBlank) (line : List Char) :
    trimEnd (line ++ Marker.chars ++ after) = line ++ Marker.chars := by
  rw [trimEnd_append_of_blank _ (List.all_eq_true.mp hafter),
    trimEnd_append_of_ne_nil _ Marker.trimEnd_chars Marker.chars_ne_nil]

end Block

theorem trim_marked (line after : List Char) :
    trim (line ++ Marker.chars ++ after) = trimStart line ++ Marker.chars ++ trimEnd after :=
  trim_append_append _ Marker.trimStart_chars Marker.trimEnd_chars Marker.chars_ne_nil _

/-- The sections that are closed have their lines, and the other ones have not been opened. -/
def Settled (closed : List Section) (d : Draft) : Prop :=
  ∀ kind, (kind ∈ closed → ∃ texts, d.get kind = .done texts) ∧ (kind ∉ closed → d.get kind = .idle)

theorem settled_start : Settled [] Draft.start := by
  intro kind
  refine ⟨fun h ↦ absurd h List.not_mem_nil, fun _ ↦ ?_⟩
  cases kind <;> rfl

theorem Settled.set (hd : Settled closed d) (kind : Section) (texts : List (List Char)) :
    Settled (kind :: closed) (d.set kind (.done texts)) := by
  intro other
  rw [PerSection.get_set]
  by_cases h : other = kind
  · rw [if_pos h]
    exact ⟨fun _ ↦ ⟨texts, rfl⟩, fun hn ↦ absurd (h ▸ List.mem_cons_self) hn⟩
  · rw [if_neg h]
    refine ⟨fun hm ↦ ?_, fun hn ↦ ?_⟩
    · exact (hd other).1 ((List.mem_cons.mp hm).resolve_left h)
    · exact (hd other).2 (fun hm ↦ hn (List.mem_cons_of_mem _ hm))

theorem Settled.take?_eq_none (hd : Settled closed d) (hk : kind ∉ closed → ¬kind.Opens line) :
    (d.get kind).take? kind line = none := by
  by_cases h : kind ∈ closed
  · obtain ⟨texts, ht⟩ := (hd kind).1 h
    rw [ht, Slot.take?]
  · rw [(hd kind).2 h, Slot.take?_idle (hk h)]

theorem Settled.feed_filler (hd : Settled closed d)
    (hl : ∀ kind ∉ closed, ¬kind.Opens (trim line)) : d.feed line = d := by
  rw [Draft.feed_eq_offer]
  exact Draft.offer_eq_self (fun kind ↦ hd.take?_eq_none (hl kind))

theorem Settled.feed_collecting (hd : Settled closed d)
    (hl : ∀ other ∉ closed, other.Precedes kind → ¬other.Opens (trim line)) {slot : Slot}
    (ht : (Slot.collecting texts).take? kind (trim line) = some slot) :
    Draft.feed (d.set kind (.collecting texts)) line = d.set kind slot := by
  have htake : ((d.set kind (.collecting texts)).get kind).take? kind (trim line) = some slot := by
    rw [PerSection.get_set_self, ht]
  have hbefore : ∀ other : Section, other.Precedes kind →
      ((d.set kind (.collecting texts)).get other).take? other (trim line) = none := by
    intro other hother
    have hne : other ≠ kind := by
      rintro rfl
      exact Nat.lt_irrefl _ hother
    rw [PerSection.get_set, if_neg hne]
    exact hd.take?_eq_none (fun hc ↦ hl other hc hother)
  rw [Draft.feed_eq_offer, Draft.offer_eq_set htake hbefore, PerSection.set_set]

theorem Settled.feed_opening (hd : Settled closed d) (hk : kind ∉ closed)
    (hl : kind.Opens (trim line)) {slot : Slot}
    (ht : Slot.idle.take? kind (trim line) = some slot) : d.feed line = d.set kind slot := by
  have htake : (d.get kind).take? kind (trim line) = some slot := by
    rw [(hd kind).2 hk, ht]
  have hbefore : ∀ other : Section, other.Precedes kind →
      (d.get other).take? other (trim line) = none := by
    intro other hother
    refine hd.take?_eq_none (fun _ hopens ↦ ?_)
    obtain rfl := hopens.unique hl
    exact Nat.lt_irrefl _ hother
  rw [Draft.feed_eq_offer, Draft.offer_eq_set htake hbefore]

theorem Settled.foldl_feed_more (hd : Settled closed d) {after : List Char}
    (hne : lines ≠ []) (hm : ∀ line ∈ lines, ¬Marker.chars <:+: line)
    (hl : ∀ line ∈ markLast after lines, ∀ other ∉ closed, other.Precedes kind →
      ¬other.Opens (trim line)) :
    (markLast after lines).foldl Draft.feed (d.set kind (.collecting texts)) =
      d.set kind (.done ((lines.map trim).reverse ++ texts)) := by
  induction lines using markLast.induct generalizing texts with
  | case1 => exact absurd rfl hne
  | case2 line =>
    have hclear : ¬Marker.chars <:+: trimStart line := fun h ↦
      hm line List.mem_cons_self (h.trans (trimStart_isSuffix line).isInfix)
    have ht : (Slot.collecting texts).take? kind (trim (line ++ Marker.chars ++ after)) =
        some (.done (trim line :: texts)) := by
      rw [trim_marked, take?_line_marked hclear, trim_trimStart]
    exact hd.feed_collecting (hl _ List.mem_cons_self) ht
  | case3 line next lines ih =>
    have hclear : ¬Marker.chars <:+: trim line := fun h ↦
      hm line List.mem_cons_self (h.trans (trim_isInfix line))
    rw [markLast, List.foldl_cons,
      hd.feed_collecting (hl _ List.mem_cons_self) (take?_line hclear),
      ih (List.cons_ne_nil _ _) (fun l h ↦ hm l (List.mem_cons_of_mem _ h))
        (fun l h ↦ hl l (List.mem_cons_of_mem _ h))]
    simp

theorem Settled.foldl_feed_block (hd : Settled closed d) (hk : b.kind ∉ closed)
    (hl : ∀ line ∈ b.lines.tail, ∀ other ∉ closed, other.Precedes b.kind →
      ¬other.Opens (trim line)) :
    b.lines.foldl Draft.feed d = d.set b.kind (.done b.texts.reverse) := by
  have hfirst : ¬Marker.chars <:+: b.first := b.unmarked _ List.mem_cons_self
  cases hmore : b.more with
  | nil =>
    have hline : trim (b.indent ++ b.word ++ b.first ++ Marker.chars ++ b.after) =
        b.word ++ (b.first ++ Marker.chars) := by
      have h := b.trim_opening (b.first ++ Marker.chars ++ b.after)
      rw [Block.trimEnd_marked (b.isBlank_after hmore)] at h
      simpa only [List.append_assoc] using h
    have ht := take?_word_marked b.isToken hfirst
    rw [← hline] at ht
    have hlines : b.lines = [b.indent ++ b.word ++ b.first ++ Marker.chars ++ b.after] := by
      rw [Block.lines, hmore, markLast]
    have htexts : b.texts.reverse = [trim b.first] := by
      rw [Block.texts, hmore]
      rfl
    rw [hlines, htexts]
    exact hd.feed_opening hk ⟨_, _, b.isToken, hline⟩ ht
  | cons next more =>
    have hclear : ¬Marker.chars <:+: trimEnd b.first := fun h ↦
      hfirst (h.trans (trimEnd_isPrefix b.first).isInfix)
    have hline := b.trim_opening b.first
    have ht := take?_word b.isToken hclear
    rw [← hline, trim_trimEnd] at ht
    have hlines : b.lines = (b.indent ++ b.word ++ b.first) :: markLast b.after b.more := by
      rw [Block.lines, hmore, markLast]
    have htexts : b.texts.reverse = (b.more.map trim).reverse ++ [trim b.first] := by
      rw [Block.texts, List.map_cons, List.reverse_cons]
    rw [hlines, List.tail_cons] at hl
    rw [hlines, htexts, List.foldl_cons, hd.feed_opening hk ⟨_, _, b.isToken, hline⟩ ht]
    have hne : b.more ≠ [] := hmore ▸ List.cons_ne_nil next more
    exact hd.foldl_feed_more hne (fun l h ↦ b.unmarked l (List.mem_cons_of_mem _ h)) hl

theorem blockOf?_filler (kind : Section) (line : List Char) (parts : List Part) :
    blockOf? kind (.filler line :: parts) = blockOf? kind parts :=
  rfl

theorem blockOf?_block (kind : Section) (b : Block) (parts : List Part) :
    blockOf? kind (.block b :: parts) = if b.kind = kind then some b else blockOf? kind parts := by
  rw [blockOf?, List.findSome?_cons]
  by_cases h : b.kind = kind
  · simp only [h, if_true]
  · simp only [h, if_false]
    rfl

theorem blockOf?_eq_none (h : WellFormed closed parts) (hk : kind ∈ closed) :
    blockOf? kind parts = none := by
  induction parts generalizing closed with
  | nil => rfl
  | cons part parts ih =>
    cases part with
    | filler line => exact ih h.2.2 hk
    | block b =>
      obtain ⟨hb, -, hparts⟩ := h
      have hne : b.kind ≠ kind := fun he ↦ hb (he ▸ hk)
      rw [blockOf?_block, if_neg hne]
      exact ih hparts (List.mem_cons_of_mem _ hk)

/-- Every section that the parts close is left with its texts, and the other ones are left alone. -/
theorem foldl_feed_parts (h : WellFormed closed parts) (hd : Settled closed d) (kind : Section) :
    ((parts.flatMap Part.lines).foldl Draft.feed d).get kind =
      match blockOf? kind parts with
      | none => d.get kind
      | some b => .done b.texts.reverse := by
  induction parts generalizing closed d with
  | nil => rfl
  | cons part parts ih =>
    rw [List.flatMap_cons, List.foldl_append]
    cases part with
    | filler line =>
      obtain ⟨-, hl, hparts⟩ := h
      have hfeed : (Part.filler line).lines.foldl Draft.feed d = d := hd.feed_filler hl
      rw [hfeed, blockOf?_filler]
      exact ih hparts hd
    | block b =>
      obtain ⟨hk, hl, hparts⟩ := h
      have hfeed : (Part.block b).lines.foldl Draft.feed d = d.set b.kind (.done b.texts.reverse) :=
        hd.foldl_feed_block hk hl
      rw [hfeed, ih hparts (hd.set b.kind b.texts.reverse), blockOf?_block, PerSection.get_set]
      by_cases hb : b.kind = kind
      · subst hb
        rw [blockOf?_eq_none hparts List.mem_cons_self, if_pos rfl, if_pos rfl]
      · rw [if_neg hb, if_neg (Ne.symm hb)]

theorem newline_not_mem_markLast (hafter : '\n' ∉ after) (hlines : ∀ line ∈ lines, '\n' ∉ line) :
    ∀ line ∈ markLast after lines, '\n' ∉ line := by
  induction lines using markLast.induct with
  | case1 => exact hlines
  | case2 line =>
    have hmark : '\n' ∉ Marker.chars := by decide
    have hline := hlines line List.mem_cons_self
    simp [markLast, hmark, hline, hafter]
  | case3 line next lines ih =>
    intro l hl
    rcases List.mem_cons.mp hl with rfl | hl
    · exact hlines l List.mem_cons_self
    · exact ih (fun l h ↦ hlines l (List.mem_cons_of_mem _ h)) l hl

theorem Block.newline_not_mem_lines (b : Block) : ∀ line ∈ b.lines, '\n' ∉ line := by
  have hindent := b.newline_not_mem b.indent (by simp)
  have hafter := b.newline_not_mem b.after (by simp)
  have hfirst := b.newline_not_mem b.first (by simp)
  have hmore : ∀ line ∈ b.more, '\n' ∉ line := fun l h ↦ b.newline_not_mem l (by simp [h])
  refine newline_not_mem_markLast hafter (fun line hl ↦ ?_)
  rcases List.mem_cons.mp hl with rfl | hl
  · simp [hindent, hfirst, b.isToken.newline_not_mem]
  · exact hmore line hl

theorem WellFormed.newline_not_mem (h : WellFormed closed parts) :
    ∀ line ∈ parts.flatMap Part.lines, '\n' ∉ line := by
  induction parts generalizing closed with
  | nil => exact fun _ hl ↦ absurd hl List.not_mem_nil
  | cons part parts ih =>
    intro line hl
    rw [List.flatMap_cons, List.mem_append] at hl
    cases part with
    | filler filler =>
      rcases hl with hl | hl
      · exact List.mem_singleton.mp hl ▸ h.1
      · exact ih h.2.2 line hl
    | block b =>
      rcases hl with hl | hl
      · exact b.newline_not_mem_lines line hl
      · exact ih h.2.2 line hl

theorem draft_textOf (h : WellFormed closed parts) :
    draft (textOf parts) = (parts.flatMap Part.lines).foldl Draft.feed Draft.start := by
  rw [draft, Template.lines, textOf, String.toList_ofList]
  by_cases hne : parts.flatMap Part.lines = []
  · -- An empty text still is one line.
    rw [hne]
    rfl
  · rw [List.splitOn_intercalate '\n' h.newline_not_mem hne]

theorem text_done (kind : Section) (texts : List (List Char)) :
    (Slot.done texts.reverse).text kind = joined texts kind := by
  cases kind <;> simp [Slot.text, Slot.lines, joined]

/-- A well-formed template is read as what its sections say, whatever their order and whatever
stands between them. -/
theorem parse_textOf (h : WellFormed [] parts) :
    parse (textOf parts) = .ofFn (contentOf parts) := by
  refine PerSection.ext_get (fun kind ↦ ?_)
  rw [parse, Draft.finish, PerSection.get_ofFn, PerSection.get_ofFn, draft_textOf h,
    foldl_feed_parts h settled_start, contentOf]
  cases blockOf? kind parts with
  | none => cases kind <;> rfl
  | some b =>
    simp only [text_done]
    rw [Escape.decode, String.toList_ofList]

theorem parse_textOf_mixed :
    let tag : Block :=
      { kind := .tag, indent := " ".toList, word := "tAg:".toList, first := "v1 /".toList
        more := [], after := "\t".toList, isToken := by decide +kernel, isBlank_indent := by decide +kernel
        isBlank_after := by decide +kernel, unmarked := by decide +kernel
        newline_not_mem := by decide +kernel }
    let title : Block :=
      { kind := .title, indent := [], word := "TITLE:".toList, first := " a\\t".toList
        more := ["DESCRIPTION: b ".toList, "# c".toList], after := " //ASYNC_END d".toList
        isToken := by decide +kernel, isBlank_indent := by decide +kernel
        isBlank_after := by decide +kernel, unmarked := by decide +kernel
        newline_not_mem := by decide +kernel }
    let parts : List Part :=
      [.filler "// TITLE:".toList, .block tag, .filler "TAG: v2".toList, .block title]
    WellFormed [] parts ∧ parse (textOf parts) = .ofFn (contentOf parts) ∧
      PerSection.ofFn (contentOf parts) = ⟨"a\t DESCRIPTION: b # c", "", "v1 /"⟩ := by
  intro tag title parts
  have h : WellFormed [] parts := by decide +kernel
  exact ⟨h, parse_textOf h, by decide +kernel⟩

end Bulletin.Template
