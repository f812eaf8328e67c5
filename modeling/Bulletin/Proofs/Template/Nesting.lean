import Bulletin.Proofs.Template.Recovery
import Mathlib.Data.List.Induction
import Mathlib.Data.List.Infix

namespace Bulletin

open Text

variable {d : Draft} {kind top other : Section} {line raw rest : List Char}
  {texts : List (List Char)} {slot : Slot}

namespace Section

theorem Precedes.trans {a b c : Section} (h : a.Precedes b) (h' : b.Precedes c) : a.Precedes c :=
  Nat.lt_trans h h'

theorem Precedes.asymm (h : kind.Precedes other) : ¬other.Precedes kind :=
  Nat.lt_asymm h

theorem exists_of_opening? (h : kind.opening? line = some rest) :
    ∃ word, kind.IsToken word ∧ line = word ++ rest := by
  rw [opening?] at h
  split at h
  · rename_i hword
    cases h
    exact ⟨_, hword, (List.take_append_drop _ line).symm⟩
  · cases h

theorem opens_of_opening? (h : kind.opening? line = some rest) : kind.Opens line := by
  obtain ⟨word, hword, rfl⟩ := exists_of_opening? h
  exact ⟨word, rest, hword, rfl⟩

end Section

namespace Slot

def lines? : Slot → Option (List (List Char))
  | idle => none
  | collecting lines => some lines
  | done lines => some lines

theorem lines?_eq_none_iff : slot.lines? = none ↔ slot = .idle := by
  cases slot <;> simp [lines?]

theorem lines_eq_getD (slot : Slot) : slot.lines = slot.lines?.getD [] := by
  cases slot <;> rfl

theorem ne_idle_of_isCollecting (h : slot.isCollecting) : slot ≠ .idle := by
  rintro rfl
  cases h

theorem lines?_close (line : List Char) (texts : List (List Char)) :
    (close line texts).lines? = some texts := by
  rw [close]
  split <;> rfl

theorem close_trim (raw : List Char) (texts : List (List Char)) : close (trim raw) texts =
    if Marker.chars <:+: raw then .done texts else .collecting texts := by
  rw [close]
  simp only [Marker.occursIn_iff, Marker.infix_trim_iff]

theorem isCollecting_close (line : List Char) (texts : List (List Char)) :
    (close line texts).isCollecting = !Marker.occursIn line := by
  rw [close]
  cases Marker.occursIn line <;> rfl

end Slot

namespace Draft

/-- An idle section is opened by a line with its token, if all sections that are open come behind
it. -/
theorem feed_of_opening (hidle : d.get kind = .idle)
    (hopen : ∀ other, (d.get other).isCollecting → kind.Precedes other)
    (hrest : kind.opening? (trim raw) = some rest) :
    d.feed raw = d.set kind (Slot.close (trim raw) [trim (Marker.erase rest)]) := by
  have htake : (d.get kind).take? kind (trim raw) =
      some (Slot.close (trim raw) [trim (Marker.erase rest)]) := by
    rw [hidle, Slot.take?, hrest, Option.map_some]
  rw [feed_eq_offer, offer_eq_set htake]
  intro other hother
  refine Slot.take?_eq_none ?_ (fun hopens ↦ ?_)
  · rw [Bool.eq_false_iff]
    exact fun hc ↦ hother.asymm (hopen other hc)
  · obtain rfl := hopens.unique (Section.opens_of_opening? hrest)
    exact Nat.lt_irrefl _ hother

/-- The first of the sections that are open takes a line that opens none of those before it. -/
theorem feed_of_collecting (htop : d.get top = .collecting texts)
    (hopen : ∀ other, (d.get other).isCollecting → other = top ∨ top.Precedes other)
    (hnone : ∀ other, d.get other = .idle → other.Precedes top → ¬other.Opens (trim raw)) :
    d.feed raw = d.set top (Slot.close (trim raw) (trim (Marker.before (trim raw)) :: texts)) := by
  have htake : (d.get top).take? top (trim raw) =
      some (Slot.close (trim raw) (trim (Marker.before (trim raw)) :: texts)) := by
    rw [htop, Slot.take?]
    split
    · rfl
    · rename_i hm
      rw [Marker.before_of_unmarked (fun h ↦ hm (Marker.occursIn_iff.mpr h)), trim_trim]
  rw [feed_eq_offer, offer_eq_set htake]
  intro other hother
  cases hslot : d.get other with
  | idle => exact Slot.take?_idle (hnone other hslot hother)
  | done lines => rfl
  | collecting lines =>
    rcases hopen other (by rw [hslot]; rfl) with rfl | h
    · exact absurd hother (Nat.lt_irrefl _)
    · exact absurd hother h.asymm

theorem feed_of_not_collecting (hopen : ∀ other, (d.get other).isCollecting = false)
    (hnone : ∀ other, d.get other = .idle → ¬other.Opens (trim raw)) : d.feed raw = d := by
  rw [feed_eq_offer]
  refine offer_eq_self (fun kind ↦ ?_)
  cases hslot : d.get kind with
  | idle => exact Slot.take?_idle (hnone kind hslot)
  | done lines => rfl
  | collecting lines =>
    have h := hopen kind
    rw [hslot] at h
    cases h

/-- The sections that are opened on the way from one draft to another. -/
def opened (d d' : Draft) : List Section :=
  Section.all.filter fun kind ↦ d.get kind = .idle ∧ d'.get kind ≠ .idle

theorem mem_opened_iff {d' : Draft} :
    kind ∈ d.opened d' ↔ d.get kind = .idle ∧ d'.get kind ≠ .idle := by
  simp [opened, kind.mem_all]

theorem opened_set_of_idle (h : d.get kind = .idle) (hs : slot ≠ .idle) :
    d.opened (d.set kind slot) = [kind] := by
  have hkeep (other : Section) : (d.get other = .idle ∧ (d.set kind slot).get other ≠ .idle) ↔
      other = kind := by
    rw [PerSection.get_set]
    split
    · rename_i he
      simp [he, h, hs]
    · rename_i hne
      simp_all
  simp only [opened, hkeep]
  cases kind <;> rfl

theorem opened_set_of_ne (h : d.get kind ≠ .idle) : d.opened (d.set kind slot) = [] := by
  rw [opened, List.filter_eq_nil_iff]
  intro other _
  rw [PerSection.get_set]
  split
  · rename_i he
    simp [he, h]
  · simp

theorem opened_self (d : Draft) : d.opened d = [] := by
  simp [opened]

end Draft

namespace Template

/-- A draft and all sections that have been opened on the way to it, in the order of opening. -/
structure History where
  draft : Draft
  opened : List Section

namespace History

def start : History :=
  ⟨.start, []⟩

def feed (h : History) (raw : List Char) : History :=
  ⟨h.draft.feed raw, h.opened ++ h.draft.opened (h.draft.feed raw)⟩

def ofLines (lines : List (List Char)) : History :=
  lines.foldl feed start

def stillOpen (h : History) : List Section :=
  h.opened.filter fun kind ↦ (h.draft.get kind).isCollecting

def Opens (h : History) (kind : Section) (raw : List Char) : Prop :=
  kind ∈ h.draft.opened (h.draft.feed raw)

/-- What a line does if the sections are a stack, with the one on top that has been opened last and
is still open. -/
structure IsStack (h : History) (raw : List Char) : Prop where
  opens_iff : ∀ kind, h.Opens kind raw ↔ h.draft.get kind = .idle ∧ kind.Opens (trim raw) ∧
    ∀ top, h.stillOpen.getLast? = some top → kind.Precedes top
  push : ∀ kind, h.Opens kind raw → ∃ word rest, kind.IsToken word ∧ trim raw = word ++ rest ∧
    h.draft.feed raw = h.draft.set kind (if Marker.chars <:+: raw
      then .done [trim (Marker.erase rest)] else .collecting [trim (Marker.erase rest)])
  pop : ∀ top, h.stillOpen.getLast? = some top → (∀ kind, ¬h.Opens kind raw) →
    ∃ texts, h.draft.get top = .collecting texts ∧
      h.draft.feed raw = h.draft.set top (if Marker.chars <:+: raw
        then .done (trim (Marker.before (trim raw)) :: texts)
        else .collecting (trim (Marker.before (trim raw)) :: texts))
  changes_iff : h.stillOpen = [] → (h.draft.feed raw ≠ h.draft ↔
    ∃ kind, h.draft.get kind = .idle ∧ kind.Opens (trim raw))

end History

/-- A reader that keeps the sections that are open on a stack, the innermost first, and beside it
the lines of all sections that have been opened, the latest first. -/
structure Nesting where
  stack : List Section
  texts : PerSection (Option (List (List Char)))
  deriving DecidableEq

namespace Nesting

def start : Nesting :=
  ⟨[], ⟨none, none, none⟩⟩

/-- A section that has not been opened may open inside one that it precedes. -/
def MayOpen (n : Nesting) (kind : Section) : Prop :=
  n.texts.get kind = none ∧ ∀ top ∈ n.stack.head?, kind.Precedes top

instance (n : Nesting) (kind : Section) : Decidable (n.MayOpen kind) :=
  inferInstanceAs (Decidable (_ ∧ _))

def opening? (n : Nesting) (line : List Char) : Option (Section × List Char) :=
  Section.all.findSome? fun kind ↦
    if n.MayOpen kind then (kind.opening? line).map (kind, ·) else none

/-- Reads one line. A section goes on the stack when it is opened and leaves it with an end mark;
one that has both on its first line never gets there. -/
def feed (n : Nesting) (raw : List Char) : Nesting :=
  let line := trim raw
  match n.opening? line, n.stack with
  | some (kind, rest), stack =>
    ⟨if Marker.occursIn line then stack else kind :: stack,
      n.texts.set kind (some [trim (Marker.erase rest)])⟩
  | none, [] => n
  | none, top :: below =>
    ⟨if Marker.occursIn line then below else top :: below,
      n.texts.set top ((n.texts.get top).map (trim (Marker.before line) :: ·))⟩

def ofLines (lines : List (List Char)) : Nesting :=
  lines.foldl feed start

def finish (n : Nesting) : Release :=
  .ofFn fun kind ↦
    Escape.decode (String.ofList (joined ((n.texts.get kind).getD []).reverse kind))

end Nesting

variable {n : Nesting} {h : History} {below : List Section}

theorem Nesting.opening?_eq_some (ho : n.opening? line = some (kind, rest)) :
    n.MayOpen kind ∧ kind.opening? line = some rest := by
  obtain ⟨found, -, hf⟩ := List.exists_of_findSome?_eq_some ho
  split at hf
  · rename_i hmay
    obtain ⟨text, ht, he⟩ := Option.map_eq_some_iff.mp hf
    cases he
    exact ⟨hmay, ht⟩
  · cases hf

theorem Nesting.opening?_eq_none (ho : n.opening? line = none) (hmay : n.MayOpen kind) :
    ¬kind.Opens line := by
  rintro ⟨word, text, hw, rfl⟩
  have hnone := List.findSome?_eq_none_iff.mp ho kind kind.mem_all
  rw [if_pos hmay, Section.opening?_append hw] at hnone
  cases hnone

theorem Nesting.feed_of_opening (ho : n.opening? (trim raw) = some (kind, rest)) :
    n.feed raw = ⟨if Marker.occursIn (trim raw) then n.stack else kind :: n.stack,
      n.texts.set kind (some [trim (Marker.erase rest)])⟩ := by
  rw [Nesting.feed]
  simp only [ho]

theorem Nesting.feed_of_cons (ho : n.opening? (trim raw) = none) (hs : n.stack = top :: below) :
    n.feed raw = ⟨if Marker.occursIn (trim raw) then below else top :: below,
      n.texts.set top ((n.texts.get top).map (trim (Marker.before (trim raw)) :: ·))⟩ := by
  rw [Nesting.feed]
  simp only [ho, hs]

theorem Nesting.feed_of_nil (ho : n.opening? (trim raw) = none) (hs : n.stack = []) :
    n.feed raw = n := by
  rw [Nesting.feed]
  simp only [ho, hs]

/-- A stack of sections tells the state of a draft and the order in which it came about. -/
structure Nesting.Tells (n : Nesting) (h : History) : Prop where
  texts_eq : ∀ kind, n.texts.get kind = (h.draft.get kind).lines?
  sorted : n.stack.Pairwise Section.Precedes
  stillOpen_eq : h.stillOpen = n.stack.reverse
  mem_opened_iff : ∀ kind, kind ∈ h.opened ↔ h.draft.get kind ≠ .idle

namespace Nesting.Tells

theorem start : Nesting.start.Tells .start where
  texts_eq kind := by cases kind <;> rfl
  sorted := .nil
  stillOpen_eq := rfl
  mem_opened_iff kind := by cases kind <;> simp [History.start, Draft.start, PerSection.get]

theorem mem_stack_iff (ht : n.Tells h) (kind : Section) :
    kind ∈ n.stack ↔ (h.draft.get kind).isCollecting := by
  rw [← List.mem_reverse, ← ht.stillOpen_eq, History.stillOpen, List.mem_filter, ht.mem_opened_iff]
  exact and_iff_right_of_imp Slot.ne_idle_of_isCollecting

theorem mayOpen_iff (ht : n.Tells h) (kind : Section) : n.MayOpen kind ↔
    h.draft.get kind = .idle ∧ ∀ other, (h.draft.get other).isCollecting → kind.Precedes other := by
  have hsorted := ht.sorted
  have hmem := ht.mem_stack_iff
  rw [MayOpen, ht.texts_eq, Slot.lines?_eq_none_iff]
  refine and_congr_right (fun _ ↦ ?_)
  cases hs : n.stack with
  | nil =>
    simp only [hs, List.not_mem_nil, false_iff] at hmem
    simp [hmem]
  | cons top below =>
    rw [hs, List.pairwise_cons] at hsorted
    simp only [hs, List.mem_cons] at hmem
    simp only [List.head?_cons, Option.mem_some_iff, forall_eq']
    refine ⟨fun hk other ho ↦ ?_, fun hk ↦ hk top ((hmem top).mp (Or.inl rfl))⟩
    rcases (hmem other).mpr ho with rfl | hb
    · exact hk
    · exact hk.trans (hsorted.1 other hb)

theorem getLast?_stillOpen (ht : n.Tells h) : h.stillOpen.getLast? = n.stack.head? := by
  rw [ht.stillOpen_eq, List.getLast?_reverse]

theorem feed_opening (ht : n.Tells h) (ho : n.opening? (trim raw) = some (kind, rest)) :
    h.draft.get kind = .idle ∧ h.draft.feed raw =
      h.draft.set kind (Slot.close (trim raw) [trim (Marker.erase rest)]) := by
  obtain ⟨hmay, hrest⟩ := opening?_eq_some ho
  obtain ⟨hidle, hopen⟩ := (ht.mayOpen_iff kind).mp hmay
  exact ⟨hidle, Draft.feed_of_opening hidle hopen hrest⟩

theorem feed_top (ht : n.Tells h) (ho : n.opening? (trim raw) = none)
    (hs : n.stack = top :: below) :
    ∃ texts, h.draft.get top = .collecting texts ∧ h.draft.feed raw =
      h.draft.set top (Slot.close (trim raw) (trim (Marker.before (trim raw)) :: texts)) := by
  have hsorted := ht.sorted
  rw [hs, List.pairwise_cons] at hsorted
  have hopen : ∀ other, (h.draft.get other).isCollecting → other = top ∨ top.Precedes other := by
    intro other hc
    have hmem := (ht.mem_stack_iff other).mpr hc
    rw [hs, List.mem_cons] at hmem
    exact hmem.imp_right (hsorted.1 other)
  have hcollecting := (ht.mem_stack_iff top).mp (hs ▸ List.mem_cons_self)
  cases hslot : h.draft.get top with
  | idle => simp [hslot, Slot.isCollecting] at hcollecting
  | done texts => simp [hslot, Slot.isCollecting] at hcollecting
  | collecting texts =>
    refine ⟨texts, rfl, Draft.feed_of_collecting hslot hopen (fun other hidle hbefore ↦ ?_)⟩
    refine opening?_eq_none ho ((ht.mayOpen_iff other).mpr ⟨hidle, fun third hc ↦ ?_⟩)
    rcases hopen third hc with rfl | hafter
    · exact hbefore
    · exact hbefore.trans hafter

theorem feed_outside (ht : n.Tells h) (ho : n.opening? (trim raw) = none) (hs : n.stack = []) :
    h.draft.feed raw = h.draft := by
  have hclosed : ∀ other, (h.draft.get other).isCollecting = false := by
    intro other
    rw [Bool.eq_false_iff, ne_eq, ← ht.mem_stack_iff, hs]
    exact List.not_mem_nil
  refine Draft.feed_of_not_collecting hclosed (fun other hidle ↦ ?_)
  refine opening?_eq_none ho ((ht.mayOpen_iff other).mpr ⟨hidle, fun third hc ↦ ?_⟩)
  rw [hclosed] at hc
  cases hc

theorem stillOpen_opening (ht : n.Tells h) (hidle : h.draft.get kind = .idle) (hslot : slot ≠ .idle)
    (hfeed : h.draft.feed raw = h.draft.set kind slot) :
    (h.feed raw).stillOpen = h.stillOpen ++ if slot.isCollecting then [kind] else [] := by
  have hkeep : ∀ other ∈ h.opened, ((h.draft.set kind slot).get other).isCollecting =
      (h.draft.get other).isCollecting := by
    intro other hmem
    have hne : other ≠ kind := by
      rintro rfl
      exact (ht.mem_opened_iff other).mp hmem hidle
    rw [PerSection.get_set, if_neg hne]
  rw [History.stillOpen, History.feed, hfeed, Draft.opened_set_of_idle hidle hslot,
    List.filter_append, List.filter_congr hkeep, ← History.stillOpen]
  simp [List.filter_cons]

theorem stillOpen_top (htop : (h.draft.get top).isCollecting)
    (hfeed : h.draft.feed raw = h.draft.set top slot) :
    (h.feed raw).stillOpen =
      if slot.isCollecting then h.stillOpen else h.stillOpen.filter (· ≠ top) := by
  rw [History.stillOpen, History.feed, hfeed,
    Draft.opened_set_of_ne (Slot.ne_idle_of_isCollecting htop), List.append_nil]
  split
  · rename_i hs
    refine List.filter_congr (fun other _ ↦ ?_)
    rw [PerSection.get_set]
    split
    · rename_i he
      rw [he, hs, htop]
    · rfl
  · rename_i hs
    rw [History.stillOpen, List.filter_filter]
    refine List.filter_congr (fun other _ ↦ ?_)
    rw [PerSection.get_set]
    split
    · rename_i he
      simpa [he] using hs
    · rename_i hne
      simp [hne]

theorem mem_opened_set_iff (ht : n.Tells h) (hslot : slot ≠ .idle)
    (hfeed : h.draft.feed raw = h.draft.set top slot) (kind : Section) :
    kind ∈ (h.feed raw).opened ↔ (h.feed raw).draft.get kind ≠ .idle := by
  rw [History.feed, hfeed, List.mem_append, ht.mem_opened_iff, Draft.mem_opened_iff,
    PerSection.get_set]
  split
  · by_cases hidle : h.draft.get kind = .idle <;> simp [hidle, hslot]
  · simp

theorem set (ht : n.Tells h) {stack : List Section} (hslot : slot.lines? = some texts)
    (hfeed : h.draft.feed raw = h.draft.set top slot)
    (hsorted : stack.Pairwise Section.Precedes) (hopen : (h.feed raw).stillOpen = stack.reverse) :
    Nesting.Tells ⟨stack, n.texts.set top (some texts)⟩ (h.feed raw) := by
  have hne : slot ≠ .idle := by
    rintro rfl
    cases hslot
  refine ⟨fun kind ↦ ?_, hsorted, hopen, ht.mem_opened_set_iff hne hfeed⟩
  rw [History.feed, hfeed, PerSection.get_set, PerSection.get_set]
  split
  · exact hslot.symm
  · exact ht.texts_eq kind

theorem push (ht : n.Tells h) (ho : n.opening? (trim raw) = some (kind, rest)) :
    (n.feed raw).Tells (h.feed raw) := by
  obtain ⟨hidle, hfeed⟩ := ht.feed_opening ho
  have hlines := Slot.lines?_close (trim raw) [trim (Marker.erase rest)]
  have hne : Slot.close (trim raw) [trim (Marker.erase rest)] ≠ .idle := by
    rw [ne_eq, ← Slot.lines?_eq_none_iff, hlines]
    exact Option.some_ne_none _
  have hbefore : ∀ other ∈ n.stack, kind.Precedes other := fun other hm ↦
    ((ht.mayOpen_iff kind).mp (opening?_eq_some ho).1).2 other ((ht.mem_stack_iff other).mp hm)
  rw [Nesting.feed_of_opening ho]
  refine ht.set hlines hfeed ?_ ?_
  · split
    · exact ht.sorted
    · exact List.pairwise_cons.mpr ⟨hbefore, ht.sorted⟩
  · rw [ht.stillOpen_opening hidle hne hfeed, Slot.isCollecting_close, ht.stillOpen_eq]
    cases Marker.occursIn (trim raw) <;> simp

theorem append (ht : n.Tells h) (ho : n.opening? (trim raw) = none) (hs : n.stack = top :: below) :
    (n.feed raw).Tells (h.feed raw) := by
  obtain ⟨texts, htop, hfeed⟩ := ht.feed_top ho hs
  have htexts : n.texts.get top = some texts := by
    rw [ht.texts_eq, htop]
    rfl
  have hcollecting : (h.draft.get top).isCollecting := by
    rw [htop]
    rfl
  have hsorted := ht.sorted
  rw [hs, List.pairwise_cons] at hsorted
  have hnot : ∀ other ∈ below, other ≠ top := by
    rintro other hm rfl
    exact Nat.lt_irrefl _ (hsorted.1 other hm)
  rw [Nesting.feed_of_cons ho hs, htexts]
  refine ht.set (Slot.lines?_close _ _) hfeed ?_ ?_
  · split
    · exact hsorted.2
    · exact List.pairwise_cons.mpr hsorted
  · rw [stillOpen_top hcollecting hfeed, Slot.isCollecting_close, ht.stillOpen_eq, hs]
    cases Marker.occursIn (trim raw) with
    | false => rfl
    | true => simpa using hnot

theorem feed (ht : n.Tells h) (raw : List Char) : (n.feed raw).Tells (h.feed raw) := by
  cases ho : n.opening? (trim raw) with
  | some found => exact ht.push ho
  | none =>
    cases hs : n.stack with
    | cons top below => exact ht.append ho hs
    | nil =>
      have hh : h.feed raw = h := by
        rw [History.feed, ht.feed_outside ho hs, Draft.opened_self, List.append_nil]
      rw [Nesting.feed_of_nil ho hs, hh]
      exact ht

theorem ofLines (lines : List (List Char)) :
    (Nesting.ofLines lines).Tells (.ofLines lines) := by
  induction lines using List.reverseRecOn with
  | nil => exact start
  | append_singleton lines raw ih =>
    rw [Nesting.ofLines, History.ofLines, List.foldl_append, List.foldl_append]
    exact ih.feed raw

theorem mayOpen_iff_getLast? (ht : n.Tells h) (kind : Section) : n.MayOpen kind ↔
    h.draft.get kind = .idle ∧ ∀ top, h.stillOpen.getLast? = some top → kind.Precedes top := by
  rw [MayOpen, ht.texts_eq, Slot.lines?_eq_none_iff, ht.getLast?_stillOpen]
  rfl

theorem opens_iff (ht : n.Tells h) (raw : List Char) (kind : Section) :
    h.Opens kind raw ↔ ∃ rest, n.opening? (trim raw) = some (kind, rest) := by
  cases ho : n.opening? (trim raw) with
  | some found =>
    obtain ⟨first, rest⟩ := found
    obtain ⟨hidle, hfeed⟩ := ht.feed_opening ho
    have hne : Slot.close (trim raw) [trim (Marker.erase rest)] ≠ .idle := by
      rw [ne_eq, ← Slot.lines?_eq_none_iff, Slot.lines?_close]
      exact Option.some_ne_none _
    rw [History.Opens, hfeed, Draft.opened_set_of_idle hidle hne, List.mem_singleton]
    exact ⟨fun he ↦ ⟨rest, he ▸ rfl⟩, fun ⟨_, he⟩ ↦ by cases he; rfl⟩
  | none =>
    have hsame : h.draft.opened (h.draft.feed raw) = [] := by
      cases hs : n.stack with
      | nil => rw [ht.feed_outside ho hs, Draft.opened_self]
      | cons top below =>
        obtain ⟨texts, htop, hfeed⟩ := ht.feed_top ho hs
        rw [hfeed, Draft.opened_set_of_ne (by rw [htop]; exact Slot.noConfusion)]
    rw [History.Opens, hsame]
    simp

theorem isStack (ht : n.Tells h) (raw : List Char) : h.IsStack raw where
  opens_iff kind := by
    rw [ht.opens_iff, and_left_comm, ← ht.mayOpen_iff_getLast?]
    refine ⟨fun ⟨rest, ho⟩ ↦ ?_, fun ⟨hopens, hmay⟩ ↦ ?_⟩
    · obtain ⟨hmay, hrest⟩ := opening?_eq_some ho
      exact ⟨Section.opens_of_opening? hrest, hmay⟩
    · cases ho : n.opening? (trim raw) with
      | none => exact absurd hopens (opening?_eq_none ho hmay)
      | some found =>
        obtain ⟨first, rest⟩ := found
        have hfirst := Section.opens_of_opening? (opening?_eq_some ho).2
        exact ⟨rest, by rw [hopens.unique hfirst]⟩
  push kind hopens := by
    obtain ⟨rest, ho⟩ := (ht.opens_iff raw kind).mp hopens
    obtain ⟨word, hword, hline⟩ := Section.exists_of_opening? (opening?_eq_some ho).2
    exact ⟨word, rest, hword, hline, by rw [(ht.feed_opening ho).2, Slot.close_trim]⟩
  pop top htop hnone := by
    obtain ⟨below, hs⟩ := List.head?_eq_some_iff.mp (ht.getLast?_stillOpen ▸ htop)
    have ho : n.opening? (trim raw) = none := by
      refine Option.eq_none_iff_forall_ne_some.mpr (fun found ho ↦ ?_)
      exact hnone found.1 ((ht.opens_iff raw found.1).mpr ⟨found.2, ho⟩)
    obtain ⟨texts, hslot, hfeed⟩ := ht.feed_top ho hs
    exact ⟨texts, hslot, by rw [hfeed, Slot.close_trim]⟩
  changes_iff hempty := by
    have hs : n.stack = [] := by
      rw [ht.stillOpen_eq] at hempty
      exact List.reverse_eq_nil_iff.mp hempty
    refine ⟨fun hne ↦ ?_, fun ⟨kind, hidle, hopens⟩ hsame ↦ ?_⟩
    · cases ho : n.opening? (trim raw) with
      | none => exact absurd (ht.feed_outside ho hs) hne
      | some found =>
        exact ⟨found.1, (ht.feed_opening ho).1,
          Section.opens_of_opening? (opening?_eq_some ho).2⟩
    · cases ho : n.opening? (trim raw) with
      | none =>
        have hmay : n.MayOpen kind := by
          rw [ht.mayOpen_iff_getLast?, hempty]
          exact ⟨hidle, fun _ hnone ↦ by cases hnone⟩
        exact opening?_eq_none ho hmay hopens
      | some found =>
        have hopened := (ht.opens_iff raw found.1).mpr ⟨found.2, ho⟩
        rw [History.Opens, hsame, Draft.opened_self] at hopened
        cases hopened

end Nesting.Tells

theorem History.draft_ofLines (lines : List (List Char)) :
    (History.ofLines lines).draft = lines.foldl Draft.feed Draft.start := by
  induction lines using List.reverseRecOn with
  | nil => rfl
  | append_singleton lines raw ih =>
    rw [History.ofLines, List.foldl_append, List.foldl_append, ← ih]
    rfl

/-- Between any two lines of a template, the sections that are open are a stack, in the order in
which they have been opened and each in front of those around it; and a reader that keeps this
stack reads the same release. -/
theorem parse_eq_nesting (text : String) :
    (∀ k, (History.ofLines ((lines text).take k)).stillOpen.Pairwise
        (fun outer inner ↦ inner.Precedes outer) ∧
      ∀ raw, (History.ofLines ((lines text).take k)).IsStack raw) ∧
    parse text = (Nesting.ofLines (lines text)).finish := by
  refine ⟨fun k ↦ ⟨?_, ?_⟩, ?_⟩
  · have ht := Nesting.Tells.ofLines ((lines text).take k)
    rw [ht.stillOpen_eq]
    exact List.pairwise_reverse.mpr ht.sorted
  · exact (Nesting.Tells.ofLines ((lines text).take k)).isStack
  · have ht := Nesting.Tells.ofLines (lines text)
    refine PerSection.ext_get (fun kind ↦ ?_)
    rw [parse, draft, Draft.finish, Nesting.finish, PerSection.get_ofFn, PerSection.get_ofFn,
      ht.texts_eq, ← Slot.lines_eq_getD, History.draft_ofLines, Escape.decode,
      String.toList_ofList]
    cases kind <;> rfl

example : Nesting.ofLines (lines "tag: a\nDescription: b\nTITLE: c//ASYNC_END\nTITLE: d") =
    ⟨[.description, .tag],
      ⟨some [['c']], some ["TITLE: d".toList, ['b']], some [['a']]⟩⟩ := by
  decide +kernel

end Template

end Bulletin
