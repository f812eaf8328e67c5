import Bulletin.Section
import Bulletin.Proofs.Text.Blank

namespace Bulletin

namespace Section

open Text

variable {kind kind' : Section} {word rest line : List Char} {c : Char}

/-- A word is a section's token in any mixture of ASCII cases. -/
def IsToken (kind : Section) (word : List Char) : Prop :=
  word.map Char.toLower = kind.token.toList.map Char.toLower

instance (kind : Section) (word : List Char) : Decidable (kind.IsToken word) :=
  inferInstanceAs (Decidable (_ = _))

def Opens (kind : Section) (line : List Char) : Prop :=
  ∃ word rest, kind.IsToken word ∧ line = word ++ rest

/-- A section comes before another one if a line is offered to it first. -/
def Precedes (kind other : Section) : Prop :=
  all.idxOf kind < all.idxOf other

instance (kind other : Section) : Decidable (kind.Precedes other) :=
  inferInstanceAs (Decidable (_ < _))

theorem IsToken.length_eq (h : kind.IsToken word) : word.length = kind.token.toList.length := by
  simpa using congrArg List.length h

theorem IsToken.toLower_mem (h : kind.IsToken word) (hc : c ∈ word) :
    c.toLower ∈ kind.token.toList.map Char.toLower :=
  h ▸ List.mem_map_of_mem hc

theorem IsToken.ne_nil (h : kind.IsToken word) : word ≠ [] := by
  intro hw
  have hl := h.length_eq
  rw [hw] at hl
  cases kind <;> cases hl

theorem opening?_append (h : kind.IsToken word) (rest : List Char) :
    kind.opening? (word ++ rest) = some rest := by
  have hlen := h.length_eq
  rw [IsToken] at h
  rw [opening?, ← hlen, List.take_left, List.drop_left, if_pos h]

theorem opening?_eq_none (h : ¬kind.Opens line) : kind.opening? line = none := by
  rw [opening?]
  split
  · rename_i hword
    exact absurd ⟨_, _, hword, (List.take_append_drop _ line).symm⟩ h
  · rfl

instance (kind : Section) (line : List Char) : Decidable (kind.Opens line) :=
  decidable_of_iff (kind.opening? line ≠ none)
    ⟨fun h ↦ by_contra (fun hn ↦ h (opening?_eq_none hn)),
      fun ⟨_, rest, hw, hl⟩ ↦ by simp [hl, opening?_append hw rest]⟩

instance {p : Section → Prop} [DecidablePred p] : Decidable (∀ kind, p kind) :=
  decidable_of_iff (∀ kind ∈ all, p kind) ⟨fun h kind ↦ h kind kind.mem_all, fun h kind _ ↦ h kind⟩

theorem toLower_of_isBlank (h : isBlank c) : c.toLower = c := by
  refine dif_neg (fun hc ↦ ?_)
  obtain ⟨hlow, hhigh⟩ := hc
  have hl : 0x41 ≤ c.toNat := hlow
  have hh : c.toNat ≤ 0x5A := hhigh
  simp only [isBlank, Bool.or_eq_true, Bool.and_eq_true, decide_eq_true_eq, beq_iff_eq] at h
  omega

theorem IsToken.not_isBlank (h : kind.IsToken word) : ∀ c ∈ word, ¬isBlank c := by
  intro c hc hblank
  have hm := h.toLower_mem hc
  rw [toLower_of_isBlank hblank] at hm
  have hall : (kind.token.toList.map Char.toLower).any isBlank = false := by
    cases kind <;> decide
  exact List.any_eq_false.mp hall c hm hblank

theorem IsToken.not_mem (h : kind.IsToken word)
    (hc : ∀ kind : Section, c.toLower ∉ kind.token.toList.map Char.toLower) : c ∉ word :=
  fun hm ↦ hc kind (h.toLower_mem hm)

theorem IsToken.slash_not_mem (h : kind.IsToken word) : '/' ∉ word :=
  h.not_mem (fun kind ↦ by cases kind <;> decide)

theorem IsToken.newline_not_mem (h : kind.IsToken word) : '\n' ∉ word :=
  h.not_mem (fun kind ↦ by cases kind <;> decide)

theorem IsToken.trim_append (h : kind.IsToken word) (line : List Char) :
    trim (word ++ line) = word ++ trimEnd line := by
  have hstart := trimStart_of_not_blank h.not_isBlank
  have hend := trimEnd_of_not_blank h.not_isBlank
  rw [trim, trimStart_append_of_ne_nil hstart h.ne_nil, trimEnd_append hend]

/-- A line opens at most one section, which its first two characters tell. -/
theorem Opens.unique (h : kind.Opens line) (h' : kind'.Opens line) : kind = kind' := by
  obtain ⟨word, rest, hw, rfl⟩ := h
  obtain ⟨word', rest', hw', he⟩ := h'
  have htwo : ∀ kind : Section, 2 ≤ kind.token.toList.length := by
    intro kind
    cases kind <;> decide
  have hstart := congrArg (List.take 2) he
  rw [List.take_append_of_le_length (hw.length_eq ▸ htwo kind),
    List.take_append_of_le_length (hw'.length_eq ▸ htwo kind')] at hstart
  have hlower := congrArg (List.map Char.toLower) hstart
  rw [List.map_take, List.map_take, hw, hw'] at hlower
  revert hlower
  cases kind <;> cases kind' <;> decide

end Section

theorem PerSection.set_set {α : Type} (p : PerSection α) (kind : Section) (a b : α) :
    (p.set kind a).set kind b = p.set kind b := by
  cases kind <;> rfl

end Bulletin
