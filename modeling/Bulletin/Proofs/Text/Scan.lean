import Bulletin.Text.Scan
import Mathlib.Data.List.Infix

namespace Bulletin.Text

variable {β : Type} {rule : Rule β} {s t : List Char}

theorem prefix_of_append_cons {w : List Char} {c : Char} (hc : c ∉ w) (h : w <+: s ++ c :: t) :
    w <+: s := by
  obtain ⟨rest, hrest⟩ := h
  rcases List.append_eq_append_iff.mp hrest with ⟨more, rfl, -⟩ | ⟨more, rfl, hmore⟩
  · exact List.prefix_append w more
  · cases more with
    | nil => simp
    | cons first more =>
      obtain ⟨rfl, -⟩ := List.cons.inj hmore
      simp at hc

def Rule.Fits (rule : Rule β) : Prop :=
  ∀ c s b n, rule c s = some (b, n) → n ≤ s.length

/-- A scan goes on behind a character, or behind all that stands for a value. -/
@[elab_as_elim]
theorem scan_induction (rule : Rule β) {motive : List Char → Prop} (nil : motive [])
    (plain : ∀ c s, rule c s = none → motive s → motive (c :: s))
    (found : ∀ c s b n, rule c s = some (b, n) → motive (s.drop n) → motive (c :: s))
    (s : List Char) : motive s := by
  induction hn : s.length using Nat.strong_induction_on generalizing s with
  | _ k ih =>
    cases s with
    | nil => exact nil
    | cons c s =>
      rw [List.length_cons] at hn
      cases hr : rule c s with
      | none => exact plain c s hr (ih s.length (by omega) s rfl)
      | some value =>
        obtain ⟨b, n⟩ := value
        refine found c s b n hr (ih _ ?_ _ rfl)
        rw [List.length_drop]
        omega

/-- A text is scanned on its own if no value that begins in it depends on what follows it. -/
theorem scan_append (hfits : rule.Fits)
    (h : ∀ c u, c :: u <:+ s → rule c (u ++ t) = rule c u) :
    scan rule (s ++ t) = scan rule s ++ scan rule t := by
  induction s using scan_induction rule with
  | nil => rfl
  | plain c s hr ih =>
    have hr' : rule c (s ++ t) = none := (h c s (List.suffix_refl _)).trans hr
    rw [List.cons_append, scan_cons_of_eq_none hr', scan_cons_of_eq_none hr, List.cons_append,
      ih (fun c' u hu ↦ h c' u (hu.trans (List.suffix_cons c s)))]
  | found c s b n hr ih =>
    have hr' : rule c (s ++ t) = some (b, n) := (h c s (List.suffix_refl _)).trans hr
    have hdrop : (s ++ t).drop n = s.drop n ++ t :=
      List.drop_append_of_le_length (hfits c s b n hr)
    have hsuffix : s.drop n <:+ c :: s := (List.drop_suffix n s).trans (List.suffix_cons c s)
    rw [List.cons_append, scan_cons_of_eq_some hr', scan_cons_of_eq_some hr, List.cons_append,
      hdrop, ih (fun c' u hu ↦ h c' u (hu.trans hsuffix))]

theorem scan_eq_map_plain (h : ∀ c u, c :: u <:+ s → rule c u = none) :
    scan rule s = s.map .plain := by
  induction s with
  | nil => rfl
  | cons c s ih =>
    rw [scan_cons_of_eq_none (h c s (List.suffix_refl _)), List.map_cons,
      ih (fun c' u hu ↦ h c' u (hu.trans (List.suffix_cons c s)))]

theorem length_scan_le (rule : Rule β) (s : List Char) : (scan rule s).length ≤ s.length := by
  induction s using scan_induction rule with
  | nil => exact Nat.le_refl 0
  | plain c s hr ih =>
    rw [scan_cons_of_eq_none hr]
    exact Nat.succ_le_succ ih
  | found c s b n hr ih =>
    rw [scan_cons_of_eq_some hr]
    exact Nat.succ_le_succ (ih.trans (List.drop_suffix n s).length_le)

theorem render_append (value : β → List Char) (pieces more : List (Piece β)) :
    render value (pieces ++ more) = render value pieces ++ render value more :=
  List.flatMap_append

theorem render_congr {value value' : β → List Char} {pieces : List (Piece β)}
    (h : ∀ b, .found b ∈ pieces → value b = value' b) :
    render value pieces = render value' pieces := by
  induction pieces with
  | nil => rfl
  | cons piece pieces ih =>
    have hpieces := ih (fun b hb ↦ h b (List.mem_cons_of_mem piece hb))
    cases piece with
    | plain c => rw [render_plain, render_plain, hpieces]
    | found b => rw [render_found, render_found, hpieces, h b List.mem_cons_self]

theorem render_map_plain (value : β → List Char) (s : List Char) :
    render value (s.map .plain) = s := by
  rw [render, List.flatMap_map]
  exact List.flatMap_singleton' s

end Bulletin.Text
