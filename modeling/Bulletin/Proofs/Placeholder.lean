import Bulletin.Placeholder
import Bulletin.Proofs.Text.Scan
import Mathlib.Data.List.TakeWhile

namespace Bulletin

open Text

namespace Placeholder

variable {p q : Placeholder} {c : Char} {s t w : List Char} {n : ℕ}

/-- A token for a placeholder is its name in braces behind a dollar sign, with blanks around the
name or not. -/
def IsToken (p : Placeholder) (w : List Char) : Prop :=
  ∃ before after : List Char, (∀ c ∈ before, isBlank c) ∧ (∀ c ∈ after, isBlank c) ∧
    w = '$' :: '{' :: (before ++ (p.chars ++ (after ++ ['}'])))

theorem not_isBlank_of_mem_chars (hc : c ∈ p.chars) : ¬isBlank c := by
  have hall : ∀ p ∈ all, ∀ c ∈ p.chars, ¬isBlank c := by decide
  exact hall p p.mem_all c hc

theorem dollar_not_mem_chars (p : Placeholder) : '$' ∉ p.chars := by
  have hall : ∀ p ∈ all, '$' ∉ p.chars := by decide
  exact hall p p.mem_all

theorem exists_chars_eq_cons (p : Placeholder) : ∃ first name, p.chars = first :: name := by
  have hall : ∀ p ∈ all, p.chars ≠ [] := by decide
  exact List.exists_cons_of_ne_nil (hall p p.mem_all)

theorem eq_of_prefix (h : q.chars <+: p.chars ++ t) : q = p := by
  have hall : ∀ p ∈ all, ∀ q ∈ all, p.chars <+: q.chars → p = q := by decide
  rcases List.prefix_or_prefix_of_prefix h (List.prefix_append p.chars t) with hq | hp
  · exact hall q q.mem_all p p.mem_all hq
  · exact (hall p p.mem_all q q.mem_all hp).symm

theorem find?_chars_append (p : Placeholder) (t : List Char) :
    all.find? (·.chars.isPrefixOf (p.chars ++ t)) = some p := by
  obtain ⟨q, hq⟩ : ∃ q, all.find? (·.chars.isPrefixOf (p.chars ++ t)) = some q := by
    rw [← Option.isSome_iff_exists, List.find?_isSome]
    exact ⟨p, p.mem_all, List.isPrefixOf_iff_prefix.mpr (List.prefix_append _ _)⟩
  have hfound := List.find?_some hq
  rw [hq, eq_of_prefix (List.isPrefixOf_iff_prefix.mp hfound)]

theorem IsToken.exists_cons (h : p.IsToken w) : ∃ tail, w = '$' :: tail := by
  obtain ⟨before, after, -, -, rfl⟩ := h
  exact ⟨_, rfl⟩

theorem IsToken.dollar_not_mem (h : p.IsToken (c :: w)) : '$' ∉ w := by
  obtain ⟨before, after, hbefore, hafter, htoken⟩ := h
  obtain ⟨rfl, rfl⟩ := List.cons.inj htoken
  have hblank : ¬isBlank '$' := by decide
  have hb : '$' ∉ before := fun hm ↦ hblank (hbefore _ hm)
  have ha : '$' ∉ after := fun hm ↦ hblank (hafter _ hm)
  simp [hb, ha, p.dollar_not_mem_chars]

theorem takeWhile_isBlank (hw : ∀ c ∈ w, isBlank c) (hc : ¬isBlank c) (s : List Char) :
    (w ++ c :: s).takeWhile isBlank = w := by
  rw [List.takeWhile_append_of_pos hw, List.takeWhile_cons_of_neg hc, List.append_nil]

theorem dropWhile_isBlank (hw : ∀ c ∈ w, isBlank c) (hc : ¬isBlank c) (s : List Char) :
    (w ++ c :: s).dropWhile isBlank = c :: s := by
  rw [List.dropWhile_append_of_pos hw, List.dropWhile_cons_of_neg hc]

theorem rule_token_append (h : p.IsToken (c :: w)) (t : List Char) :
    rule c (w ++ t) = some (p, w.length) := by
  obtain ⟨before, after, hbefore, hafter, htoken⟩ := h
  obtain ⟨rfl, rfl⟩ := List.cons.inj htoken
  obtain ⟨first, name, hname⟩ := p.exists_chars_eq_cons
  have hfirst : ¬isBlank first := not_isBlank_of_mem_chars (hname ▸ List.mem_cons_self)
  have hclose : ¬isBlank '}' := by decide
  have hdrop : (before ++ (p.chars ++ (after ++ '}' :: t))).dropWhile isBlank =
      p.chars ++ (after ++ '}' :: t) := by
    rw [hname, List.cons_append]
    exact dropWhile_isBlank hbefore hfirst _
  have htake : (before ++ (p.chars ++ (after ++ '}' :: t))).takeWhile isBlank = before := by
    rw [hname, List.cons_append]
    exact takeWhile_isBlank hbefore hfirst _
  simp only [rule, if_true, braced?, List.cons_append, List.append_assoc, List.nil_append, hdrop,
    htake, find?_chars_append, List.drop_left, dropWhile_isBlank hafter hclose,
    takeWhile_isBlank hafter hclose, Option.some.injEq, Prod.mk.injEq, true_and,
    List.length_cons, List.length_append, List.length_nil]
  omega

theorem exists_token_of_braced? (h : braced? s = some (p, n)) :
    ∃ w rest, s = w ++ rest ∧ n = w.length ∧ p.IsToken ('$' :: w) := by
  unfold braced? at h
  split at h
  · rename_i s
    dsimp only at h
    split at h
    · cases h
    · rename_i q hq
      have hfound := List.find?_some hq
      obtain ⟨after, hafter⟩ := List.isPrefixOf_iff_prefix.mp hfound
      rw [← hafter, List.drop_left] at h
      split at h
      · rename_i rest hrest
        obtain ⟨rfl, rfl⟩ := Prod.mk.inj (Option.some.inj h)
        have hs : s = s.takeWhile isBlank ++ (q.chars ++ (after.takeWhile isBlank ++
            '}' :: rest)) := by
          rw [← hrest, List.takeWhile_append_dropWhile, hafter, List.takeWhile_append_dropWhile]
        refine ⟨'{' :: (s.takeWhile isBlank ++ (q.chars ++ (after.takeWhile isBlank ++ ['}']))),
          rest, ?_, ?_, _, _, ?_, ?_, rfl⟩
        · simpa using hs
        · simp only [List.length_cons, List.length_append, List.length_nil]
          omega
        · exact fun c hc ↦ List.mem_takeWhile_imp hc
        · exact fun c hc ↦ List.mem_takeWhile_imp hc
      · cases h
  · cases h

theorem rule_eq_some_iff : rule c s = some (p, n) ↔
    ∃ w rest, s = w ++ rest ∧ n = w.length ∧ p.IsToken (c :: w) := by
  constructor
  · intro h
    rw [rule] at h
    split at h
    · rename_i hc
      rw [hc]
      exact exists_token_of_braced? h
    · cases h
  · rintro ⟨w, rest, rfl, rfl, hw⟩
    exact rule_token_append hw rest

theorem rule_eq_none_iff : rule c s = none ↔ ∀ p w, IsToken p w → ¬w <+: c :: s := by
  constructor
  · rintro h p w hw ⟨rest, hs⟩
    obtain ⟨tail, rfl⟩ := hw.exists_cons
    obtain ⟨rfl, rfl⟩ := List.cons.inj hs
    cases h.symm.trans (rule_token_append hw rest)
  · intro h
    cases hr : rule c s with
    | none => rfl
    | some found =>
      obtain ⟨w, rest, rfl, -, hw⟩ := rule_eq_some_iff.mp hr
      exact absurd (List.prefix_append (c :: w) rest) (h _ _ hw)

theorem rule_fits : Rule.Fits rule := by
  intro c s p n h
  obtain ⟨w, rest, rfl, rfl, -⟩ := rule_eq_some_iff.mp h
  rw [List.length_append]
  exact Nat.le_add_right _ _

theorem rule_append_dollar (c : Char) (s t : List Char) : rule c (s ++ '$' :: t) = rule c s := by
  cases hr : rule c s with
  | some found =>
    obtain ⟨p, n⟩ := found
    obtain ⟨w, rest, rfl, rfl, hw⟩ := rule_eq_some_iff.mp hr
    rw [List.append_assoc, rule_token_append hw]
  | none =>
    rw [rule_eq_none_iff] at hr ⊢
    intro p w hw hprefix
    apply hr p w hw
    obtain ⟨tail, rfl⟩ := hw.exists_cons
    obtain ⟨rfl, hrest⟩ := List.cons_prefix_cons.mp hprefix
    exact List.cons_prefix_cons.mpr ⟨rfl, prefix_of_append_cons hw.dollar_not_mem hrest⟩

/-- A token is found wherever it stands, and does not change what is found around it. -/
theorem scan_append_token (h : p.IsToken w) (s t : List Char) :
    scan rule (s ++ (w ++ t)) = scan rule s ++ .found p :: scan rule t := by
  obtain ⟨tail, rfl⟩ := h.exists_cons
  have hw : scan rule ('$' :: tail ++ t) = .found p :: scan rule t := by
    rw [List.cons_append, scan_cons_of_eq_some (rule_token_append h t), List.drop_left]
  rw [← hw]
  exact scan_append rule_fits (fun c u _ ↦ rule_append_dollar c u (tail ++ t))

theorem scan_of_no_token (h : ∀ p w, IsToken p w → ¬w <:+: s) : scan rule s = s.map .plain := by
  apply scan_eq_map_plain
  intro c u hsuffix
  rw [rule_eq_none_iff]
  intro p w hw hbegins
  exact h p w hw (hbegins.isInfix.trans hsuffix.isInfix)

theorem exists_token_of_found (h : .found p ∈ scan rule s) : ∃ w, p.IsToken w ∧ w <:+: s := by
  induction s using scan_induction rule with
  | nil => cases h
  | plain c s hr ih =>
    rw [scan_cons_of_eq_none hr] at h
    rcases List.mem_cons.mp h with hp | hlater
    · cases hp
    · obtain ⟨w, hw, hinfix⟩ := ih hlater
      exact ⟨w, hw, hinfix.trans (List.suffix_cons c s).isInfix⟩
  | found c s q n hr ih =>
    rw [scan_cons_of_eq_some hr] at h
    rcases List.mem_cons.mp h with hp | hlater
    · obtain rfl := Piece.found.inj hp
      obtain ⟨w, rest, rfl, -, hw⟩ := rule_eq_some_iff.mp hr
      exact ⟨c :: w, hw, (List.prefix_append (c :: w) rest).isInfix⟩
    · obtain ⟨w, hw, hinfix⟩ := ih hlater
      exact ⟨w, hw, hinfix.trans ((List.drop_suffix n s).trans (List.suffix_cons c s)).isInfix⟩

theorem ofName?_eq_some_iff {name : String} : ofName? name = some p ↔ p.name = name := by
  constructor
  · intro h
    simpa using List.find?_some h
  · rintro rfl
    cases p <;> rfl

def token (before name after : String) : String :=
  "$\x7b" ++ before ++ name ++ after ++ "\x7d"

theorem isToken_iff : p.IsToken w ↔ ∃ before name after : String, isAllBlank before ∧
    isAllBlank after ∧ ofName? name = some p ∧ w = (token before name after).toList := by
  constructor
  · rintro ⟨before, after, hbefore, hafter, rfl⟩
    refine ⟨.ofList before, p.name, .ofList after, ?_, ?_, ofName?_eq_some_iff.mpr rfl, ?_⟩
    · simpa [isAllBlank] using hbefore
    · simpa [isAllBlank] using hafter
    · simp [token, chars]
  · rintro ⟨before, name, after, hbefore, hafter, hname, rfl⟩
    obtain rfl := ofName?_eq_some_iff.mp hname
    refine ⟨before.toList, after.toList, ?_, ?_, ?_⟩
    · simpa [isAllBlank] using hbefore
    · simpa [isAllBlank] using hafter
    · simp [token, chars]

end Placeholder

namespace Values

theorem orFallback_eq (fallback : String) (text : Option String) :
    orFallback fallback text = if text.getD "" = "" then fallback else text.getD "" := by
  cases text with
  | none => rfl
  | some text =>
    rw [orFallback, Option.filter_some]
    by_cases h : text = "" <;> simp [h]

/-- Wherever a token stands, the value for its placeholder takes its place, and the texts around it
become what they become on their own. A text without a token stays as it is. -/
theorem apply_token (v : Values) :
    (∀ (a b before name after : String) (p : Placeholder), isAllBlank before → isAllBlank after →
      Placeholder.ofName? name = some p →
      v.apply (a ++ Placeholder.token before name after ++ b) = v.apply a ++ v.get p ++ v.apply b) ∧
    (∀ text : String, (∀ before name after p, isAllBlank before → isAllBlank after →
      Placeholder.ofName? name = some p →
      ¬(Placeholder.token before name after).toList <:+: text.toList) → v.apply text = text) ∧
    (v.get .readme = if v.readme.getD "" = "" then readmeFallback else v.readme.getD "") ∧
    (v.get .changelog =
      if v.changelog.getD "" = "" then changelogFallback else v.changelog.getD "") := by
  refine ⟨?_, ?_, orFallback_eq _ _, orFallback_eq _ _⟩
  · intro a b before name after p hbefore hafter hname
    have htoken := Placeholder.isToken_iff.mpr ⟨before, name, after, hbefore, hafter, hname, rfl⟩
    apply String.toList_injective
    simp only [String.toList_append, toList_apply, List.append_assoc]
    rw [Placeholder.scan_append_token htoken, render_append, render_found]
  · intro text h
    have hscan : scan Placeholder.rule text.toList = text.toList.map .plain := by
      apply Placeholder.scan_of_no_token
      intro p w hw
      obtain ⟨before, name, after, hbefore, hafter, hname, rfl⟩ := Placeholder.isToken_iff.mp hw
      exact h before name after p hbefore hafter hname
    rw [apply, hscan, render_map_plain, String.ofList_toList]

theorem apply_token_beside_fragments :
    let v : Values :=
      { context := ⟨"", "$\x7bCOMMIT_HASH\x7d $0 \\n//ASYNC_END", "", ""⟩
        readme := some "", changelog := none }
    let a := "$$\x7b README_MD"
    let b := "\x7d$\x7b"
    let text := "$\x7bcommit_hash\x7d $\x7b README\x7d $\x7bREPO"
    isAllBlank "\t\u2003" ∧ isAllBlank "\n" ∧ Placeholder.ofName? "REPO_NAME" = some .repoName ∧
      v.apply (a ++ Placeholder.token "\t\u2003" "REPO_NAME" "\n" ++ b) =
        v.apply a ++ "$\x7bCOMMIT_HASH\x7d $0 \\n//ASYNC_END" ++ v.apply b ∧
      v.apply text = text ∧ v.get .readme = readmeFallback ∧
      v.get .changelog = changelogFallback := by
  intro v a b text
  have hbefore : isAllBlank "\t\u2003" := by decide +kernel
  have hafter : isAllBlank "\n" := by decide +kernel
  have hname : Placeholder.ofName? "REPO_NAME" = some .repoName := by decide +kernel
  have hnone : ∀ p ∈ Placeholder.all, ¬p.chars <:+: text.toList := by decide +kernel
  obtain ⟨htoken, hplain, hreadme, hchangelog⟩ := apply_token v
  refine ⟨hbefore, hafter, hname, htoken a b _ _ _ .repoName hbefore hafter hname, hplain text ?_,
    hreadme.trans (if_pos rfl), hchangelog.trans (if_pos rfl)⟩
  intro before name after p _ _ hp hinfix
  obtain rfl := Placeholder.ofName?_eq_some_iff.mp hp
  apply hnone p p.mem_all
  refine List.IsInfix.trans ⟨("$\x7b" ++ before).toList, (after ++ "\x7d").toList, ?_⟩ hinfix
  simp [Placeholder.token, Placeholder.chars]

example : ["COMMIT_HASH", "REPO_NAME", "CONTRIBUTORS_SINCE", "WHATS_CHANGED_URL", "README_MD",
    "CHANGELOG_MD"].map Placeholder.ofName? = [some .commitHash, some .repoName,
      some .contributorsSince, some .whatsChangedUrl, some .readme, some .changelog] := by
  decide +kernel

example : ["$\x7bCOMMIT_HASH\x7d", "$\x7bREPO_NAME\x7d", "$\x7bCONTRIBUTORS_SINCE\x7d",
    "$\x7bWHATS_CHANGED_URL\x7d", "$\x7bREADME_MD\x7d", "$\x7bCHANGELOG_MD\x7d"].map
      (Values.apply ⟨⟨"hash", "repo", "nine", "url"⟩, none, some "log"⟩) =
    ["hash", "repo", "nine", "url", "README.md file not found.", "log"] := by
  decide +kernel

end Values

end Bulletin
