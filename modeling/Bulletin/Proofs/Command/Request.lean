import Bulletin.Proofs.Command.Reading

namespace Bulletin

def Context.settings (context : Context) : Command.Given :=
  [(.commitHash, context.commitHash), (.repoName, context.repoName),
    (.contributorsSince, context.contributorsSince), (.whatsChangedUrl, context.whatsChangedUrl)]

namespace Command

/-- A command line consists of some settings, the name of a command and more settings. Only those
of the program as a whole may be made before the name. -/
structure IsLine (name : String) (scope : Scope) (outer inner : Given) (arguments : List String) :
    Prop where
  exists_words : ∃ before behind, WritesAll outer before ∧ WritesAll inner behind ∧
    arguments = before ++ name :: behind
  outer_mem : ∀ option ∈ outer, option.1 ∈ Scope.settings .program
  inner_mem : ∀ option ∈ inner, option.1 ∈ scope.settings

variable {α : Type} {name : String} {scope : Scope} {setting : Setting}
  {given outer inner made : Given} {arguments : List String} {environment : Option String}
  {sink : String} {context : Context}

theorem bind_need_cases (given : Given) (setting : Setting) (f : String → Except Stop α) :
    (∃ value, given.lookup setting = some value ∧ (given.need setting >>= f) = f value) ∨
      (given.need setting >>= f) = .error .usage := by
  rw [Given.need]
  cases given.lookup setting with
  | none => exact .inr rfl
  | some value => exact .inl ⟨value, rfl, rfl⟩

theorem readContext_cases (given : Given) :
    (∃ context, readContext given = .ok context ∧
      ∀ option ∈ context.settings, given.lookup option.1 = some option.2) ∨
    readContext given = .error .usage := by
  rw [readContext]
  rcases bind_need_cases given .commitHash _ with ⟨commitHash, hcommit, he⟩ | he
  case inr => exact .inr he
  rw [he]
  rcases bind_need_cases given .repoName _ with ⟨repoName, hrepo, he⟩ | he
  case inr => exact .inr he
  rw [he]
  rcases bind_need_cases given .contributorsSince _ with ⟨since, hsince, he⟩ | he
  case inr => exact .inr he
  rw [he]
  rcases bind_need_cases given .whatsChangedUrl _ with ⟨url, hurl, he⟩ | he
  case inr => exact .inr he
  rw [he]
  refine .inl ⟨⟨commitHash, repoName, since, url⟩, rfl, ?_⟩
  simp only [Context.settings, List.forall_mem_cons]
  exact ⟨hcommit, hrepo, hsince, hurl, List.forall_mem_nil _⟩

theorem readContext_of_lookup
    (h : ∀ option ∈ context.settings, given.lookup option.1 = some option.2) :
    readContext given = .ok context := by
  simp only [Context.settings, List.forall_mem_cons] at h
  obtain ⟨hcommit, hrepo, hsince, hurl, -⟩ := h
  simp only [readContext, Given.need, hcommit, hrepo, hsince, hurl]
  rfl

theorem readContext_of_missing (hs : setting ∈ Scope.settings .compose) (hne : setting ≠ .root)
    (hmissing : given.lookup setting = none) : readContext given = .error .usage := by
  rcases readContext_cases given with ⟨context, -, hlookup⟩ | hread
  · have hmem : setting ∈ context.settings.map Prod.fst := (List.mem_cons.mp hs).resolve_left hne
    obtain ⟨option, ho, rfl⟩ := List.mem_map.mp hmem
    rw [hlookup option ho] at hmissing
    cases hmissing
  · exact hread

theorem readSink_cases (given : Given) (environment : Option String) :
    (∃ sink, readSink given environment = .ok sink ∧
      (given.lookup .output).or environment = some sink ∧
        (given.lookup .output = none → sink ≠ "")) ∨
    readSink given environment = .error .usage ∧
      given.lookup .output = none ∧ environment.getD "" = "" := by
  unfold readSink
  cases given.lookup .output with
  | some sink => exact .inl ⟨sink, rfl, rfl, nofun⟩
  | none =>
    cases environment with
    | none => exact .inr ⟨rfl, rfl, rfl⟩
    | some sink =>
      by_cases hempty : sink = ""
      · exact .inr ⟨by simp [hempty], rfl, hempty⟩
      · exact .inl ⟨sink, by simp [hempty], rfl, fun _ ↦ hempty⟩

theorem readSink_of_lookup (h : (given.lookup .output).or environment = some sink)
    (hne : sink ≠ "") : readSink given environment = .ok sink := by
  rcases readSink_cases given environment with ⟨sink', hread, hsink, -⟩ | ⟨-, hnone, hempty⟩
  · rw [hread, Option.some_inj.mp (hsink.symm.trans h)]
  · rw [hnone, Option.none_or] at h
    rw [h] at hempty
    exact absurd hempty hne

theorem readSink_of_missing (hmissing : given.lookup .output = none)
    (hempty : environment.getD "" = "") : readSink given environment = .error .usage := by
  rcases readSink_cases given environment with ⟨sink, -, hsink, hne⟩ | ⟨hread, -⟩
  · rw [hmissing, Option.none_or] at hsink
    rw [hsink] at hempty
    exact absurd hempty (hne hmissing)
  · exact hread

namespace IsLine

/-- A setting is looked up behind the command's name first, then before it. -/
theorem lookup_eq (hp : (outer ++ inner).Perm made) (hmade : made.IsSound) (setting : Setting) :
    (inner.reverse.lookup setting).or (outer.reverse.lookup setting) = made.lookup setting := by
  have hperm : (inner.reverse ++ outer.reverse).Perm made := by
    rw [← List.reverse_append]
    exact (List.reverse_perm _).trans hp
  rw [← List.lookup_append]
  exact Given.lookup_perm (hmade.perm hperm.symm) hperm setting

theorem lookup_inner (h : IsLine name scope outer inner arguments)
    (hp : (outer ++ inner).Perm made) (hmade : made.IsSound) (hne : setting ≠ .root) :
    inner.reverse.lookup setting = made.lookup setting := by
  have hnone : outer.reverse.lookup setting = none := by
    rw [Given.lookup_eq_none_iff_not_mem, List.map_reverse, List.mem_reverse, List.mem_map]
    rintro ⟨option, ho, rfl⟩
    exact hne (List.mem_singleton.mp (h.outer_mem option ho))
  rw [← lookup_eq hp hmade, hnone, Option.or_none]

theorem isSound (hp : (outer ++ inner).Perm made) (hmade : made.IsSound) :
    outer.IsSound ∧ inner.IsSound := by
  have h := hmade.perm hp.symm
  exact ⟨h.sublist (List.sublist_append_left outer inner),
    h.sublist (List.sublist_append_right outer inner)⟩

/-- All that can be wrong with such a line is its usage, so that it does not matter in which order
its parts are looked at. -/
theorem read_eq (h : IsLine name scope outer inner arguments)
    (hname : name.toList.head? ≠ some '-') (finish : Given → Except Stop α)
    (build : Given → Given → α → Request)
    (hfinish : ∀ given, (∃ found, finish given = .ok found) ∨ finish given = .error .usage)
    (hread : ∀ words given pending behind,
      readOptions .program [] none words = .ok (given, pending, name :: behind) →
      Request.read words environment = do
        let inner ← readCommand scope behind
        let found ← finish inner
        let outer ← given.settle pending
        return build inner outer found) :
    Request.read arguments environment =
      if outer.IsSound ∧ inner.IsSound then
        finish inner.reverse >>= fun found ↦ .ok (build inner.reverse outer.reverse found)
      else .error .usage := by
  obtain ⟨before, behind, hbefore, hbehind, rfl⟩ := h.exists_words
  have hword := Argument.ofString_word hname
  rcases readOptions_of_writesAll hbefore h.outer_mem hword behind with
    ⟨given, pending, hsettle, hwords⟩ | ⟨stop, hmade, hwords⟩
  · rw [hread _ _ _ _ hwords, readCommand_of_writesAll hbehind h.inner_mem, hsettle,
      Given.makeAll_nil, Given.makeAll_nil]
    by_cases hinner : inner.IsSound
    · rw [if_pos hinner]
      by_cases houter : outer.IsSound
      · rw [if_pos houter, if_pos ⟨houter, hinner⟩]
        rfl
      · -- what is wrong in front of the name shows last, when all else has been found
        rw [if_neg houter, if_neg (fun hs ↦ houter hs.1)]
        change (finish inner.reverse >>= fun _ ↦ Except.error Stop.usage) = _
        rcases hfinish inner.reverse with ⟨found, hfound⟩ | hfound
        · rw [hfound]
          rfl
        · rw [hfound]
          rfl
    · have hnot : ¬(outer.IsSound ∧ inner.IsSound) := fun hs ↦ hinner hs.2
      rw [if_neg hinner, if_neg hnot]
      rfl
  · rw [Given.makeAll_nil] at hmade
    split at hmade
    · cases hmade
    · rename_i houter
      cases hmade
      rw [Request.read, hwords, if_neg (fun hs ↦ houter hs.1)]
      rfl

theorem read_compose (h : IsLine "compose" .compose outer inner arguments)
    (environment : Option String) : Request.read arguments environment =
      if outer.IsSound ∧ inner.IsSound then
        readContext inner.reverse >>= fun context ↦
          .ok (.compose (rootOf inner.reverse outer.reverse) context)
      else .error .usage := by
  apply h.read_eq (by decide) readContext fun inner outer ↦ .compose (rootOf inner outer)
  · intro given
    exact (readContext_cases given).imp_left fun ⟨context, hread, _⟩ ↦ ⟨context, hread⟩
  · intro words given pending behind hwords
    rw [Request.read, hwords]
    rfl

theorem read_emit (h : IsLine "emit" .emit outer inner arguments)
    (environment : Option String) : Request.read arguments environment =
      if outer.IsSound ∧ inner.IsSound then
        readSink inner.reverse environment >>= fun sink ↦
          .ok (.emit (rootOf inner.reverse outer.reverse) (inner.reverse.lookup .artifact) sink)
      else .error .usage := by
  apply h.read_eq (by decide) (readSink · environment) fun inner outer ↦
    .emit (rootOf inner outer) (inner.lookup .artifact)
  · intro given
    exact (readSink_cases given environment).imp (fun ⟨sink, hread, _⟩ ↦ ⟨sink, hread⟩) And.left
  · intro words given pending behind hwords
    rw [Request.read, hwords]
    rfl

end IsLine

end Command

end Bulletin
