import Bulletin.Command.Run
import Bulletin.Proofs.Command.Request

namespace Bulletin.Command

def Setting.made (setting : Setting) (value? : Option String) : Given :=
  (value?.map (Prod.mk setting)).toList

/-- How the program ends with what an action makes of a world. -/
def ending {ε α : Type} (notice : ε → Notice) (x : Sandbox (Except ε α)) (w : World) :
    Exit × World :=
  match x.run w with
  | (.ok _, w') => (⟨0, ""⟩, w')
  | (.error error, w') => (⟨1, ""⟩, { w' with journal := w'.journal ++ [notice error] })

variable {ε α : Type} {setting : Setting} {given outer inner : Given} {arguments : List String}
  {environment : Option String} {root sink : String} {root? artifact? output? : Option String}
  {context : Context} {w : World}

@[simp]
theorem Setting.made_none (setting : Setting) : setting.made none = [] :=
  rfl

@[simp]
theorem Setting.made_some (setting : Setting) (value : String) :
    setting.made (some value) = [(setting, value)] :=
  rfl

theorem Setting.lookup_made (setting other : Setting) (value? : Option String) :
    (setting.made value?).lookup other = if other = setting then value? else none := by
  cases value? with
  | none => rw [made_none, List.lookup_nil, ite_self]
  | some value =>
    rw [made_some, List.lookup_cons, List.lookup_nil]
    by_cases he : other = setting
    · rw [if_pos he, beq_iff_eq.mpr he]
    · rw [if_neg he, beq_eq_false_iff_ne.mpr he]

theorem Given.IsSound.made_append {value? : Option String} (h : given.IsSound)
    (hnew : setting ∉ given.map Prod.fst) (hpath : value? ≠ some "") :
    (setting.made value? ++ given).IsSound := by
  cases value? with
  | none => exact h
  | some value => exact isSound_cons_iff.mpr ⟨⟨hnew, fun _ he ↦ hpath (congrArg some he)⟩, h⟩

theorem Setting.eq_of_mem_made {other : Setting} {value? : Option String}
    (h : other ∈ (setting.made value?).map Prod.fst) : other = setting := by
  cases value? with
  | none => exact absurd h (List.not_mem_nil)
  | some value => exact List.mem_singleton.mp h

theorem root_not_mem_settings (context : Context) :
    .root ∉ context.settings.map Prod.fst := by
  simp [Context.settings]

theorem isSound_composeSettings (h : root? ≠ some "") (context : Context) :
    Given.IsSound (Setting.root.made root? ++ context.settings) := by
  have hnodup : [Setting.commitHash, .repoName, .contributorsSince, .whatsChangedUrl].Nodup := by
    decide
  have hsettings : Given.IsSound context.settings :=
    ⟨hnodup, by simp [Context.settings, Setting.isPath]⟩
  exact hsettings.made_append (root_not_mem_settings context) h

theorem isSound_emitSettings (hroot : root? ≠ some "") (hartifact : artifact? ≠ some "")
    (houtput : output? ≠ some "") :
    Given.IsSound (Setting.root.made root? ++ (Setting.artifact.made artifact? ++
      Setting.output.made output?)) := by
  have hone : Given.IsSound (Setting.output.made output? ++ []) :=
    Given.isSound_nil.made_append List.not_mem_nil houtput
  rw [List.append_nil] at hone
  have htwo : Given.IsSound (Setting.artifact.made artifact? ++ Setting.output.made output?) :=
    hone.made_append (fun hm ↦ absurd (Setting.eq_of_mem_made hm) (by decide)) hartifact
  refine htwo.made_append (fun hm ↦ ?_) hroot
  rw [List.map_append, List.mem_append] at hm
  rcases hm with hm | hm
  · exact absurd (Setting.eq_of_mem_made hm) (by decide)
  · exact absurd (Setting.eq_of_mem_made hm) (by decide)

theorem run_bind_ending {x : Sandbox (Except ε α)} {f : Except ε α → Sandbox Exit}
    {notice : ε → Notice} (hok : ∀ a, f (.ok a) = return .success)
    (herror : ∀ error, f (.error error) = do Workspace.log (notice error); return .failure)
    (w : World) :
    StateT.run (x >>= f) w = pure (ending notice x w) := by
  obtain ⟨outcome, w₁, hx⟩ : ∃ outcome w₁, StateT.run x w = pure (outcome, w₁) := ⟨_, _, rfl⟩
  rw [StateT.run_bind, hx, pure_bind, ending, hx]
  cases outcome with
  | ok a =>
    rw [hok]
    rfl
  | error error =>
    rw [herror]
    rfl

theorem run_of_usage (h : Request.read arguments environment = .error .usage) (w : World) :
    StateT.run (run arguments environment : Sandbox _) w = pure (⟨2, ""⟩, w) := by
  rw [run, h]
  rfl

theorem run_of_compose (h : Request.read arguments environment = .ok (.compose root context))
    (w : World) :
    StateT.run (run arguments environment : Sandbox _) w =
      pure (ending .composeFailed (compose ⟨root⟩ context) w) := by
  rw [run, h]
  exact run_bind_ending (fun _ ↦ rfl) (fun _ ↦ rfl) w

theorem run_of_emit (h : Request.read arguments environment = .ok (.emit root artifact? sink))
    (w : World) :
    StateT.run (run arguments environment : Sandbox _) w =
      pure (ending .emitFailed (emit (artifact?.getD (Layout.mk root).artifact) sink) w) := by
  rw [run, h]
  exact run_bind_ending (fun _ ↦ rfl) (fun _ ↦ rfl) w

theorem IsLine.run_compose (h : IsLine "compose" .compose outer inner arguments)
    (hp : (outer ++ inner).Perm (Setting.root.made root? ++ context.settings))
    (hroot : root? ≠ some "") (environment : Option String) (w : World) :
    StateT.run (run arguments environment : Sandbox _) w =
      pure (ending .composeFailed (compose ⟨root?.getD "."⟩ context) w) := by
  have hmade := isSound_composeSettings hroot context
  apply run_of_compose
  have hrootOf : rootOf inner.reverse outer.reverse = root?.getD "." := by
    have hnone := Given.lookup_eq_none_iff_not_mem.mpr (root_not_mem_settings context)
    rw [rootOf, IsLine.lookup_eq hp hmade, List.lookup_append, Setting.lookup_made, if_pos rfl,
      hnone, Option.or_none]
  have hcontext : readContext inner.reverse = .ok context := by
    apply readContext_of_lookup
    intro option ho
    have hne : option.1 ≠ .root :=
      ne_of_mem_of_not_mem (List.mem_map_of_mem ho) (root_not_mem_settings context)
    rw [h.lookup_inner hp hmade hne, Given.lookup_eq_some_iff_mem hmade]
    exact List.mem_append_right _ ho
  rw [h.read_compose, if_pos (IsLine.isSound hp hmade), hcontext, hrootOf]
  rfl

theorem IsLine.run_emit (h : IsLine "emit" .emit outer inner arguments)
    (hp : (outer ++ inner).Perm (Setting.root.made root? ++ (Setting.artifact.made artifact? ++
      Setting.output.made output?)))
    (hroot : root? ≠ some "") (hartifact : artifact? ≠ some "") (hsink : sink ≠ "")
    (hoption : output?.or environment = some sink) (w : World) :
    StateT.run (run arguments environment : Sandbox _) w =
      pure (ending .emitFailed
        (emit (artifact?.getD (Layout.mk (root?.getD ".")).artifact) sink) w) := by
  have houtput : output? ≠ some "" := by
    rintro rfl
    exact hsink (Option.some_inj.mp hoption).symm
  have hmade := isSound_emitSettings hroot hartifact houtput
  apply run_of_emit
  have hrootOf : rootOf inner.reverse outer.reverse = root?.getD "." := by
    rw [rootOf, IsLine.lookup_eq hp hmade]
    simp [List.lookup_append, Setting.lookup_made]
  have hread : readSink inner.reverse environment = .ok sink := by
    apply readSink_of_lookup _ hsink
    rw [h.lookup_inner hp hmade (by decide)]
    simpa [List.lookup_append, Setting.lookup_made] using hoption
  have hlookup : inner.reverse.lookup .artifact = artifact? := by
    rw [h.lookup_inner hp hmade (by decide)]
    simp [List.lookup_append, Setting.lookup_made]
  rw [h.read_emit, if_pos (IsLine.isSound hp hmade), hread, hrootOf, hlookup]
  rfl

theorem IsLine.run_compose_of_fault (h : IsLine "compose" .compose outer inner arguments)
    (hfault : ¬outer.IsSound ∨ ¬inner.IsSound ∨
      ∃ setting ∈ Scope.settings .compose, setting ≠ .root ∧ setting ∉ inner.map Prod.fst)
    (environment : Option String) (w : World) :
    StateT.run (run arguments environment : Sandbox _) w = pure (⟨2, ""⟩, w) := by
  apply run_of_usage
  rw [h.read_compose]
  split
  · rename_i hsound
    obtain ⟨setting, hs, hne, hmissing⟩ :=
      (hfault.resolve_left (not_not_intro hsound.1)).resolve_left (not_not_intro hsound.2)
    have hnone : inner.reverse.lookup setting = none := by
      rwa [Given.lookup_eq_none_iff_not_mem, List.map_reverse, List.mem_reverse]
    rw [readContext_of_missing hs hne hnone]
    rfl
  · rfl

theorem IsLine.run_emit_of_fault (h : IsLine "emit" .emit outer inner arguments)
    (hfault : ¬outer.IsSound ∨ ¬inner.IsSound ∨
      .output ∉ inner.map Prod.fst ∧ environment.getD "" = "") (w : World) :
    StateT.run (run arguments environment : Sandbox _) w = pure (⟨2, ""⟩, w) := by
  apply run_of_usage
  rw [h.read_emit]
  split
  · rename_i hsound
    obtain ⟨hmissing, hempty⟩ :=
      (hfault.resolve_left (not_not_intro hsound.1)).resolve_left (not_not_intro hsound.2)
    have hnone : inner.reverse.lookup .output = none := by
      rwa [Given.lookup_eq_none_iff_not_mem, List.map_reverse, List.mem_reverse]
    rw [readSink_of_missing hnone hempty]
    rfl
  · rfl

/-- The order in which settings are made on a command line, the side of the command's name on which
the root is given and the spelling of each of them do not matter. A line on which something is
missing or given twice, or on which a path is empty, ends the program before it does anything. -/
theorem run_of_line (environment : Option String) (w : World) :
    (∀ (root? : Option String) (context : Context) outer inner arguments,
      IsLine "compose" .compose outer inner arguments →
      (outer ++ inner).Perm (Setting.root.made root? ++ context.settings) → root? ≠ some "" →
      StateT.run (run arguments environment : Sandbox _) w =
        pure (ending .composeFailed (compose ⟨root?.getD "."⟩ context) w)) ∧
    (∀ (root? artifact? output? : Option String) sink outer inner arguments,
      IsLine "emit" .emit outer inner arguments →
      (outer ++ inner).Perm (Setting.root.made root? ++ (Setting.artifact.made artifact? ++
        Setting.output.made output?)) →
      root? ≠ some "" → artifact? ≠ some "" → sink ≠ "" →
      output?.or environment = some sink →
      StateT.run (run arguments environment : Sandbox _) w =
        pure (ending .emitFailed
          (emit (artifact?.getD (Layout.mk (root?.getD ".")).artifact) sink) w)) ∧
    (∀ outer inner arguments, IsLine "compose" .compose outer inner arguments →
      (¬outer.IsSound ∨ ¬inner.IsSound ∨
        ∃ setting ∈ Scope.settings .compose, setting ≠ .root ∧ setting ∉ inner.map Prod.fst) →
      StateT.run (run arguments environment : Sandbox _) w = pure (⟨2, ""⟩, w)) ∧
    ∀ outer inner arguments, IsLine "emit" .emit outer inner arguments →
      (¬outer.IsSound ∨ ¬inner.IsSound ∨
        .output ∉ inner.map Prod.fst ∧ environment.getD "" = "") →
      StateT.run (run arguments environment : Sandbox _) w = pure (⟨2, ""⟩, w) := by
  refine ⟨?_, ?_, ?_, ?_⟩
  · intro root? context outer inner arguments h hp hroot
    exact h.run_compose hp hroot environment w
  · intro root? artifact? output? sink outer inner arguments h hp hroot hartifact hsink hoption
    exact h.run_emit hp hroot hartifact hsink hoption w
  · intro outer inner arguments h hfault
    exact h.run_compose_of_fault hfault environment w
  · intro outer inner arguments h hfault
    exact h.run_emit_of_fault hfault w

theorem run_of_line_mixed :
    let w : World := .empty
    let context : Context := ⟨"c", "a/b", "", "-u"⟩
    let inner : Given := [(.whatsChangedUrl, "-u"), (.repoName, "a/b"), (.commitHash, "c"),
      (.contributorsSince, "")]
    let inner' : Given := [(.commitHash, "c"), (.root, "tree"), (.contributorsSince, ""),
      (.repoName, "a/b"), (.whatsChangedUrl, "-u")]
    let arguments := ["-rtree", "compose", "--whats_changed_url=-u", "--repo_name", "a/b",
      "--commit_hash=c", "--contributors_since", ""]
    let arguments' := ["compose", "--commit_hash", "c", "--root=tree", "--contributors_since=",
      "--repo_name=a/b", "--whats_changed_url=-u"]
    (IsLine "compose" .compose [(.root, "tree")] inner arguments ∧
      IsLine "compose" .compose [] inner' arguments' ∧
      StateT.run (run arguments none : Sandbox _) w =
        pure (ending .composeFailed (compose ⟨"tree"⟩ context) w) ∧
      StateT.run (run arguments' none : Sandbox _) w =
        pure (ending .composeFailed (compose ⟨"tree"⟩ context) w)) ∧
    (IsLine "emit" .emit [] [(.output, "out"), (.root, "tree")] ["emit", "-o", "out", "-rtree"] ∧
      StateT.run (run ["emit", "-o", "out", "-rtree"] (some "other") : Sandbox _) w =
        pure (ending .emitFailed (emit (Layout.mk "tree").artifact "out") w)) ∧
    StateT.run (run ["-r", "tree", "compose", "--repo_name=a/b"] none : Sandbox _) w =
      pure (⟨2, ""⟩, w) ∧
    StateT.run (run ["emit", "-ain", "-ain", "-oout"] none : Sandbox _) w = pure (⟨2, ""⟩, w) := by
  intro w context inner inner' arguments arguments'
  obtain ⟨hcompose, -, hfault, hfault'⟩ := run_of_line none w
  obtain ⟨-, hemit, -, -⟩ := run_of_line (some "other") w
  have hline : IsLine "compose" .compose [(.root, "tree")] inner arguments := by
    refine ⟨⟨["-rtree"], _, ?_, ?_, rfl⟩, by decide, by decide⟩
    · exact .cons (.shortAttached rfl (by decide) (by decide)) .nil
    · exact .cons (.joined .whatsChangedUrl "-u") (.cons (.separate (by decide))
        (.cons (.joined .commitHash "c") (.cons (.separate (by decide)) .nil)))
  have hline' : IsLine "compose" .compose [] inner' arguments' := by
    refine ⟨⟨[], _, .nil, ?_, rfl⟩, by decide, by decide⟩
    exact .cons (.separate (by decide)) (.cons (.joined .root "tree")
      (.cons (.joined .contributorsSince "") (.cons (.joined .repoName "a/b")
        (.cons (.joined .whatsChangedUrl "-u") .nil))))
  have hemitLine : IsLine "emit" .emit [] [(.output, "out"), (.root, "tree")]
      ["emit", "-o", "out", "-rtree"] := by
    refine ⟨⟨[], _, .nil, ?_, rfl⟩, by decide, by decide⟩
    exact .cons (.shortSeparate rfl (by decide))
      (.cons (.shortAttached rfl (by decide) (by decide)) .nil)
  refine ⟨⟨hline, hline', ?_, ?_⟩, ⟨hemitLine, ?_⟩, ?_, ?_⟩
  · exact hcompose (some "tree") context _ _ _ hline (by decide) (by decide)
  · exact hcompose (some "tree") context _ _ _ hline' (by decide) (by decide)
  · exact hemit (some "tree") none (some "out") "out" _ _ _ hemitLine (by decide) (by decide)
      nofun (by decide) rfl
  · refine hfault [(.root, "tree")] [(.repoName, "a/b")] _ ?_ (.inr (.inr ?_))
    · exact ⟨⟨["-r", "tree"], _, .cons (.shortSeparate rfl (by decide)) .nil,
        .cons (.joined .repoName "a/b") .nil, rfl⟩, by decide, by decide⟩
    · exact ⟨.commitHash, by decide, by decide, by decide⟩
  · refine hfault' [] [(.artifact, "in"), (.artifact, "in"), (.output, "out")] _ ?_
      (.inr (.inl (by decide)))
    refine ⟨⟨[], _, .nil, ?_, rfl⟩, by decide, by decide⟩
    exact .cons (.shortAttached rfl (by decide) (by decide))
      (.cons (.shortAttached rfl (by decide) (by decide))
        (.cons (.shortAttached rfl (by decide) (by decide)) .nil))

end Bulletin.Command
