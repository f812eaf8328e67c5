import Bulletin.Proofs.Pipeline.Outcome
import Bulletin.Proofs.Placeholder

namespace Bulletin

open Sandbox Text

namespace Release

theorem isComplete_iff (r : Release) : r.isComplete ↔ ∀ kind : Section, r.get kind ≠ "" := by
  rw [isComplete, PerSection.toList_eq_map_get, List.all_map, List.all_eq_true]
  refine ⟨fun h kind ↦ ?_, fun h kind _ ↦ ?_⟩
  · simpa using h kind kind.mem_all
  · simpa using h kind

end Release

namespace Context

def get? (context : Context) : Placeholder → Option String
  | .commitHash => some context.commitHash
  | .repoName => some context.repoName
  | .contributorsSince => some context.contributorsSince
  | .whatsChangedUrl => some context.whatsChangedUrl
  | .readme | .changelog => none

def IsFull (context : Context) : Prop :=
  context.commitHash ≠ "" ∧ context.repoName ≠ "" ∧ context.contributorsSince ≠ "" ∧
    context.whatsChangedUrl ≠ ""

theorem IsFull.get?_ne {context : Context} (h : context.IsFull) (p : Placeholder) :
    context.get? p ≠ some "" := by
  obtain ⟨hhash, hname, hcontributors, hurl⟩ := h
  cases p <;> simp [get?, hhash, hname, hcontributors, hurl]

/-- A text that is nothing but tokens, at least one, that each stand for an empty text of the
context. -/
def Empties (context : Context) (s : List Char) : Prop :=
  ∃ tokens : List (List Char), tokens ≠ [] ∧ s = tokens.flatten ∧
    ∀ w ∈ tokens, ∃ p : Placeholder, p.IsToken w ∧ context.get? p = some ""

theorem IsFull.not_empties {context : Context} (h : context.IsFull) (s : List Char) :
    ¬context.Empties s := by
  rintro ⟨tokens, hne, -, htokens⟩
  obtain ⟨w, rest, rfl⟩ := List.exists_cons_of_ne_nil hne
  obtain ⟨p, -, hp⟩ := htokens w List.mem_cons_self
  exact h.get?_ne p hp

end Context

namespace Values

variable {v : Values} {s : List Char}

theorem orFallback_ne {fallback : String} (h : fallback ≠ "") (text : Option String) :
    orFallback fallback text ≠ "" := by
  rw [orFallback_eq]
  split
  · exact h
  · assumption

theorem get_eq_empty_iff (p : Placeholder) : v.get p = "" ↔ v.context.get? p = some "" := by
  cases p with
  | readme => exact iff_of_false (orFallback_ne (by decide) _) (by simp [Context.get?])
  | changelog => exact iff_of_false (orFallback_ne (by decide) _) (by simp [Context.get?])
  | _ => simp [get, Context.get?]

theorem render_scan_eq_nil_iff :
    render (fun p ↦ (v.get p).toList) (scan Placeholder.rule s) = [] ↔
      ∃ tokens : List (List Char), s = tokens.flatten ∧
        ∀ w ∈ tokens, ∃ p : Placeholder, p.IsToken w ∧ v.context.get? p = some "" := by
  constructor
  · intro h
    induction s using scan_induction Placeholder.rule with
    | nil => exact ⟨[], rfl, by simp⟩
    | plain c s hr ih =>
      rw [scan_cons_of_eq_none hr, render_plain] at h
      cases h
    | found c s p n hr ih =>
      rw [scan_cons_of_eq_some hr, render_found, List.append_eq_nil_iff] at h
      obtain ⟨w, rest, rfl, rfl, hw⟩ := Placeholder.rule_eq_some_iff.mp hr
      rw [List.drop_left] at h ih
      obtain ⟨tokens, rfl, htokens⟩ := ih h.2
      have hp : v.context.get? p = some "" := (get_eq_empty_iff p).mp (by simpa using h.1)
      refine ⟨(c :: w) :: tokens, rfl, ?_⟩
      rw [List.forall_mem_cons]
      exact ⟨⟨p, hw, hp⟩, htokens⟩
  · rintro ⟨tokens, rfl, htokens⟩
    induction tokens with
    | nil => rfl
    | cons w tokens ih =>
      rw [List.forall_mem_cons] at htokens
      obtain ⟨⟨p, hw, hp⟩, htokens⟩ := htokens
      have hscan := Placeholder.scan_append_token hw [] tokens.flatten
      rw [List.nil_append] at hscan
      rw [List.flatten_cons, hscan, scan_nil, List.nil_append, render_found, ih htokens,
        (get_eq_empty_iff p).mpr hp]
      rfl

theorem apply_eq_empty_iff {text : String} (hne : text ≠ "") :
    v.apply text = "" ↔ v.context.Empties text.toList := by
  have happly : v.apply text = "" ↔
      render (fun p ↦ (v.get p).toList) (scan Placeholder.rule text.toList) = [] := by
    rw [← String.toList_inj, toList_apply]
    rfl
  rw [happly, render_scan_eq_nil_iff]
  refine ⟨fun ⟨tokens, htext, htokens⟩ ↦ ⟨tokens, ?_, htext, htokens⟩,
    fun ⟨tokens, _, htext, htokens⟩ ↦ ⟨tokens, htext, htokens⟩⟩
  rintro rfl
  exact hne (by simpa using htext)

theorem get_applyRelease_eq_empty_iff {r : Release} (hr : r.isComplete) (kind : Section) :
    (v.applyRelease r).get kind = "" ↔ v.context.Empties (r.get kind).toList := by
  rw [Release.isComplete_iff] at hr
  rw [applyRelease, PerSection.get_map, apply_eq_empty_iff (hr kind)]

theorem isComplete_applyRelease {r : Release} (hr : r.isComplete) (hfull : v.context.IsFull) :
    (v.applyRelease r).isComplete := by
  rw [Release.isComplete_iff]
  intro kind hempty
  rw [get_applyRelease_eq_empty_iff hr] at hempty
  exact hfull.not_empties _ hempty

end Values

theorem Template.isComplete_loaded (d : Directory) (path : String) :
    (loaded d path).1.1.isComplete := by
  cases hu : usable (Source.text? d path) with
  | none =>
    rw [loaded_of_unusable hu]
    exact isComplete_defaultRelease
  | some text =>
    by_cases hcomplete : (release text).isComplete
    · rwa [loaded_of_complete hu hcomplete]
    · rw [loaded_of_incomplete hu hcomplete]
      exact isComplete_defaultRelease

variable {l : Layout} {context : Context} {c : Composition} {w w' : World}

theorem run_load_of_composition {d : Directory}
    (hcomposition : composition l context d = (c, w'.files)) (hstored : c.isStored) :
    StateT.run (Artifact.load l.artifact : Sandbox _) w' = pure (.ok c.release, w') := by
  obtain ⟨rfl, hfiles⟩ := Prod.mk.inj hcomposition
  rcases Artifact.persisted_cases
      ((l.values context (Template.loaded d l.template).2).applyRelease
        (Template.loaded d l.template).1.1)
      (Template.loaded d l.template).2 l.artifact with ⟨-, hwrite⟩ | hsame
  · have hread := Directory.read_write hwrite
    rw [hfiles] at hread
    rw [Artifact.run_load_of_ok hread, Artifact.decode_encode]
    rfl
  · rw [hsame] at hstored
    cases hstored

/-- What is loaded from a template is complete, whatever the files hold, and composing empties only
a section of it that is made of tokens for empty texts of the context. -/
theorem compose_complete (h : StateT.run (compose l context : Sandbox _) w = pure (.ok c, w')) :
    ∃ template w₁ w₂, template.isComplete ∧
      StateT.run (Workspace.makeDirs l.artifactDirectory : Sandbox _) w = pure (.ok (), w₁) ∧
      StateT.run (Template.load l.template : Sandbox _) w₁ =
        pure ((template, c.usedDefault), w₂) ∧
      c.release = (l.values context w₂.files).applyRelease template ∧
      (∀ kind, c.release.get kind = "" ↔ context.Empties (template.get kind).toList) ∧
      (context.IsFull → c.release.isComplete ∧
        (c.isStored → ∃ r, StateT.run (Artifact.load l.artifact : Sandbox _) w' =
          pure (.ok r, w') ∧ r.isComplete)) := by
  obtain ⟨w₁, hmake, -, hcomposition⟩ := exists_of_run_compose h
  obtain ⟨journal, hload⟩ := Template.run_load l.template w₁
  have hcomplete := Template.isComplete_loaded w₁.files l.template
  have hstored := @run_load_of_composition _ _ _ _ _ hcomposition
  obtain ⟨rfl, -⟩ := Prod.mk.inj hcomposition
  refine ⟨_, w₁, _, hcomplete, hmake, hload, rfl, ?_, fun hfull ↦ ?_⟩
  · exact Values.get_applyRelease_eq_empty_iff hcomplete
  · have hrelease : (composition l context w₁.files).1.release.isComplete :=
      Values.isComplete_applyRelease hcomplete hfull
    exact ⟨hrelease, fun h ↦ ⟨_, hstored h, hrelease⟩⟩

theorem compose_complete_blank :
    let context : Context := ⟨"w", "x", "y", "z"⟩
    let w : World := ⟨[("a", .directory [("compressor.settings.txt", .file [0x20, 0x0a]),
      ("README.md", .file []), ("CHANGELOG.md", .file [0xff])])], []⟩
    context.IsFull ∧
      ∃ c w', StateT.run (compose ⟨"a"⟩ context : Sandbox _) w = pure (.ok c, w') ∧
        c.release.isComplete ∧
        (c.isStored → ∃ r, StateT.run (Artifact.load "a/temp/schema.json" : Sandbox _) w' =
          pure (.ok r, w') ∧ r.isComplete) := by
  intro context w
  have hfull : context.IsFull := ⟨by decide, by decide, by decide, by decide⟩
  obtain ⟨files, hmake⟩ : ∃ files, w.files.makeDir "a/temp" = .ok files := ⟨_, rfl⟩
  obtain ⟨journal, hrun⟩ := @run_compose_of_makeDirs ⟨"a"⟩ context _ _
    (run_makeDirs_of_makeDir hmake (by decide))
  obtain ⟨_, _, _, -, -, -, -, -, hcomplete⟩ := compose_complete hrun
  obtain ⟨hrelease, hstored⟩ := hcomplete hfull
  exact ⟨hfull, _, _, hrun, hrelease, hstored⟩

end Bulletin
