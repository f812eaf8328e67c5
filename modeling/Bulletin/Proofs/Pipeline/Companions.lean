import Bulletin.Proofs.FileTree.Agreement
import Bulletin.Proofs.Pipeline.Outcome
import Bulletin.Proofs.Placeholder

namespace Bulletin

open Directory Sandbox Text Workspace

namespace Sandbox

variable {α β : Type} {R : Directory → Directory → Prop} {apart : List Location} {path : String}

/-- An action gives the same result in two trees that are related, and they stay related. -/
def Alike (R : Directory → Directory → Prop) (x : Sandbox α) : Prop :=
  ∀ w w', R w.files w'.files →
    (x.run w').1 = (x.run w).1 ∧ R (x.run w).2.files (x.run w').2.files

namespace Alike

theorem pure (a : α) : Alike R (Pure.pure a : Sandbox α) :=
  fun _ _ h ↦ ⟨rfl, h⟩

theorem bind {x : Sandbox α} {f : α → Sandbox β} (hx : Alike R x) (hf : ∀ a, Alike R (f a)) :
    Alike R (x >>= f) := by
  intro w w' h
  obtain ⟨hsame, hfiles⟩ := hx w w' h
  change ((f (x.run w').1).run (x.run w').2).1 = ((f (x.run w).1).run (x.run w).2).1 ∧
    R ((f (x.run w).1).run (x.run w).2).2.files ((f (x.run w').1).run (x.run w').2).2.files
  rw [hsame]
  exact hf _ _ _ hfiles

theorem change {f : Directory → Except FileError Directory}
    (hsame : ∀ d d', R d d' → (f d').map (fun _ ↦ ()) = (f d).map (fun _ ↦ ()))
    (hok : ∀ d d' e e', R d d' → f d = .ok e → f d' = .ok e' → R e e') :
    Alike R (Sandbox.change f) := by
  intro w w' h
  have hfiles := hsame _ _ h
  cases hf : f w.files with
  | error error =>
    cases hf' : f w'.files with
    | error error' =>
      rw [hf, hf'] at hfiles
      cases hfiles
      rw [run_change_of_error hf, run_change_of_error hf']
      exact ⟨rfl, h⟩
    | ok e' =>
      rw [hf, hf'] at hfiles
      cases hfiles
  | ok e =>
    cases hf' : f w'.files with
    | error error' =>
      rw [hf, hf'] at hfiles
      cases hfiles
    | ok e' =>
      rw [run_change_of_ok hf, run_change_of_ok hf']
      exact ⟨rfl, hok _ _ _ _ h hf hf'⟩

theorem settle (hdir : Alike R (isDir path : Sandbox _)) (outcome : Except FileError Unit) :
    Alike R (makeDirsFrom.settle path outcome : Sandbox _) := by
  cases outcome with
  | ok _ => exact pure _
  | error error => exact hdir.bind (fun _ ↦ pure _)

theorem makeDirsFrom {paths : List String}
    (hmake : ∀ path ∈ paths, Alike R (makeDir path : Sandbox _))
    (hdir : ∀ path ∈ paths, Alike R (isDir path : Sandbox _)) :
    Alike R (Workspace.makeDirsFrom paths : Sandbox _) := by
  induction paths with
  | nil => exact pure _
  | cons path above ih =>
    have hpath := hmake path List.mem_cons_self
    have hsettle := settle (hdir path List.mem_cons_self)
    have habove := ih (fun other ho ↦ hmake other (List.mem_cons_of_mem path ho))
      (fun other ho ↦ hdir other (List.mem_cons_of_mem path ho))
    rw [Workspace.makeDirsFrom]
    split
    · exact pure _
    · refine hpath.bind (fun outcome ↦ ?_)
      split
      · exact pure _
      · refine habove.bind (fun made ↦ ?_)
        split
        · exact pure _
        · exact hpath.bind hsettle
      · exact hsettle _

end Alike

theorem makeDir_alike (hpath : Avoids apart path) :
    Alike (AgreesOutside apart) (makeDir path : Sandbox _) :=
  .change (fun _ _ h ↦ (h.along hpath).makeDir_eq hpath.up_not_mem)
    (fun _ _ _ _ h hm hm' ↦ h.makeDir hm hm')

theorem isDir_alike (hpath : Avoids apart path) :
    Alike (AgreesOutside apart) (isDir path : Sandbox _) :=
  fun _ _ h ↦ ⟨(h.along hpath).isDir_eq hpath.up_not_mem, h⟩

theorem makeDirs_alike (hpath : Avoids apart path) :
    Alike (AgreesOutside apart) (makeDirs path : Sandbox _) :=
  .makeDirsFrom (fun _ ha ↦ makeDir_alike (hpath.of_named (Path.named_of_mem_ancestors ha)))
    (fun _ ha ↦ isDir_alike (hpath.of_named (Path.named_of_mem_ancestors ha)))

end Sandbox

section

variable {apart : List Location} {d d' e e' : Directory} {path : String} {r r' : Release}
  (h : AgreesOutside apart d d') (hpath : Avoids apart path)
include h hpath

theorem Source.text?_agrees : text? d' path = text? d path := by
  rw [text?, text?, (h.along hpath).read_eq hpath.up_not_mem]

theorem Template.restored_agrees : AgreesOutside apart (restored d path) (restored d' path) := by
  have ht := (h.along hpath).target_eq hpath.up_not_mem
  cases hl : d.target path with
  | error error =>
    have hw (d : Directory) (ht : d.target path = .error error) : restored d path = d :=
      restored_of_error (by rw [write, ht]; rfl)
    rw [hw d hl, hw d' (ht.trans hl)]
    exact h
  | ok location =>
    have hw : d.write path (Utf8.encode default) = .ok _ := write_of_target hl
    have hw' : d'.write path (Utf8.encode default) = .ok _ := write_of_target (ht.trans hl)
    rw [restored_of_ok hw, restored_of_ok hw']
    exact h.write hw hw'

theorem Template.loaded_agrees :
    (loaded d' path).1 = (loaded d path).1 ∧
      AgreesOutside apart (loaded d path).2 (loaded d' path).2 := by
  have htext := Source.text?_agrees h hpath
  have hrestored := restored_agrees h hpath
  cases hu : usable (Source.text? d path) with
  | none =>
    rw [loaded_of_unusable hu, loaded_of_unusable (htext ▸ hu)]
    exact ⟨rfl, hrestored⟩
  | some text =>
    by_cases hcomplete : (release text).isComplete
    · rw [loaded_of_complete hu hcomplete, loaded_of_complete (htext ▸ hu) hcomplete]
      exact ⟨rfl, h⟩
    · rw [loaded_of_incomplete hu hcomplete, loaded_of_incomplete (htext ▸ hu) hcomplete]
      exact ⟨rfl, hrestored⟩

theorem Artifact.absentDirectory?_agrees : absentDirectory? d' path = absentDirectory? d path := by
  rw [absentDirectory?, absentDirectory?]
  cases hd : directory? path with
  | none => rfl
  | some directory =>
    have hparent : Path.parent? path = some directory := (Option.filter_eq_some_iff.mp hd).1
    have havoids := hpath.of_named (Path.named_of_parent? hparent)
    rw [Option.filter_some, Option.filter_some, (h.along havoids).isDir_eq havoids.up_not_mem]

theorem Artifact.persisted_agrees (r r' : Release) :
    (persisted r' d' path).1 = (persisted r d path).1 := by
  have ht := (h.along hpath).target_eq hpath.up_not_mem
  rw [persisted, persisted, absentDirectory?_agrees h hpath, write, write, ht]
  cases absentDirectory? d path with
  | some directory => rfl
  | none => cases d.target path <;> rfl

end

namespace Layout

/-- Where the files lie that a release may quote. -/
def companions (l : Layout) : List Location :=
  [Path.location l.readme, Path.location l.changelog]

/-- A composition has put these values into the release that its template announces. -/
def Fills (l : Layout) (context : Context) (w : World) (c : Composition) (template : Release)
    (values : Values) : Prop :=
  ∃ w₁ w₂, StateT.run (makeDirs l.artifactDirectory : Sandbox _) w = pure (.ok (), w₁) ∧
    StateT.run (Template.load l.template : Sandbox _) w₁ = pure ((template, c.usedDefault), w₂) ∧
    values = l.values context w₂.files ∧ c.release = values.applyRelease template

variable {l : Layout} {context : Context} {c : Composition} {w w₁ : World} {name : String}
  {template : Release} {values : Values}

theorem Fills.release_eq (h : l.Fills context w c template values) :
    c.release = values.applyRelease template := by
  obtain ⟨w₁, w₂, -, -, -, hrelease⟩ := h
  exact hrelease

theorem Fills.template_eq (h : l.Fills context w c template values)
    (hmake : StateT.run (makeDirs l.artifactDirectory : Sandbox _) w = pure (.ok (), w₁)) :
    template = (Template.loaded w₁.files l.template).1.1 := by
  obtain ⟨w₁', w₂, hmake', hload, -, -⟩ := h
  obtain rfl : w₁' = w₁ := congrArg Prod.snd (hmake'.symm.trans hmake)
  obtain ⟨journal, hrun⟩ := Template.run_load l.template w₁'
  exact congrArg (fun result ↦ result.1.1) (hload.symm.trans hrun)

theorem Fills.context_eq (h : l.Fills context w c template values) : values.context = context := by
  obtain ⟨w₁, w₂, -, -, rfl, -⟩ := h
  rfl

theorem not_above_of_ne (hreadme : readmeName ≠ name) (hchangelog : changelogName ≠ name)
    (below : Location) :
    ∀ top ∈ l.companions, ¬top <+: Path.location l.root ++ name :: below := by
  intro top ht hon
  rw [companions, location_readme, location_changelog] at ht
  rcases List.mem_pair.mp ht with rfl | rfl
  · rw [List.prefix_append_right_inj, List.cons_prefix_cons] at hon
    exact hreadme hon.1
  · rw [List.prefix_append_right_inj, List.cons_prefix_cons] at hon
    exact hchangelog hon.1

section

variable (hup : ".." ∉ Path.segments l.root)
include hup

theorem artifactDirectory_avoids : Avoids l.companions l.artifactDirectory where
  up_not_mem := l.up_not_mem_artifactDirectory hup
  not_above := by
    rw [location_artifactDirectory]
    exact not_above_of_ne (by decide) (by decide) []

theorem artifact_avoids : Avoids l.companions l.artifact where
  up_not_mem := Path.up_not_mem_segments_join (l.up_not_mem_artifactDirectory hup) (by decide)
  not_above := by
    rw [location_artifact]
    exact not_above_of_ne (by decide) (by decide) [artifactName]

theorem template_avoids : Avoids l.companions l.template where
  up_not_mem := Path.up_not_mem_segments_join hup (by decide)
  not_above := by
    rw [location_template]
    exact not_above_of_ne (by decide) (by decide) []

end

theorem fills_composition
    (hmake : StateT.run (makeDirs l.artifactDirectory : Sandbox _) w = pure (.ok (), w₁)) :
    l.Fills context w (composition l context w₁.files).1
      (Template.loaded w₁.files l.template).1.1
      (l.values context (Template.loaded w₁.files l.template).2) := by
  obtain ⟨journal, hload⟩ := Template.run_load l.template w₁
  exact ⟨w₁, _, hmake, hload, rfl, rfl⟩

end Layout

namespace Values

variable {v v' : Values} {r : Release}

theorem get_eq_of_context (h : v'.context = v.context) {p : Placeholder} (hreadme : p ≠ .readme)
    (hchangelog : p ≠ .changelog) : v'.get p = v.get p := by
  cases p with
  | readme => exact absurd rfl hreadme
  | changelog => exact absurd rfl hchangelog
  | _ => simp only [get, h]

theorem toList_get_applyRelease (v : Values) (r : Release) (kind : Section) :
    ((v.applyRelease r).get kind).toList =
      render (fun p ↦ (v.get p).toList) (scan Placeholder.rule (r.get kind).toList) := by
  rw [applyRelease, PerSection.get_map, toList_apply]

theorem get_applyRelease_congr {kind : Section}
    (h : ∀ p, v'.get p ≠ v.get p → ∀ word, p.IsToken word → ¬word <:+: (r.get kind).toList) :
    (v'.applyRelease r).get kind = (v.applyRelease r).get kind := by
  rw [← String.toList_inj, toList_get_applyRelease, toList_get_applyRelease]
  apply render_congr
  intro p hp
  obtain ⟨word, hword, hinfix⟩ := Placeholder.exists_token_of_found hp
  by_contra hne
  exact h p (fun hsame ↦ hne (congrArg String.toList hsame)) word hword hinfix

end Values

variable {l : Layout} {context : Context} {c : Composition} {w w' v : World}

/-- What is composed in trees that differ only in the companions of the template differs only where
their texts have been put in. -/
theorem composition_agrees {d d' : Directory} (hup : ".." ∉ Path.segments l.root)
    (hfiles : AgreesOutside l.companions d d') :
    (composition l context d').1.usedDefault = (composition l context d).1.usedDefault ∧
      (composition l context d').1.isStored = (composition l context d).1.isStored ∧
      (composition l context d').2.entryAt? (Path.location l.template) =
        (composition l context d).2.entryAt? (Path.location l.template) := by
  have havoids := l.template_avoids hup
  obtain ⟨hload, hloaded⟩ := Template.loaded_agrees hfiles havoids
  refine ⟨congrArg Prod.snd hload, ?_, ?_⟩
  · rw [composition, composition, Artifact.persisted_agrees hloaded (l.artifact_avoids hup)]
  · have hne : Path.location l.template ≠ Path.location l.artifact := by
      rw [l.location_template]
      exact l.beside_ne_artifact Layout.templateName
    rw [entryAt?_composition, entryAt?_composition, if_neg (fun ht ↦ hne ht.2),
      if_neg (fun ht ↦ hne ht.2)]
    exact hloaded _ havoids.not_above

/-- What the companions of a template hold has no influence on anything but the places that name
them: the outcomes are the same release with other texts put in there. -/
theorem compose_companions (hup : ".." ∉ Path.segments l.root)
    (hfiles : AgreesOutside l.companions w.files w'.files)
    (h : StateT.run (compose l context : Sandbox _) w = pure (.ok c, v)) :
    ∃ c' v', StateT.run (compose l context : Sandbox _) w' = pure (.ok c', v') ∧
      c'.usedDefault = c.usedDefault ∧ c'.isStored = c.isStored ∧
      v'.files.entryAt? (Path.location l.template) = v.files.entryAt? (Path.location l.template) ∧
      ∃ template values values', l.Fills context w c template values ∧
        l.Fills context w' c' template values' ∧
        (∀ p, p ≠ .readme → p ≠ .changelog → values'.get p = values.get p) ∧
        ∀ kind,
          ((∀ p word, p = .readme ∨ p = .changelog → Placeholder.IsToken p word →
            ¬word <:+: (template.get kind).toList) → c'.release.get kind = c.release.get kind) ∧
          (c.release.get kind).toList = render (fun p ↦ (values.get p).toList)
            (scan Placeholder.rule (template.get kind).toList) ∧
          (c'.release.get kind).toList = render (fun p ↦ (values'.get p).toList)
            (scan Placeholder.rule (template.get kind).toList) := by
  obtain ⟨w₁, hmake, -, hcomposition⟩ := exists_of_run_compose h
  obtain ⟨outcome, w₁', hmake'⟩ : ∃ outcome w₁',
      StateT.run (makeDirs l.artifactDirectory : Sandbox _) w' = pure (outcome, w₁') :=
    ⟨_, _, rfl⟩
  have hdirs := makeDirs_alike (l.artifactDirectory_avoids hup) w w' hfiles
  rw [hmake, hmake'] at hdirs
  obtain ⟨rfl, hagree⟩ : outcome = .ok () ∧ AgreesOutside l.companions w₁.files w₁'.files := hdirs
  obtain ⟨journal, hrun'⟩ := @run_compose_of_makeDirs l context _ _ hmake'
  obtain ⟨hload, -⟩ := Template.loaded_agrees hagree (l.template_avoids hup)
  have hfills := @Layout.fills_composition l context _ _ hmake
  have hfills' := @Layout.fills_composition l context _ _ hmake'
  obtain ⟨hdefault, hstored, htemplate⟩ := @composition_agrees l context _ _ hup hagree
  rw [hload] at hfills'
  rw [hcomposition] at hfills hdefault hstored htemplate
  have hvalues (p : Placeholder) (hreadme : p ≠ .readme) (hchangelog : p ≠ .changelog) :=
    Values.get_eq_of_context (hfills'.context_eq.trans hfills.context_eq.symm) hreadme hchangelog
  refine ⟨_, _, hrun', hdefault, hstored, htemplate, _, _, _, hfills, hfills', hvalues, ?_⟩
  intro kind
  rw [hfills.release_eq, hfills'.release_eq]
  refine ⟨fun hfree ↦ ?_, Values.toList_get_applyRelease _ _ _,
    Values.toList_get_applyRelease _ _ _⟩
  apply Values.get_applyRelease_congr
  intro p hne word hword
  refine hfree p word ?_ hword
  by_contra hother
  obtain ⟨hreadme, hchangelog⟩ := not_or.mp hother
  exact hne (hvalues p hreadme hchangelog)

/-- One of the trees has a text that looks like a template for its companion, the other one has a
directory and bytes that are not UTF-8. -/
theorem compose_companions_hostile :
    let template := "TITLE: $\x7bREADME_MD\x7d//ASYNC_END\nDESCRIPTION: a//ASYNC_END\nTAG: 1//ASYNC_END"
    let files : Directory := [(Layout.templateName, .file (Utf8.encode template)),
      (Layout.readmeName, .file (Utf8.encode "//ASYNC_END\nTAG: 2 $\x7bCOMMIT_HASH\x7d\\n"))]
    let w : World := ⟨files, []⟩
    let w' : World := ⟨set Layout.changelogName (.file [0xff])
      (set Layout.readmeName (.directory [("b", .file [])]) files), []⟩
    let location := Path.location Layout.current.template
    ∃ c v c' v', StateT.run (compose .current ⟨"", "", "", ""⟩ : Sandbox _) w = pure (.ok c, v) ∧
      StateT.run (compose .current ⟨"", "", "", ""⟩ : Sandbox _) w' = pure (.ok c', v') ∧
      c'.usedDefault = c.usedDefault ∧ c'.isStored = c.isStored ∧
      v'.files.entryAt? location = v.files.entryAt? location ∧
      c'.release.tag = c.release.tag := by
  intro template files w w' location
  have hfiles : AgreesOutside Layout.current.companions w.files w'.files := by
    intro location hlocation
    cases location with
    | nil => rfl
    | cons name below =>
      have hreadme : name ≠ Layout.readmeName := by
        rintro rfl
        exact hlocation [Layout.readmeName] (by decide) ⟨below, rfl⟩
      have hchangelog : name ≠ Layout.changelogName := by
        rintro rfl
        exact hlocation [Layout.changelogName] (by decide) ⟨below, rfl⟩
      change entryAt? (set _ _ (set _ _ files)) _ = entryAt? files _
      rw [entryAt?_set_of_ne hchangelog, entryAt?_set_of_ne hreadme]
  have hmake : w.files.makeDir "./temp" = .ok (files ++ [("temp", .directory [])]) := by
    rfl
  obtain ⟨journal, hrun⟩ := @run_compose_of_makeDirs .current ⟨"", "", "", ""⟩ _ _
    (run_makeDirs_of_makeDir hmake (by decide))
  obtain ⟨c', v', hrun', hdefault, hstored, htemplate, read, values, values', hfills, -, -, hkind⟩ :=
    compose_companions (by decide) hfiles hrun
  have htag : (read.get .tag).toList = ['1'] := by
    rw [hfills.template_eq (run_makeDirs_of_makeDir hmake (by decide))]
    simp only [files, template]
    decide +kernel
  refine ⟨_, _, c', v', hrun, hrun', hdefault, hstored, htemplate, (hkind .tag).1 ?_⟩
  intro p word _ hword hat
  obtain ⟨tail, rfl⟩ := hword.exists_cons
  rw [htag] at hat
  exact absurd (hat.subset List.mem_cons_self) (by decide)

end Bulletin
