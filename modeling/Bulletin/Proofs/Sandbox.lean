import Bulletin.Proofs.FileTree.Change
import Bulletin.Workspace

namespace Bulletin.Sandbox

open Directory Workspace

variable {α β : Type} {changed changed' : List Location} {d d' d'' : Directory}
  {pre I : Directory → Prop} {allowed : Notice → Prop}

/-- The files of two trees are the same, but for those at some locations. -/
def KeepsFiles (changed : List Location) (d d' : Directory) : Prop :=
  ∀ location ∉ changed, ∀ bytes,
    entryAt? d' location = some (.file bytes) ↔ entryAt? d location = some (.file bytes)

theorem KeepsFiles.refl (changed : List Location) (d : Directory) : KeepsFiles changed d d :=
  fun _ _ _ ↦ Iff.rfl

theorem KeepsFiles.trans (h : KeepsFiles changed d d') (h' : KeepsFiles changed d' d'') :
    KeepsFiles changed d d'' :=
  fun location hl bytes ↦ (h' location hl bytes).trans (h location hl bytes)

theorem KeepsFiles.mono (h : KeepsFiles changed d d') (hs : changed ⊆ changed') :
    KeepsFiles changed' d d' :=
  fun location hl ↦ h location (fun hm ↦ hl (hs hm))

theorem KeepsFiles.of_entryAt?
    (h : ∀ location ∉ changed, entryAt? d' location = entryAt? d location) :
    KeepsFiles changed d d' := by
  intro location hl bytes
  rw [h location hl]

theorem KeepsFiles.of_write {path : String} {bytes : List UInt8}
    (h : d.write path bytes = .ok d') : KeepsFiles [Path.location path] d d' := by
  refine KeepsFiles.of_entryAt? (fun location hl ↦ ?_)
  rw [entryAt?_write h, if_neg (fun he ↦ hl (List.mem_singleton.mpr he))]

theorem KeepsFiles.of_append {path : String} {bytes : List UInt8}
    (h : d.append path bytes = .ok d') : KeepsFiles [Path.location path] d d' := by
  refine KeepsFiles.of_entryAt? (fun location hl ↦ ?_)
  rw [entryAt?_append h, if_neg (fun he ↦ hl (List.mem_singleton.mpr he))]

theorem KeepsFiles.bytesAt_eq (h : KeepsFiles changed d d') {location : Location}
    (hl : location ∉ changed) : bytesAt d' location = bytesAt d location := by
  have hfile := h location hl
  rw [Directory.bytesAt_eq, Directory.bytesAt_eq]
  split
  · rename_i bytes hb
    rw [(hfile bytes).mp hb]
  · rename_i hnot
    split
    · rename_i bytes hb
      exact absurd ((hfile bytes).mpr hb) (hnot bytes)
    · rfl

/-- What an action does to the files lies at the locations that go with its outcome. -/
def ChangesOnly (x : Sandbox α) (changed : α → List Location) : Prop :=
  ∀ w, KeepsFiles (changed (x.run w).1) w.files (x.run w).2.files

namespace ChangesOnly

variable {x : Sandbox α} {f : α → Sandbox β} {at' : β → List Location}

theorem pure (a : α) (changed : α → List Location) :
    ChangesOnly (Pure.pure a : Sandbox α) changed :=
  fun w ↦ KeepsFiles.refl _ w.files

theorem bind (hx : ChangesOnly x (fun _ ↦ changed)) (hs : ∀ b, changed ⊆ at' b)
    (hf : ∀ a, ChangesOnly (f a) at') : ChangesOnly (x >>= f) at' :=
  fun w ↦ ((hx w).mono (hs _)).trans (hf (x.run w).1 (x.run w).2)

theorem mono {before after : α → List Location} (hx : ChangesOnly x before)
    (hs : ∀ a, before a ⊆ after a) : ChangesOnly x after :=
  fun w ↦ (hx w).mono (hs _)

theorem log (notice : Notice) (changed : Unit → List Location) :
    ChangesOnly (Workspace.log notice : Sandbox Unit) changed :=
  fun w ↦ KeepsFiles.refl _ w.files

theorem readFile (path : String) (changed : Except FileError (List UInt8) → List Location) :
    ChangesOnly (Workspace.readFile path : Sandbox _) changed :=
  fun w ↦ KeepsFiles.refl _ w.files

theorem change {g : Directory → Except FileError Directory}
    (h : ∀ d d', g d = .ok d' → KeepsFiles changed d d') :
    ChangesOnly (Sandbox.change g) (fun outcome ↦ if outcome.isOk then changed else []) := by
  intro w
  cases hg : g w.files with
  | error error =>
    rw [run_change_of_error hg]
    exact KeepsFiles.refl _ _
  | ok files =>
    rw [run_change_of_ok hg]
    exact h _ _ hg

theorem writeFile (path : String) (bytes : List UInt8) :
    ChangesOnly (Workspace.writeFile path bytes : Sandbox _)
      (fun outcome ↦ if outcome.isOk then [Path.location path] else []) :=
  change (fun _ _ h ↦ .of_write h)

end ChangesOnly

def Ensures (x : Sandbox α) (P : α → Directory → Prop) : Prop :=
  ∀ w, P (x.run w).1 (x.run w).2.files

/-- From files of one kind, an action reports only notices that are allowed, and leaves files that
go with its outcome. -/
def Reports (pre : Directory → Prop) (allowed : Notice → Prop) (x : Sandbox α)
    (post : α → Directory → Prop) : Prop :=
  ∀ w, pre w.files → post (x.run w).1 (x.run w).2.files ∧
    ∃ notices, (x.run w).2.journal = w.journal ++ notices ∧ ∀ notice ∈ notices, allowed notice

namespace Reports

theorem pure {a : α} {post : α → Directory → Prop} (h : ∀ d, pre d → post a d) :
    Reports pre allowed (Pure.pure a : Sandbox α) post :=
  fun _ hw ↦ ⟨h _ hw, [], (List.append_nil _).symm, List.forall_mem_nil _⟩

theorem bind {x : Sandbox α} {f : α → Sandbox β} {mid : α → Directory → Prop}
    {post : β → Directory → Prop} (hx : Reports pre allowed x mid)
    (hf : ∀ a, Reports (mid a) allowed (f a) post) : Reports pre allowed (x >>= f) post := by
  intro w hw
  obtain ⟨hmid, notices, hjournal, hallowed⟩ := hx w hw
  obtain ⟨hpost, more, hmore, hall⟩ := hf _ _ hmid
  refine ⟨hpost, notices ++ more, ?_, List.forall_mem_append.mpr ⟨hallowed, hall⟩⟩
  rw [← List.append_assoc, ← hjournal]
  exact hmore

theorem of_ensures {x : Sandbox α} {post : α → Directory → Prop}
    (hx : Reports pre allowed x (fun _ _ ↦ True)) (h : Ensures x post) :
    Reports pre allowed x post :=
  fun w hw ↦ ⟨h w, (hx w hw).2⟩

theorem of_run {x : Sandbox α} {post : α → Directory → Prop} {a : α} {w w' : World}
    (h : Reports pre allowed x post) (hw : pre w.files)
    (hrun : StateT.run x w = Pure.pure (a, w')) :
    post a w'.files ∧ ∃ notices, w'.journal = w.journal ++ notices ∧
      ∀ notice ∈ notices, allowed notice := by
  have hreports := h w hw
  rw [hrun] at hreports
  exact hreports

theorem mono {x : Sandbox α} {pre' : Directory → Prop} {post : α → Directory → Prop}
    (hx : Reports pre allowed x post) (h : ∀ d, pre' d → pre d) : Reports pre' allowed x post :=
  fun w hw ↦ hx w (h _ hw)

theorem log {notice : Notice} (h : allowed notice) :
    Reports I allowed (Workspace.log notice : Sandbox Unit) (fun _ ↦ I) :=
  fun _ hw ↦ ⟨hw, [notice], rfl, List.forall_mem_singleton.mpr h⟩

theorem readFile (path : String) :
    Reports I allowed (Workspace.readFile path : Sandbox _) (fun _ ↦ I) :=
  fun _ hw ↦ ⟨hw, [], (List.append_nil _).symm, List.forall_mem_nil _⟩

theorem change {g : Directory → Except FileError Directory}
    (h : ∀ d d', g d = .ok d' → I d → I d') : Reports I allowed (Sandbox.change g) (fun _ ↦ I) := by
  intro w hw
  cases hg : g w.files with
  | error error =>
    rw [run_change_of_error hg]
    exact ⟨hw, [], (List.append_nil _).symm, List.forall_mem_nil _⟩
  | ok files =>
    rw [run_change_of_ok hg]
    exact ⟨h _ _ hg hw, [], (List.append_nil _).symm, List.forall_mem_nil _⟩

theorem writeFile {path : String} {bytes : List UInt8}
    (h : ∀ d d', d.write path bytes = .ok d' → I d → I d') :
    Reports I allowed (Workspace.writeFile path bytes : Sandbox _) (fun _ ↦ I) :=
  change h

theorem settle (path : String) (outcome : Except FileError Unit) :
    Reports I allowed (makeDirsFrom.settle path outcome : Sandbox _) (fun _ ↦ I) := by
  cases outcome <;>
    exact fun _ hw ↦ ⟨hw, [], (List.append_nil _).symm, List.forall_mem_nil _⟩

theorem makeDirsFrom {paths : List String}
    (hmake : ∀ path ∈ paths, ∀ d d', Directory.makeDir d path = .ok d' → I d → I d') :
    Reports I allowed (Workspace.makeDirsFrom paths : Sandbox _) (fun _ ↦ I) := by
  -- The ancestors are created in between, by the induction hypothesis, and then the path again.
  induction paths with
  | nil => exact pure (fun _ h ↦ h)
  | cons path above ih =>
    have hpath : Reports I allowed (Workspace.makeDir path : Sandbox _) (fun _ ↦ I) :=
      change (hmake path List.mem_cons_self)
    have habove := ih (fun other ho ↦ hmake other (List.mem_cons_of_mem path ho))
    rw [Workspace.makeDirsFrom]
    split
    · exact pure (fun _ h ↦ h)
    · refine hpath.bind (fun outcome ↦ ?_)
      split
      · exact pure (fun _ h ↦ h)
      · refine habove.bind (fun made ↦ ?_)
        split
        · exact pure (fun _ h ↦ h)
        · exact hpath.bind (settle path)
      · exact settle path _

end Reports

def Relates (R : Directory → Directory → Prop) (x : Sandbox α) : Prop :=
  ∀ w, R w.files (x.run w).2.files

theorem Relates.of_run {R : Directory → Directory → Prop} {x : Sandbox α} {a : α} {w w' : World}
    (h : Relates R x) (hrun : StateT.run x w = pure (a, w')) : R w.files w'.files := by
  have hrelates := h w
  rw [hrun] at hrelates
  exact hrelates

theorem Relates.makeDirsFrom {R : Directory → Directory → Prop} (hrefl : ∀ d, R d d)
    (htrans : ∀ d d' d'', R d d' → R d' d'' → R d d'') {paths : List String}
    (hmake : ∀ path ∈ paths, ∀ d d', Directory.makeDir d path = .ok d' → R d d') :
    Relates R (Workspace.makeDirsFrom paths : Sandbox _) := by
  intro w
  have hreports : Reports (R w.files) (fun _ ↦ True) (Workspace.makeDirsFrom paths : Sandbox _)
      (fun _ ↦ R w.files) :=
    .makeDirsFrom (fun path hp d d' hm hd ↦ htrans _ _ _ hd (hmake path hp d d' hm))
  exact (hreports w (hrefl w.files)).1

theorem ChangesOnly.makeDirs (path : String) :
    ChangesOnly (Workspace.makeDirs path : Sandbox _) (fun _ ↦ []) := by
  refine Relates.makeDirsFrom (KeepsFiles.refl []) (fun _ _ _ ↦ KeepsFiles.trans) ?_
  intro path _ d d' h location _ bytes
  rcases entryAt?_makeDir h location with he | ⟨-, hnone, hdir⟩
  · rw [he]
  · simp [hnone, hdir]

namespace Ensures

variable {x : Sandbox α} {f : α → Sandbox β} {P : β → Directory → Prop}

theorem of_run {Q : α → Directory → Prop} {a : α} {w w' : World} (h : Ensures x Q)
    (hrun : StateT.run x w = Pure.pure (a, w')) : Q a w'.files := by
  have hensures := h w
  rw [hrun] at hensures
  exact hensures

theorem bind (hf : ∀ a, Ensures (f a) P) : Ensures (x >>= f) P :=
  fun w ↦ hf (x.run w).1 (x.run w).2

theorem bind_of {Q : α → Directory → Prop} (hx : Ensures x Q)
    (hf : ∀ a w, Q a w.files → P ((f a).run w).1 ((f a).run w).2.files) : Ensures (x >>= f) P :=
  fun w ↦ hf _ _ (hx w)

theorem pure {b : β} (h : ∀ d, P b d) : Ensures (Pure.pure b : Sandbox β) P :=
  fun w ↦ h w.files

end Ensures

end Bulletin.Sandbox
