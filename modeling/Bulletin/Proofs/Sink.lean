import Bulletin.Proofs.Output
import Bulletin.Proofs.Pipeline
import Bulletin.Proofs.Text.Lines

namespace Bulletin.Output

open Directory Sandbox

variable {bytes last : List UInt8} {lines added : List (List UInt8)} {o : Output} {sink : String}
  {w w' : World}

def lineEnd : UInt8 :=
  0x0A

/-- The lines of a file. What stands behind its last line end is a line only if there is
something. -/
def fileLines (bytes : List UInt8) : List (List UInt8) :=
  let pieces := bytes.splitOn lineEnd
  if pieces.getLast? = some [] then pieces.dropLast else pieces

def EndsLine (bytes : List UInt8) : Prop :=
  bytes = [] ∨ bytes.getLast? = some lineEnd

theorem exists_lines (bytes : List UInt8) : ∃ (lines : List (List UInt8)) (last : List UInt8),
    bytes = lines.flatMap (· ++ [lineEnd]) ++ last ∧ (∀ line ∈ lines, lineEnd ∉ line) ∧
      lineEnd ∉ last := by
  have hne := List.splitOn_ne_nil lineEnd bytes
  refine ⟨(bytes.splitOn lineEnd).dropLast, (bytes.splitOn lineEnd).getLast hne, ?_, ?_, ?_⟩
  · rw [← Text.intercalate_concat, List.dropLast_concat_getLast, List.intercalate_splitOn]
  · intro line hline
    exact Text.not_mem_of_mem_splitOn (List.dropLast_subset _ hline)
  · exact Text.not_mem_of_mem_splitOn (List.getLast_mem hne)

theorem splitOn_lines (hlines : ∀ line ∈ lines, lineEnd ∉ line) (hlast : lineEnd ∉ last) :
    (lines.flatMap (· ++ [lineEnd]) ++ last).splitOn lineEnd = lines ++ [last] := by
  have hall : ∀ line ∈ lines ++ [last], lineEnd ∉ line := by
    intro line hline
    rcases List.mem_append.mp hline with hline | hline
    · exact hlines line hline
    · exact List.mem_singleton.mp hline ▸ hlast
  rw [← Text.intercalate_concat]
  exact List.splitOn_intercalate lineEnd hall (List.concat_ne_nil _ _)

theorem fileLines_closed (hlines : ∀ line ∈ lines, lineEnd ∉ line) :
    fileLines (lines.flatMap (· ++ [lineEnd])) = lines := by
  have hpieces := splitOn_lines hlines (List.not_mem_nil (a := lineEnd))
  rw [List.append_nil] at hpieces
  rw [fileLines, hpieces, List.getLast?_concat, if_pos rfl, List.dropLast_concat]

theorem fileLines_open (hlines : ∀ line ∈ lines, lineEnd ∉ line) (hlast : lineEnd ∉ last)
    (hne : last ≠ []) : fileLines (lines.flatMap (· ++ [lineEnd]) ++ last) = lines ++ [last] := by
  rw [fileLines, splitOn_lines hlines hlast, List.getLast?_concat]
  exact if_neg (fun h ↦ hne (Option.some.inj h))

theorem endsLine_iff (hlast : lineEnd ∉ last) :
    EndsLine (lines.flatMap (· ++ [lineEnd]) ++ last) ↔ last = [] := by
  constructor
  · rintro (hnil | hend)
    · exact (List.append_eq_nil_iff.mp hnil).2
    · by_contra hne
      rw [List.getLast?_append_of_ne_nil _ hne] at hend
      exact hlast (List.mem_of_getLast? hend)
  · rintro rfl
    rw [List.append_nil]
    rcases List.eq_nil_or_concat' lines with rfl | ⟨front, line, rfl⟩
    · exact Or.inl rfl
    · right
      rw [List.flatMap_append, List.flatMap_singleton, ← List.append_assoc, List.getLast?_concat]

theorem fileLines_append_of_endsLine (hends : EndsLine bytes)
    (hadded : ∀ line ∈ added, lineEnd ∉ line) :
    fileLines (bytes ++ added.flatMap (· ++ [lineEnd])) = fileLines bytes ++ added := by
  obtain ⟨lines, last, rfl, hlines, hlast⟩ := exists_lines bytes
  obtain rfl := (endsLine_iff hlast).mp hends
  rw [List.append_nil, ← List.flatMap_append, fileLines_closed hlines, fileLines_closed]
  exact List.forall_mem_append.mpr ⟨hlines, hadded⟩

/-- The first of some whole lines goes on with a line that has no end. -/
theorem fileLines_append_of_not_endsLine {first : List UInt8} (hends : ¬EndsLine bytes)
    (hadded : ∀ line ∈ first :: added, lineEnd ∉ line) :
    ∃ lines last, fileLines bytes = lines ++ [last] ∧
      fileLines (bytes ++ (first :: added).flatMap (· ++ [lineEnd])) =
        lines ++ (last ++ first) :: added := by
  obtain ⟨lines, last, rfl, hlines, hlast⟩ := exists_lines bytes
  have hne : last ≠ [] := fun h ↦ hends ((endsLine_iff hlast).mpr h)
  obtain ⟨hfirst, hrest⟩ := List.forall_mem_cons.mp hadded
  have hjoined : lineEnd ∉ last ++ first := by
    rw [List.mem_append, not_or]
    exact ⟨hlast, hfirst⟩
  refine ⟨lines, last, fileLines_open hlines hlast hne, ?_⟩
  have hbytes : lines.flatMap (· ++ [lineEnd]) ++ last ++
      (first :: added).flatMap (· ++ [lineEnd]) =
      (lines ++ (last ++ first) :: added).flatMap (· ++ [lineEnd]) := by
    simp only [List.flatMap_append, List.flatMap_cons, List.append_assoc]
  rw [hbytes, fileLines_closed]
  exact List.forall_mem_append.mpr ⟨hlines, List.forall_mem_cons.mpr ⟨hjoined, hrest⟩⟩

theorem lineEnd_not_mem_encode {s : String} (h : '\n' ∉ s.toList) : lineEnd ∉ Utf8.encode s := by
  intro hmem
  obtain ⟨c, hc, hb⟩ := List.mem_flatMap.mp hmem
  have hc' : c = '\n' :=
    Char.toNat_inj.mp (Utf8.toNat_of_mem_utf8EncodeChar hb (by decide)).symm
  exact h (hc' ▸ hc)

theorem encode_text (o : Output) :
    Utf8.encode o.text = (o.lines.map Utf8.encode).flatMap (· ++ [lineEnd]) := by
  have hend : Utf8.encode "\n" = [lineEnd] := by decide
  rw [text, Utf8.encode_join, List.flatMap_map, List.flatMap_map]
  simp only [Utf8.encode_append, hend]

theorem newline_not_mem_lines {r : Release} (htitle : '\n' ∉ Text.trim r.title.toList)
    (htag : '\n' ∉ Text.trim r.tag.toList) : ∀ line ∈ (ofRelease r).lines, '\n' ∉ line.toList := by
  have hdescription := newline_not_mem_descriptionBase64 r
  intro line hline
  simp only [lines, List.mem_cons, List.not_mem_nil, or_false] at hline
  rcases hline with rfl | rfl | rfl
  · simpa [ofRelease] using htitle
  · simpa using hdescription
  · simpa [ofRelease] using htag

theorem run_appendTo_of_append {files : Directory}
    (h : w.files.append sink (Utf8.encode o.text) = .ok files) :
    StateT.run (o.appendTo sink : Sandbox _) w = pure (.ok (), { w with files }) := by
  simp only [appendTo, StateT.run_bind, run_appendFile_of_ok h, pure_bind, StateT.run_pure,
    Except.mapError]

theorem append_of_run (h : StateT.run (o.appendTo sink : Sandbox _) w = pure (.ok (), w')) :
    w.files.append sink (Utf8.encode o.text) = .ok w'.files := by
  cases ha : w.files.append sink (Utf8.encode o.text) with
  | error error =>
    simp only [appendTo, StateT.run_bind, run_appendFile_of_error ha, pure_bind,
      StateT.run_pure] at h
    cases (Prod.mk.inj h).1
  | ok files =>
    rw [run_appendTo_of_append ha] at h
    rw [← (Prod.mk.inj h).2]

/-- After the outputs of a release have been appended to a file, its lines are those from before and
the three of the outputs exactly if the file ended a line before. Otherwise the first output goes on
with the last line. -/
theorem fileLines_appendTo_iff {r : Release} (htitle : '\n' ∉ Text.trim r.title.toList)
    (htag : '\n' ∉ Text.trim r.tag.toList)
    (hrun : StateT.run ((ofRelease r).appendTo sink : Sandbox _) w = pure (.ok (), w')) :
    let before := w.files.bytesAt (Path.location sink)
    let outputs := (ofRelease r).lines.map Utf8.encode
    ∃ after, w'.files.read sink = .ok after ∧
      (fileLines after = fileLines before ++ outputs ↔ EndsLine before) ∧
      (¬EndsLine before → ∃ lines last first rest, fileLines before = lines ++ [last] ∧
        outputs = first :: rest ∧ fileLines after = lines ++ (last ++ first) :: rest) := by
  intro before outputs
  have hwrite := append_of_run hrun
  rw [append_eq_write, encode_text] at hwrite
  have houtputs : ∀ line ∈ outputs, lineEnd ∉ line := by
    intro line hline
    obtain ⟨output, ho, rfl⟩ := List.mem_map.mp hline
    exact lineEnd_not_mem_encode (newline_not_mem_lines htitle htag output ho)
  refine ⟨_, read_write hwrite, ?_⟩
  by_cases hends : EndsLine before
  · exact ⟨iff_of_true (fileLines_append_of_endsLine hends houtputs) hends,
      fun hopen ↦ absurd hends hopen⟩
  · obtain ⟨lines, last, hbefore, hafter⟩ := fileLines_append_of_not_endsLine hends houtputs
    refine ⟨iff_of_false (fun hsame ↦ ?_) hends, fun _ ↦ ⟨lines, last, _, _, hbefore, rfl, hafter⟩⟩
    have hlength := congrArg List.length (hafter.symm.trans hsame)
    rw [hbefore] at hlength
    simp only [List.length_append, List.length_cons, List.length_nil, outputs, Output.lines,
      List.map_cons, List.map_nil] at hlength
    omega

theorem fileLines_appendTo_ended :
    let r : Release := ⟨"T", "D", "G"⟩
    let w : World := ⟨[("out.txt", .file (Utf8.encode "x=1\n"))], []⟩
    '\n' ∉ Text.trim r.title.toList ∧ '\n' ∉ Text.trim r.tag.toList ∧
    ∃ w', StateT.run ((ofRelease r).appendTo "out.txt" : Sandbox _) w = pure (.ok (), w') ∧
      ∃ after, w'.files.read "out.txt" = .ok after ∧
        fileLines after =
          fileLines (Utf8.encode "x=1\n") ++ (ofRelease r).lines.map Utf8.encode := by
  intro r w
  have htitle : '\n' ∉ Text.trim r.title.toList := by decide
  have htag : '\n' ∉ Text.trim r.tag.toList := by decide
  obtain ⟨files, happend⟩ : ∃ files,
      w.files.append "out.txt" (Utf8.encode (ofRelease r).text) = .ok files := ⟨_, rfl⟩
  have hrun := run_appendTo_of_append happend
  obtain ⟨after, hread, hiff, -⟩ := fileLines_appendTo_iff htitle htag hrun
  exact ⟨htitle, htag, _, hrun, after, hread, hiff.mpr (Or.inr (by decide))⟩

theorem fileLines_appendTo_ne_of_open_line :
    let r : Release := ⟨"T", "D", "G"⟩
    let w : World := ⟨[("out.txt", .file (Utf8.encode "x=1"))], []⟩
    '\n' ∉ Text.trim r.title.toList ∧ '\n' ∉ Text.trim r.tag.toList ∧
    ∃ w', StateT.run ((ofRelease r).appendTo "out.txt" : Sandbox _) w = pure (.ok (), w') ∧
      ∃ after, w'.files.read "out.txt" = .ok after ∧
        (fileLines after).head? = some (Utf8.encode "x=1release_title=T") ∧
        fileLines after ≠
          fileLines (Utf8.encode "x=1") ++ (ofRelease r).lines.map Utf8.encode := by
  intro r w
  obtain ⟨files, happend⟩ : ∃ files,
      w.files.append "out.txt" (Utf8.encode (ofRelease r).text) = .ok files := ⟨_, rfl⟩
  have hwrite := happend
  rw [append_eq_write, encode_text] at hwrite
  refine ⟨by decide, by decide, _, run_appendTo_of_append happend, _, read_write hwrite, ?_, ?_⟩
  · decide +kernel
  · decide +kernel

end Bulletin.Output
