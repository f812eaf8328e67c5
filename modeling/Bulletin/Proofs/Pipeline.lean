import Bulletin.Compose
import Bulletin.Emit
import Bulletin.Proofs.Artifact.Store
import Bulletin.Proofs.Sandbox

namespace Bulletin

open Sandbox

namespace Source

end Source

namespace Template

end Template

namespace Artifact

end Artifact

def Layout.composed (l : Layout) : Except ComposeError Composition → List Location
  | .ok ⟨_, _, true⟩ => [Path.location l.template, Path.location l.artifact]
  | _ => [Path.location l.template]

/-- An emission gives the outputs of what the artifact holds, and appends them to its sink. -/
theorem emit_cases (artifact sink : String) (w : World) :
    (∃ r bytes files journal, w.files.read artifact = .ok bytes ∧ Artifact.decode bytes = .ok r ∧
      w.files.append sink (Utf8.encode (Output.ofRelease r).text) = .ok files ∧
      StateT.run (emit artifact sink : Sandbox _) w =
        pure (.ok (Output.ofRelease r), ⟨files, journal⟩)) ∨
    ∃ error, StateT.run (emit artifact sink : Sandbox _) w = pure (.error error, w) := by
  rcases Artifact.load_cases artifact w with ⟨r, bytes, hread, hdecode, hload⟩ | ⟨error, hload⟩
  · cases ha : w.files.append sink (Utf8.encode (Output.ofRelease r).text) with
    | error error =>
      refine Or.inr ⟨.sink sink error, ?_⟩
      simp [emit, hload, Output.appendTo, run_appendFile_of_error ha, Except.mapError]
    | ok files =>
      refine Or.inl ⟨r, bytes, files, w.journal ++ [.outputsEmitted sink (Output.ofRelease r).tag],
        hread, hdecode, ha, ?_⟩
      simp [emit, hload, Output.appendTo, run_appendFile_of_ok ha, Except.mapError]
  · exact Or.inr ⟨.artifact error, by simp [emit, hload]⟩

end Bulletin
