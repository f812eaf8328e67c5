import Bulletin.Proofs.Pipeline.Outcome
import Bulletin.Proofs.Text.Ascii
import Bulletin.Proofs.Text.CodePoint

namespace Bulletin

open Sandbox

theorem Utf8.decode?_eq_none_iff {bytes : List UInt8} :
    decode? bytes = none ↔ ¬∃ numbers, Forms bytes numbers := by
  rw [exists_forms_iff, Option.eq_none_iff_forall_ne_some, not_exists]
  simp only [ne_eq, decode?_eq_some_iff]

namespace Source

variable {path : String} {w : World} {bytes : List UInt8} {text : String}

theorem run_read_encode (h : w.files.read path = .ok (Utf8.encode text)) :
    StateT.run (read path : Sandbox _) w = pure (.ok (some text), w) := by
  simp [read, h]

theorem run_read_of_decode?_eq_none (h : w.files.read path = .ok bytes)
    (hnone : Utf8.decode? bytes = none) : StateT.run (read path : Sandbox _) w =
      pure (.ok (some (Utf8.latin1 bytes)),
        ⟨w.files, w.journal ++ [.latin1Assumed path]⟩) := by
  simp [read, h, hnone]

theorem map_toNat_latin1 (bytes : List UInt8) :
    (Utf8.latin1 bytes).toList.map Char.toNat = bytes.map UInt8.toNat := by
  rw [Utf8.latin1, String.toList_ofList, List.map_map]
  apply List.map_congr_left
  intro b _
  exact UInt8.toNat_toUInt32 b

/-- The bytes of a file are read as the characters that they form, without a notice. If they form
none, each of them is read as a character, and a notice says so. In both cases what is ASCII keeps
its order, and a text that has been written is read back. -/
theorem read_forms_or_latin1 :
    (∀ path (w : World) bytes, w.files.read path = .ok bytes →
      (∀ numbers, Utf8.Forms bytes numbers → ∃ text : String,
        text.toList.map Char.toNat = numbers ∧ Utf8.KeepsAscii bytes text.toList ∧
        StateT.run (read path : Sandbox _) w = pure (.ok (some text), w)) ∧
      ((¬∃ numbers, Utf8.Forms bytes numbers) → ∃ text : String,
        text.toList.map Char.toNat = bytes.map UInt8.toNat ∧ Utf8.KeepsAscii bytes text.toList ∧
        StateT.run (read path : Sandbox _) w =
          pure (.ok (some text), ⟨w.files, w.journal ++ [.latin1Assumed path]⟩))) ∧
    (∀ text : String, Utf8.Forms (Utf8.encode text) (text.toList.map Char.toNat)) ∧
    ∀ path text (w : World) files, w.files.write path (Utf8.encode text) = .ok files →
      StateT.run (read path : Sandbox _) { w with files } =
        pure (.ok (some text), { w with files }) := by
  refine ⟨fun path w bytes h ↦ ⟨fun numbers hforms ↦ ?_, fun hnone ↦ ?_⟩,
    fun text ↦ (Utf8.forms_iff text).mpr rfl, fun path text w files h ↦ ?_⟩
  · obtain ⟨s, hs, rfl⟩ := hforms.exists_eq
    refine ⟨String.ofList s, ?_, ?_, run_read_encode ?_⟩
    · rw [String.toList_ofList, hs]
    · rw [String.toList_ofList]
      exact (Utf8.Aligned.of_bytes s).keepsAscii
    · rw [h, Utf8.encode_ofList]
      rfl
  · refine ⟨Utf8.latin1 bytes, map_toNat_latin1 bytes, ?_, ?_⟩
    · rw [Utf8.latin1, String.toList_ofList]
      exact (Utf8.Aligned.of_latin1 bytes).keepsAscii
    · exact run_read_of_decode?_eq_none h (Utf8.decode?_eq_none_iff.mpr hnone)
  · apply run_read_encode
    exact Directory.read_write h

/-- The last character there is, and a surrogate between ASCII, which is no character. -/
theorem read_forms_or_latin1_surrogate :
    let last : List UInt8 := [0xF4, 0x8F, 0xBF, 0xBF]
    let surrogate : List UInt8 := [0x41, 0xED, 0xA0, 0x80, 0x0A]
    let w : World := ⟨[("a", .file last), ("b", .file surrogate)], []⟩
    (w.files.read "a" = .ok last ∧ Utf8.Forms last [0x10FFFF] ∧ ∃ text : String,
      text.toList.map Char.toNat = [0x10FFFF] ∧
      StateT.run (read "a" : Sandbox _) w = pure (.ok (some text), w)) ∧
    (w.files.read "b" = .ok surrogate ∧ (¬∃ numbers, Utf8.Forms surrogate numbers) ∧
      ∃ text : String, text.toList.map Char.toNat = [0x41, 0xED, 0xA0, 0x80, 0x0A] ∧
      StateT.run (read "b" : Sandbox _) w =
        pure (.ok (some text), ⟨w.files, [.latin1Assumed "b"]⟩)) ∧
    ∃ files, w.files.write "b" (Utf8.encode "é") = .ok files ∧
      StateT.run (read "b" : Sandbox _) ⟨files, []⟩ = pure (.ok (some "é"), ⟨files, []⟩) := by
  intro last surrogate w
  obtain ⟨hread, -, hwrite⟩ := read_forms_or_latin1
  have hlast : w.files.read "a" = .ok last := by decide +kernel
  have hsurrogate : w.files.read "b" = .ok surrogate := by decide +kernel
  have hforms : Utf8.Forms last [0x10FFFF] :=
    @Utf8.Forms.cons last [] _ _
      ⟨.four rfl rfl rfl rfl rfl, by decide, by decide, by decide⟩ .nil
  have hnone : ¬∃ numbers, Utf8.Forms surrogate numbers :=
    Utf8.decode?_eq_none_iff.mp (by decide +kernel)
  obtain ⟨files, hfiles⟩ : ∃ files, w.files.write "b" (Utf8.encode "é") = .ok files :=
    ⟨_, rfl⟩
  obtain ⟨text, htext, -, hrun⟩ := (hread "a" w last hlast).1 _ hforms
  obtain ⟨text', htext', -, hrun'⟩ := (hread "b" w surrogate hsurrogate).2 hnone
  exact ⟨⟨hlast, hforms, text, htext, hrun⟩, ⟨hsurrogate, hnone, text', htext', hrun'⟩, files,
    hfiles, hwrite "b" "é" w files hfiles⟩

end Source

end Bulletin
