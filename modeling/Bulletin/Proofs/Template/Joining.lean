import Bulletin.Proofs.Text.Cut
import Bulletin.Template.Draft

namespace Bulletin

namespace Escape

theorem decodeChars_intercalate (lines : List (List Char)) :
    decodeChars ([' '].intercalate lines) = [' '].intercalate (lines.map decodeChars) := by
  induction lines with
  | nil => rfl
  | cons first lines ih =>
    cases lines with
    | nil => rw [List.map_singleton, List.intercalate_singleton, List.intercalate_singleton]
    | cons next lines =>
      rw [List.map_cons] at ih
      rw [List.map_cons, List.map_cons, List.intercalate_cons_cons, List.intercalate_cons_cons,
        List.append_assoc, List.singleton_append, decodeChars_append_space, ih, List.append_assoc,
        List.singleton_append]

theorem decodeChars_flatMap (lines : List (List Char)) :
    decodeChars (lines.flatMap (· ++ ['\n'])) = lines.flatMap decodeLine := by
  induction lines with
  | nil => rfl
  | cons first lines ih =>
    rw [List.flatMap_cons, List.flatMap_cons, List.append_assoc, List.singleton_append,
      decodeChars_append_newline, ih]

theorem decode_append_space (a b : String) :
    decode (a ++ " " ++ b) = decode a ++ " " ++ decode b := by
  have hcut := decodeChars_append_space a.toList b.toList
  simpa [← String.toList_inj] using hcut

theorem decode_append_newline (a b : String) :
    decode (a ++ "\n" ++ b) = String.ofList (decodeLine a.toList) ++ decode b := by
  have hcut := decodeChars_append_newline a.toList b.toList
  simpa [← String.toList_inj] using hcut

end Escape

namespace Draft

open Escape

/-- Decoding goes by words and by lines: blanks always separate, and a newline does unless an odd
number of backslashes stands in front of it, whose last one it takes away. So each section is what
its lines say, joined as they were. -/
theorem decode_joined_lines :
    (∀ a b : String, decode (a ++ " " ++ b) = decode a ++ " " ++ decode b) ∧
    (∀ a b : String, decode (a ++ "\n" ++ b) =
      if 2 ∣ openBackslashes a.toList then decode a ++ "\n" ++ decode b
      else decode (String.ofList a.toList.dropLast) ++ decode b) ∧
    ∀ d : Draft,
      d.finish.title.toList = [' '].intercalate (d.title.lines.reverse.map decodeChars) ∧
      d.finish.tag.toList = [' '].intercalate (d.tag.lines.reverse.map decodeChars) ∧
      d.finish.description.toList = d.description.lines.reverse.flatMap decodeLine := by
  refine ⟨decode_append_space, fun a b ↦ ?_, fun d ↦ ⟨?_, ?_, ?_⟩⟩
  · rw [decode_append_newline, decodeLine]
    split
    · simp [← String.toList_inj]
    · simp [← String.toList_inj]
  · exact String.toList_ofList.trans (decodeChars_intercalate _)
  · exact String.toList_ofList.trans (decodeChars_intercalate _)
  · exact String.toList_ofList.trans (decodeChars_flatMap _)

end Draft

end Bulletin
