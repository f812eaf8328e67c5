import Bulletin.Output
import Bulletin.Proofs.Text.Base64
import Bulletin.Template.Draft

namespace Bulletin.Output

theorem toList_text (o : Output) : o.text.toList =
    ("release_title=".toList ++ o.title.toList) ++
      '\n' :: ("release_description_b64=".toList ++ o.descriptionBase64.toList) ++
      '\n' :: ("release_tag=".toList ++ o.tag.toList) ++ ['\n'] := by
  simp [text, lines]

theorem count_newline_text (o : Output) : o.text.toList.count '\n' =
    3 + o.title.toList.count '\n' + o.descriptionBase64.toList.count '\n' +
      o.tag.toList.count '\n' := by
  have htitle : "release_title=".toList.count '\n' = 0 := by decide
  have hdescription : "release_description_b64=".toList.count '\n' = 0 := by decide
  have htag : "release_tag=".toList.count '\n' = 0 := by decide
  rw [toList_text]
  simp only [List.count_append, List.count_cons_self, List.count_nil, htitle, hdescription, htag]
  omega

theorem toList_descriptionBase64 (r : Release) :
    (ofRelease r).descriptionBase64.toList = Base64.encode (Utf8.encode r.description) :=
  String.toList_ofList

theorem newline_not_mem_descriptionBase64 (r : Release) :
    '\n' ∉ (ofRelease r).descriptionBase64.toList := by
  rw [toList_descriptionBase64]
  exact Base64.newline_not_mem_encode _

/-- The base64 of a description is the standard form of its UTF-8 bytes, blanks at its ends
included. Nothing else is decoded to these bytes, and no other description has this form. -/
theorem descriptionBase64_isFormOf (r : Release) :
    let bytes := Utf8.encode r.description
    let value := (ofRelease r).descriptionBase64.toList
    value.length = 4 * ((bytes.length + 2) / 3) ∧
    (∃ letters pads, value = letters ++ List.replicate pads Base64.pad ∧ pads ≤ 2 ∧
      ∀ c ∈ letters, c ∈ Base64.alphabet ∧ c ≠ Base64.pad) ∧
    (∀ c ∈ value, Text.isBlank c = false) ∧
    Base64.IsFormOf value bytes ∧
    (∀ s, Base64.decode? s = some bytes ↔ s = value) ∧
    ∀ r', (ofRelease r').descriptionBase64 = (ofRelease r).descriptionBase64 ↔
      r'.description = r.description := by
  intro bytes value
  have hvalue : value = Base64.encode bytes := toList_descriptionBase64 r
  have hform : Base64.IsFormOf value bytes := Base64.isFormOf_iff.mpr hvalue
  obtain ⟨letters, pads, hsplit, hpads, hletters⟩ := hform.exists_letters
  refine ⟨?_, ⟨letters, pads, hsplit, hpads, fun c hc ↦ ?_⟩, fun c hc ↦ ?_, hform, fun s ↦ ?_,
    fun r' ↦ ⟨fun h ↦ ?_, fun h ↦ ?_⟩⟩
  · rw [hvalue, Base64.length_encode]
  · exact ⟨hletters c hc, fun h ↦ Base64.pad_not_mem_alphabet (h ▸ hletters c hc)⟩
  · rw [hsplit, List.mem_append] at hc
    rcases hc with hc | hc
    · exact Base64.isBlank_eq_false_of_mem_alphabet (hletters c hc)
    · rw [List.eq_of_mem_replicate hc]
      rfl
  · rw [Base64.decode?_eq_some_iff, hvalue]
  · have hencoded : Base64.encode (Utf8.encode r'.description) = Base64.encode bytes := by
      rw [← toList_descriptionBase64, h, toList_descriptionBase64]
    have hbytes : Utf8.encode r'.description = bytes :=
      Option.some.inj (by rw [← Base64.decode?_encode, hencoded, Base64.decode?_encode])
    have hdescription := Utf8.decode?_encode r'.description
    rw [hbytes, Utf8.decode?_encode] at hdescription
    exact (Option.some.inj hdescription).symm
  · rw [ofRelease, h]
    rfl

/-- A text is three lines, each with its line end, and each with an assignment. -/
def IsAssignments (text : String) : Prop :=
  ∃ title description tag : List Char,
    '\n' ∉ title ∧ '\n' ∉ description ∧ '\n' ∉ tag ∧
    text.toList = title ++ '\n' :: description ++ '\n' :: tag ++ ['\n'] ∧
    "release_title=".toList <+: title ∧ "release_description_b64=".toList <+: description ∧
    "release_tag=".toList <+: tag

theorem count_newline_of_isAssignments {text : String} (h : IsAssignments text) :
    text.toList.count '\n' = 3 := by
  obtain ⟨title, description, tag, htitle, hdescription, htag, ht, -⟩ := h
  rw [ht]
  simp [List.count_eq_zero.mpr htitle, List.count_eq_zero.mpr hdescription,
    List.count_eq_zero.mpr htag]

/-- The outputs of a release are three lines exactly if there is no line end inside its title or its
tag, where trimming leaves it. -/
theorem isAssignments_text_iff (r : Release) : IsAssignments (ofRelease r).text ↔
    '\n' ∉ Text.trim r.title.toList ∧ '\n' ∉ Text.trim r.tag.toList := by
  have htitle : (ofRelease r).title.toList = Text.trim r.title.toList := Text.toList_trimmed _
  have htag : (ofRelease r).tag.toList = Text.trim r.tag.toList := Text.toList_trimmed _
  rw [← htitle, ← htag]
  constructor
  · intro h
    have hcount := count_newline_of_isAssignments h
    rw [count_newline_text] at hcount
    refine ⟨List.count_eq_zero.mp ?_, List.count_eq_zero.mp ?_⟩
    · omega
    · omega
  · rintro ⟨hnt, hng⟩
    have hnd := newline_not_mem_descriptionBase64 r
    refine ⟨_, _, _, ?_, ?_, ?_, toList_text _, List.prefix_append _ _, List.prefix_append _ _,
      List.prefix_append _ _⟩
    · simp [hnt]
    · simp [hnd]
    · simp [hng]

/-- An escape sequence in a template gives its title a second line. -/
theorem not_isAssignments_of_escaped_newline :
    let template :=
      "TITLE: v\\nrelease_tag=0//ASYNC_END\nDESCRIPTION: d//ASYNC_END\nTAG: 1//ASYNC_END"
    Template.release template = ⟨"v\nrelease_tag=0", "d", "1"⟩ ∧
      ¬IsAssignments (ofRelease (Template.release template)).text := by
  intro template
  have hr : Template.release template = ⟨"v\nrelease_tag=0", "d", "1"⟩ := by decide +kernel
  refine ⟨hr, fun h ↦ ?_⟩
  have hcount := count_newline_of_isAssignments h
  rw [hr] at hcount
  revert hcount
  decide +kernel

end Bulletin.Output
