import Bulletin.Proofs.Artifact.Store
import Bulletin.Proofs.Json.Extension

namespace Bulletin.Artifact

open Json

variable {texts texts' : Texts} {isFirst : Bool} {s t rest bytes : List UInt8} {r : Release}

theorem readText_append {text : String} (h : readText s = .ok (text, rest)) (t : List UInt8) :
    readText (s ++ t) = .ok (text, rest ++ t) := by
  rw [readText] at h
  split at h
  · cases h
  rename_i b more hb
  rw [readText, skipSpace_append hb]
  dsimp only
  split at h
  · rename_i hquote
    rw [if_pos hquote, readString_append h]
  · cases h

theorem readMember_append (h : readMember texts s = .ok (texts', rest)) (hne : rest ≠ [])
    (t : List UInt8) : readMember texts (s ++ t) = .ok (texts', rest ++ t) := by
  obtain ⟨afterQuote, hq, h⟩ := exists_of_bind_eq_ok h
  obtain ⟨⟨key, afterKey⟩, hk, h⟩ := exists_of_bind_eq_ok h
  rw [readMember, readKeyQuote_append hq]
  simp only [bind, Except.bind, readString_append hk] at h ⊢
  split at h
  · obtain ⟨afterColon, hc, h⟩ := exists_of_bind_eq_ok h
    obtain ⟨afterValue, hv, h⟩ := exists_of_bind_eq_ok h
    cases h
    simp only [readColon_append hc, skipValue_append hv hne]
  · split at h
    · cases h
    · rename_i hnew
      obtain ⟨afterColon, hc, h⟩ := exists_of_bind_eq_ok h
      obtain ⟨⟨text, afterText⟩, ht, h⟩ := exists_of_bind_eq_ok h
      cases h
      rw [if_neg hnew]
      simp only [readColon_append hc, readText_append ht]

theorem readMembers_append (h : readMembers texts isFirst s = .ok (texts', rest)) (t : List UInt8) :
    readMembers texts isFirst (s ++ t) = .ok (texts', rest ++ t) := by
  fun_induction readMembers texts isFirst s with
  | case1 texts isFirst s fault hn => cases h
  | case2 texts isFirst s closed hn =>
    cases h
    rw [readMembers_of_closed (readNext_append hn t)]
  | case3 texts isFirst s member hn fault hm => cases h
  | case4 texts isFirst s member hn texts₁ more hm ih =>
    have hne : more ≠ [] := by
      rintro rfl
      simp [readMembers, readNext, skipSpace] at h
    rw [readMembers_of_item (readNext_append hn t) (readMember_append hm hne t)]
    exact ih h

theorem readItems_append {kinds : List Section}
    (h : readItems texts isFirst kinds s = .ok (texts', rest)) (t : List UInt8) :
    readItems texts isFirst kinds (s ++ t) = .ok (texts', rest ++ t) := by
  induction kinds generalizing texts isFirst s with
  | nil =>
    rw [readItems] at h
    split at h
    · cases h
    rename_i b more hb
    rw [readItems, skipSpace_append hb]
    dsimp only
    split at h
    · rename_i hcloser
      cases h
      rw [if_pos hcloser]
    · split at h
      · dsimp only at h
        split at h <;> cases h
      · cases h
  | cons kind kinds ih =>
    obtain ⟨next, hn, h⟩ := exists_of_bind_eq_ok h
    rw [readItems, readNext_append hn]
    cases next with
    | closed more =>
      cases h
      rfl
    | item more =>
      obtain ⟨⟨text, afterText⟩, ht, h⟩ := exists_of_bind_eq_ok h
      simp only [bind, Except.bind, Next.append, readText_append ht]
      exact ih h

theorem readRelease_append (h : readRelease s = .ok (r, rest)) (t : List UInt8) :
    readRelease (s ++ t) = .ok (r, rest ++ t) := by
  rw [readRelease] at h
  split at h
  · cases h
  rename_i b more hb
  rw [readRelease, skipSpace_append hb]
  dsimp only
  split at h
  · obtain ⟨⟨texts, left⟩, htexts, h⟩ := exists_of_bind_eq_ok h
    cases h
    rw [readMembers_append htexts]
    rfl
  · obtain ⟨⟨texts, left⟩, htexts, h⟩ := exists_of_bind_eq_ok h
    cases h
    rw [readItems_append htexts]
    rfl
  · cases h

theorem decode_eq_ok_iff : decode bytes = .ok r ↔
    ∃ rest, readRelease bytes = .ok (r, rest) ∧ ∀ b ∈ rest, isSpace b := by
  rw [decode, readAll]
  constructor
  · intro h
    cases hread : readRelease bytes with
    | error fault =>
      rw [hread] at h
      cases h
    | ok read =>
      obtain ⟨r', rest⟩ := read
      rw [hread] at h
      dsimp only [bind, Except.bind] at h
      split at h
      · rename_i hnone
        cases h
        exact ⟨rest, rfl, List.dropWhile_eq_nil_iff.mp hnone⟩
      · cases h
  · rintro ⟨rest, hread, hspace⟩
    have hnone : skipSpace rest = [] := List.dropWhile_eq_nil_iff.mpr hspace
    simp [hread, hnone, bind, Except.bind, Except.mapError]

/-- What stands in front of the end of a stored release cannot be read. -/
theorem decode_ne_ok_of_cut (hs : s <+: encode r) (hne : s ≠ encode r) (r' : Release) :
    decode s ≠ .ok r' := by
  intro h
  obtain ⟨rest, hread, -⟩ := decode_eq_ok_iff.mp h
  obtain ⟨t, ht⟩ := hs
  have hwhole := readRelease_append hread t
  have hencode := readRelease_encode r []
  rw [List.append_nil, ← ht, hwhole] at hencode
  obtain ⟨-, hrest⟩ := Prod.mk.inj (Except.ok.inj hencode)
  obtain ⟨-, rfl⟩ := List.append_eq_nil_iff.mp hrest
  exact hne (by rw [← ht, List.append_nil])

theorem decode_ne_ok_of_trailing {b : UInt8} (hb : b ∈ t) (hspace : ¬isSpace b) (r' : Release) :
    decode (encode r ++ t) ≠ .ok r' := by
  intro h
  obtain ⟨rest, hread, hrest⟩ := decode_eq_ok_iff.mp h
  rw [readRelease_encode] at hread
  cases hread
  exact hspace (hrest b hb)

theorem read_of_save {path : String} {w w' : World}
    (h : StateT.run (save r path : Sandbox _) w = pure (.ok (), w')) :
    w'.files.read path = .ok (encode r) := by
  rcases save_cases r path w with ⟨files, hwrite, hrun⟩ | ⟨error, hrun⟩
  · obtain rfl : { w with files } = w' := congrArg Prod.snd (hrun.symm.trans h)
    exact Directory.read_write hwrite
  · cases congrArg Prod.fst (hrun.symm.trans h)

theorem run_load_of_decode_ne_ok {path : String} {w : World}
    (hfile : w.files.read path = .ok bytes) (h : ∀ r, decode bytes ≠ .ok r) :
    ∃ error, StateT.run (load path : Sandbox _) w = pure (.error (.malformed error), w) := by
  rw [run_load_of_ok hfile]
  cases hd : decode bytes with
  | error error => exact ⟨error, rfl⟩
  | ok r => exact absurd hd (h r)

/-- A file that holds only a beginning of a stored release, or more than blanks behind it, is
malformed. -/
theorem load_of_torn (r : Release) :
    (∀ path w w', StateT.run (save r path : Sandbox _) w = pure (.ok (), w') →
      w'.files.read path = .ok (encode r)) ∧
    ∀ bytes,
      (bytes <+: encode r ∧ bytes ≠ encode r) ∨
        (∃ more, bytes = encode r ++ more ∧ ∃ b ∈ more, ¬isSpace b) →
      ∀ path w, w.files.read path = .ok bytes →
        ∃ error, StateT.run (load path : Sandbox _) w = pure (.error (.malformed error), w) := by
  constructor
  · intro path w w' h
    exact read_of_save h
  · intro bytes htorn path w hfile
    have hdecode : ∀ r', decode bytes ≠ .ok r' := by
      rcases htorn with ⟨hs, hne⟩ | ⟨more, hbytes, b, hb, hspace⟩
      · exact decode_ne_ok_of_cut hs hne
      · rw [hbytes]
        exact decode_ne_ok_of_trailing hb hspace
    exact run_load_of_decode_ne_ok hfile hdecode

/-- The first file ends inside a character, and behind the object of the second one stands a
brace. -/
theorem load_of_torn_inside_character :
    let r : Release := ⟨"é\x7d", "\x7d", ""⟩
    let cut := (encode r).take 15
    let more : List UInt8 := [newline, ascii '\x7d']
    let w : World := ⟨[("temp", .directory []), ("cut", .file cut),
      ("more", .file (encode r ++ more))], []⟩
    let w' : World := ⟨[("temp", .directory [("schema.json", .file (encode r))]),
      ("cut", .file cut), ("more", .file (encode r ++ more))], []⟩
    StateT.run (save r "temp/schema.json" : Sandbox _) w = pure (.ok (), w') ∧
      w'.files.read "temp/schema.json" = .ok (encode r) ∧
      (∃ error, StateT.run (load "cut" : Sandbox _) w = pure (.error (.malformed error), w)) ∧
      ∃ error, StateT.run (load "more" : Sandbox _) w = pure (.error (.malformed error), w) := by
  intro r cut more w w'
  obtain ⟨hstored, htorn⟩ := load_of_torn r
  have ht : w.files.target "temp/schema.json" = .ok ["temp", "schema.json"] := by decide +kernel
  have hput (bytes : List UInt8) : w.files.put (.file bytes) ["temp", "schema.json"] =
      [("temp", .directory [("schema.json", .file bytes)]), ("cut", .file cut),
        ("more", .file (encode r ++ more))] := rfl
  have hwrite : w.files.write "temp/schema.json" (encode r) = .ok w'.files :=
    (Directory.write_of_target ht).trans (congrArg Except.ok (hput (encode r)))
  have hsave : StateT.run (save r "temp/schema.json" : Sandbox _) w = pure (.ok (), w') :=
    run_save_of_ok (by decide +kernel) hwrite
  have hcut : w.files.read "cut" = .ok cut := rfl
  have hmore : w.files.read "more" = .ok (encode r ++ more) := rfl
  refine ⟨hsave, hstored _ _ _ hsave, htorn cut (Or.inl ⟨List.take_prefix 15 _, ?_⟩) _ _ hcut,
    htorn _ (Or.inr ⟨more, rfl, ascii '\x7d', by decide, by decide⟩) _ _ hmore⟩
  decide +kernel

end Bulletin.Artifact
