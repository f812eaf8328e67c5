import Bulletin.Proofs.Artifact.Store
import Bulletin.Proofs.Json.Skipping

namespace Bulletin.Artifact

open Json
open Utf8 (bytes)

variable {texts texts' : Texts} {m : String × Value} {ms : List (String × Value)} {v : Value}
  {s t : List Char} {front member rest : List UInt8} {isFirst : Bool}

def valuesOf (key : String) (ms : List (String × Value)) : List Value :=
  (ms.filter (·.1 = key)).map (·.2)

/-- A section is given at most one value, and none but a text. -/
def IsField (vs : List Value) : Prop :=
  vs.length ≤ 1 ∧ ∀ v ∈ vs, ∃ text, v = .string text

/-- An object that can be taken for a release, whatever other members it has. -/
def IsRelease (ms : List (String × Value)) : Prop :=
  ∀ kind : Section, IsField (valuesOf kind.key ms)

def releaseOf (ms : List (String × Value)) : Release :=
  .ofFn fun kind ↦
    match valuesOf kind.key ms with
    | [.string text] => text
    | _ => ""

/-- The texts with one more member, unless it is a second value for a section or not a text. -/
def addMember (texts : Texts) (m : String × Value) : Option Texts :=
  match Section.ofKey? m.1, m.2 with
  | none, _ => some texts
  | some kind, .string text =>
    if (texts.get kind).isSome then none else some (texts.set kind (some text))
  | some _, _ => none

def valueOf (texts : Texts) (kind : Section) : List Value :=
  ((texts.get kind).map Value.string).toList

theorem valuesOf_cons (key : String) (m : String × Value) (ms : List (String × Value)) :
    valuesOf key (m :: ms) = valuesOf key [m] ++ valuesOf key ms := by
  simp only [valuesOf, ← List.map_append, ← List.filter_append, List.singleton_append]

theorem ofKey?_eq_some {key : String} {kind : Section} :
    Section.ofKey? key = some kind ↔ key = kind.key := by
  constructor
  · intro h
    have hfound : decide (kind.key = key) = true :=
      List.find?_some (p := fun kind : Section ↦ decide (kind.key = key)) h
    exact (of_decide_eq_true hfound).symm
  · rintro rfl
    exact ofKey?_key kind

theorem key_inj {kind kind' : Section} (h : kind.key = kind'.key) : kind = kind' :=
  Option.some.inj ((ofKey?_key kind).symm.trans (h ▸ ofKey?_key kind'))

theorem valuesOf_known (kind kind' : Section) (v : Value) :
    valuesOf kind'.key [(kind.key, v)] = if kind' = kind then [v] else [] := by
  split
  · rename_i h
    simp [valuesOf, h]
  · rename_i h
    have hkey : kind.key ≠ kind'.key := fun hk ↦ h (key_inj hk).symm
    simp [valuesOf, hkey]

theorem isField_valueOf (texts : Texts) (kind : Section) : IsField (valueOf texts kind) := by
  rw [valueOf]
  cases texts.get kind with
  | none => exact ⟨Nat.zero_le _, fun v hv ↦ absurd hv List.not_mem_nil⟩
  | some text => exact ⟨Nat.le_refl _, fun v hv ↦ ⟨text, List.mem_singleton.mp hv⟩⟩

theorem valueOf_addMember (h : addMember texts m = some texts') (kind : Section) :
    valueOf texts' kind = valueOf texts kind ++ valuesOf kind.key [m] := by
  obtain ⟨key, v⟩ := m
  unfold addMember at h
  split at h
  · rename_i hk
    cases h
    have hne : key ≠ kind.key := fun he ↦ by
      rw [ofKey?_eq_some.mpr he] at hk
      cases hk
    simp [valuesOf, hne]
  · rename_i own text hk hv
    obtain rfl : v = .string text := hv
    obtain rfl : key = own.key := ofKey?_eq_some.mp hk
    split at h
    · cases h
    · rename_i hnone
      cases h
      rw [Option.not_isSome_iff_eq_none] at hnone
      rw [valuesOf_known, valueOf, valueOf, PerSection.get_set]
      by_cases hkind : kind = own
      · simp [hkind, hnone]
      · simp [hkind]
  · cases h

theorem exists_of_addMember_eq_none (h : addMember texts m = none) :
    ∃ kind, ¬IsField (valueOf texts kind ++ valuesOf kind.key [m]) := by
  obtain ⟨key, v⟩ := m
  unfold addMember at h
  split at h
  · cases h
  · rename_i own text hk hv
    obtain rfl : key = own.key := ofKey?_eq_some.mp hk
    split at h
    · rename_i hsome
      obtain ⟨old, hold⟩ := Option.isSome_iff_exists.mp hsome
      refine ⟨own, fun hfield ↦ ?_⟩
      have hlength := hfield.1
      simp [valuesOf_known, valueOf, hold] at hlength
    · cases h
  · rename_i own hk hv
    obtain rfl : key = own.key := ofKey?_eq_some.mp hk
    refine ⟨own, fun hfield ↦ ?_⟩
    rw [valuesOf_known, if_pos rfl] at hfield
    obtain ⟨text, htext⟩ := hfield.2 v (by simp)
    exact hv text htext

theorem IsField.of_append {vs vs' : List Value} (h : IsField (vs ++ vs')) : IsField vs := by
  refine ⟨?_, fun v hv ↦ h.2 v (List.mem_append_left _ hv)⟩
  have hlength := h.1
  rw [List.length_append] at hlength
  omega

theorem valueOf_foldlM (h : ms.foldlM addMember texts = some texts') (kind : Section) :
    valueOf texts' kind = valueOf texts kind ++ valuesOf kind.key ms := by
  induction ms generalizing texts with
  | nil =>
    cases h
    simp [valuesOf]
  | cons m ms ih =>
    rw [List.foldlM_cons] at h
    obtain ⟨next, hnext, h⟩ := Option.bind_eq_some_iff.mp h
    rw [ih h, valueOf_addMember hnext, valuesOf_cons _ m ms, List.append_assoc]

theorem exists_of_foldlM_eq_none (h : ms.foldlM addMember texts = none) :
    ∃ kind, ¬IsField (valueOf texts kind ++ valuesOf kind.key ms) := by
  induction ms generalizing texts with
  | nil => cases h
  | cons m ms ih =>
    rw [List.foldlM_cons] at h
    cases hnext : addMember texts m with
    | none =>
      obtain ⟨kind, hkind⟩ := exists_of_addMember_eq_none hnext
      refine ⟨kind, fun hfield ↦ hkind ?_⟩
      rw [valuesOf_cons _ m ms, ← List.append_assoc] at hfield
      exact hfield.of_append
    | some next =>
      rw [hnext] at h
      obtain ⟨kind, hkind⟩ := ih h
      refine ⟨kind, ?_⟩
      rwa [valuesOf_cons _ m ms, ← List.append_assoc, ← valueOf_addMember hnext]

/-- The members of an object add up exactly if it is a release. -/
theorem foldlM_addMember (ms : List (String × Value)) :
    (IsRelease ms ∧ ∃ texts, ms.foldlM addMember noTexts = some texts ∧
      texts.map (·.getD "") = releaseOf ms) ∨
    ¬IsRelease ms ∧ ms.foldlM addMember noTexts = none := by
  have hnone (kind : Section) : valueOf noTexts kind = [] := by cases kind <;> rfl
  cases hfold : ms.foldlM addMember noTexts with
  | none =>
    obtain ⟨kind, hkind⟩ := exists_of_foldlM_eq_none hfold
    rw [hnone, List.nil_append] at hkind
    exact Or.inr ⟨fun h ↦ hkind (h kind), rfl⟩
  | some texts =>
    have hvalues (kind : Section) : valuesOf kind.key ms = valueOf texts kind := by
      rw [valueOf_foldlM hfold, hnone, List.nil_append]
    refine Or.inl ⟨fun kind ↦ hvalues kind ▸ isField_valueOf texts kind, texts, rfl, ?_⟩
    ext kind
    rw [releaseOf, PerSection.get_map, PerSection.get_ofFn, hvalues, valueOf]
    cases texts.get kind <;> rfl

theorem readText_string {text : String} (h : Writes (.element (.string text)) s) :
    ∃ a, IsSpace a ∧ readText (bytes (s ++ t)) = .ok (text, bytes (a ++ t)) := by
  cases h with
  | @element _ b k a hb h ha =>
    cases h with
    | string h =>
      obtain @⟨form, h⟩ := h
      refine ⟨a, ha, ?_⟩
      rw [List.append_assoc, List.append_assoc, Utf8.bytes_append, Utf8.bytes_append, bytes_quoted,
        readText, skipSpace_bytes_cons hb (by decide)]
      simp [readString_writesChars h]

theorem readText_other (h : Writes (.element v) s) (hv : ∀ text, v ≠ .string text) :
    ∃ fault, readText (bytes (s ++ t)) = .error fault := by
  obtain ⟨c, hc, more, hmore⟩ := skipSpace_element h t
  have hquote := Value.ascii_ne_quote hv c hc
  rw [readText, hmore]
  exact ⟨_, if_neg hquote⟩

theorem toOption_readMember {key : String} {afterQuote afterKey value : List UInt8}
    (hquote : readKeyQuote member = .ok afterQuote)
    (hkey : readString afterQuote = .ok (key, afterKey)) (hcolon : readColon afterKey = .ok value)
    (texts : Texts) :
    (readMember texts member).toOption =
      match Section.ofKey? key with
      | none => (skipValue value).toOption.map fun rest ↦ (texts, rest)
      | some kind =>
        if (texts.get kind).isSome then none
        else (readText value).toOption.map fun (text, rest) ↦
          (texts.set kind (some text), rest) := by
  simp only [readMember, hquote, hkey, bind, Except.bind]
  cases Section.ofKey? key with
  | none =>
    simp only [hcolon]
    cases skipValue value <;> rfl
  | some kind =>
    cases hsome : (texts.get kind).isSome with
    | true => simp [hsome, Except.toOption]
    | false =>
      simp only [hsome, hcolon]
      cases readText value <;> rfl

theorem readMember_writes (h : Writes (.member m) s) (ht : Ends t) (texts : Texts) :
    ∃ a, IsSpace a ∧ (readMember texts (bytes (s ++ t))).toOption =
      (addMember texts m).map fun texts' ↦ (texts', bytes (a ++ t)) := by
  cases h with
  | @member key v b k a s hb hk ha h =>
    obtain @⟨form, hk⟩ := hk
    have hquote := readKeyQuote_bytes hb
      (bytes form ++ quote :: (bytes a ++ ascii ':' :: bytes (s ++ t)))
    have hkey := readString_writesChars hk (bytes a ++ ascii ':' :: bytes (s ++ t))
    rw [bytes_member, toOption_readMember hquote hkey (readColon_bytes ha _) texts, addMember]
    cases Section.ofKey? key with
    | none =>
      obtain ⟨a', ha', hskip⟩ := skipValue_element h ht
      exact ⟨a', ha', by rw [hskip]; rfl⟩
    | some kind =>
      cases v with
      | string text =>
        obtain ⟨a', ha', htext⟩ := readText_string (t := t) h
        refine ⟨a', ha', ?_⟩
        cases hsome : (texts.get kind).isSome <;>
          simp [-Utf8.bytes_append, hsome, htext, Except.toOption]
      | _ =>
        obtain ⟨fault, hfault⟩ := readText_other (t := t) h (fun text hv ↦ by cases hv)
        refine ⟨[], fun c hc ↦ absurd hc List.not_mem_nil, ?_⟩
        cases hsome : (texts.get kind).isSome <;> simp [-Utf8.bytes_append, hfault, Except.toOption]

theorem readMember_skipSpace (texts : Texts) (s : List UInt8) :
    readMember texts (skipSpace s) = readMember texts s := by
  rw [readMember, readKeyQuote, skipSpace_skipSpace]
  rfl

theorem toOption_readMembers_of_item (hn : readNext .object isFirst front = .ok (.item member))
    (texts : Texts) :
    (readMembers texts isFirst front).toOption =
      (readMember texts member).toOption.bind fun (texts', rest) ↦
        (readMembers texts' false rest).toOption := by
  cases hm : readMember texts member with
  | ok read => rw [readMembers_of_item hn hm]; rfl
  | error fault =>
    rw [readMembers]
    split
    · rfl
    · rename_i hclosed
      cases hn.symm.trans hclosed
    · rename_i found hitem
      cases hn.symm.trans hitem
      split
      · rfl
      · rename_i hread
        cases hm.symm.trans hread

theorem readNext_first_member (h : skipSpace front = quote :: rest) :
    readNext .object true front = .ok (.item (skipSpace front)) := by
  have hclose : quote ≠ Bracket.object.closer := by decide
  rw [readNext, h]
  simp [hclose]

theorem readNext_comma {a : List Char} (ha : IsSpace a) (h : skipSpace front = quote :: rest) :
    readNext .object false (bytes a ++ comma :: front) = .ok (.item (skipSpace front)) := by
  have hcomma : comma ≠ Bracket.object.closer := by decide
  have hclose : quote ≠ Bracket.object.closer := by decide
  rw [readNext, skipSpace_bytes_cons ha (by decide)]
  simp [hcomma, h, hclose]

theorem readNext_closer {a : List Char} (ha : IsSpace a) (isFirst : Bool) (rest : List UInt8) :
    readNext .object isFirst (bytes a ++ Bracket.object.closer :: rest) = .ok (.closed rest) := by
  rw [readNext, skipSpace_bytes_cons ha (by decide)]
  simp

theorem readMembers_writes (h : Writes (.members ms) s) (texts : Texts)
    (hn : readNext .object isFirst front = .ok (.item (skipSpace (bytes (s ++ '}' :: t))))) :
    (readMembers texts isFirst front).toOption =
      (ms.foldlM addMember texts).map fun texts' ↦ (texts', bytes t) := by
  induction ms generalizing s texts isFirst front with
  | nil => cases h
  | cons m ms ih =>
    rw [toOption_readMembers_of_item hn, readMember_skipSpace, List.foldlM_cons]
    cases h with
    | lastMember h =>
      obtain ⟨a, ha, hread⟩ := readMember_writes h
        (ends_cons (by decide : '}' ∈ spaces ++ [',', ']', '}']) t) texts
      rw [hread]
      cases addMember texts m with
      | none => rfl
      | some texts' =>
        have hclosed : readNext .object false (bytes (a ++ '}' :: t)) =
            .ok (.closed (bytes t)) := by
          rw [bytes_append_cons (by decide)]
          exact readNext_closer ha false (bytes t)
        exact congrArg Except.toOption (readMembers_of_closed hclosed)
    | @moreMembers _ _ s s' h hs =>
      obtain ⟨a, ha, hread⟩ := readMember_writes h
        (ends_cons (by decide : ',' ∈ spaces ++ [',', ']', '}']) (s' ++ '}' :: t)) texts
      rw [List.append_assoc, List.cons_append, hread]
      cases addMember texts m with
      | none => rfl
      | some texts' =>
        obtain ⟨more, hmore⟩ := skipSpace_members hs ('}' :: t)
        have hnext : readNext .object false (bytes (a ++ ',' :: (s' ++ '}' :: t))) =
            .ok (.item (skipSpace (bytes (s' ++ '}' :: t)))) := by
          rw [bytes_append_cons (by decide)]
          exact readNext_comma ha hmore
        exact ih hs texts' hnext

theorem readMembers_object (h : Writes (.value (.object ms)) s) :
    ∃ inner, s = '{' :: inner ++ ['}'] ∧ ∀ t,
      (readMembers noTexts true (bytes (inner ++ '}' :: t))).toOption =
        (ms.foldlM addMember noTexts).map fun texts ↦ (texts, bytes t) := by
  cases h with
  | @emptyObject b hb =>
    refine ⟨b, rfl, fun t ↦ ?_⟩
    rw [bytes_append_cons (by decide)]
    exact congrArg Except.toOption (readMembers_of_closed (readNext_closer hb true (bytes t)))
  | @object _ inner h =>
    refine ⟨inner, rfl, fun t ↦ ?_⟩
    obtain ⟨more, hmore⟩ := skipSpace_members h ('}' :: t)
    exact readMembers_writes h noTexts (readNext_first_member hmore)

theorem toOption_decode_of_opener {input : List UInt8} (hs : skipSpace input = ascii '{' :: rest) :
    (decode input).toOption = (readMembers noTexts true rest).toOption.bind fun (texts, after) ↦
      if skipSpace after = [] then some (texts.map (·.getD "")) else none := by
  have hopener : Bracket.ofOpener? (ascii '{') = some .object := by decide
  have hrelease : readRelease input =
      (readMembers noTexts true rest).map fun (texts, after) ↦ (texts.map (·.getD ""), after) := by
    simp only [readRelease, hs, hopener]
    cases readMembers noTexts true rest <;> rfl
  rw [decode, readAll, hrelease]
  cases readMembers noTexts true rest with
  | error fault => rfl
  | ok read =>
    obtain ⟨texts, after⟩ := read
    cases hafter : skipSpace after <;>
      simp [Except.map, bind, Except.bind, hafter, Except.mapError, Except.toOption]

/-- A text that says an object is decoded by adding up its members. -/
theorem toOption_decode {text : String} (h : IsTextOf (.object ms) text) :
    (decode (Utf8.encode text)).toOption =
      (ms.foldlM addMember noTexts).map fun texts ↦ texts.map (·.getD "") := by
  have hbytes : Utf8.encode text = bytes text.toList := rfl
  unfold IsTextOf at h
  generalize text.toList = s at h hbytes
  cases h with
  | @element _ b s a hb h ha =>
    obtain ⟨inner, rfl, hmembers⟩ := readMembers_object h
    have hopen : skipSpace (bytes (b ++ ('{' :: inner ++ ['}']) ++ a)) =
        ascii '{' :: bytes (inner ++ '}' :: a) := by
      rw [List.append_assoc, Utf8.bytes_append, List.cons_append, List.cons_append,
        List.append_assoc, bytes_cons_of_ascii (by decide), skipSpace_bytes_cons hb (by decide)]
      rfl
    have hend : skipSpace (bytes a) = [] := by
      have hskip := skipSpace_bytes ha []
      rwa [List.append_nil] at hskip
    rw [hbytes, toOption_decode_of_opener hopen, hmembers]
    cases ms.foldlM addMember noTexts <;> simp [hend]

/-- An object is fetched if each of its texts is given once and is a text, and it is malformed
otherwise, however it is written. -/
theorem load_object {path text : String} {w : World}
    (hread : w.files.read path = .ok (Utf8.encode text)) (htext : IsTextOf (.object ms) text) :
    (IsRelease ms → StateT.run (load path : Sandbox _) w = pure (.ok (releaseOf ms), w)) ∧
      (¬IsRelease ms →
        ∃ error, StateT.run (load path : Sandbox _) w = pure (.error (.malformed error), w)) := by
  have hdecode := toOption_decode htext
  rw [run_load_of_ok hread]
  rcases foldlM_addMember ms with ⟨hrelease, texts, hfold, htexts⟩ | ⟨hnot, hfold⟩
  · rw [hfold, Option.map_some, htexts] at hdecode
    refine ⟨fun _ ↦ ?_, fun hnot ↦ absurd hrelease hnot⟩
    cases hd : decode (Utf8.encode text) with
    | error error => rw [hd] at hdecode; cases hdecode
    | ok r =>
      rw [hd] at hdecode
      cases hdecode
      rfl
  · rw [hfold, Option.map_none] at hdecode
    refine ⟨fun hrelease ↦ absurd hrelease hnot, fun _ ↦ ?_⟩
    cases hd : decode (Utf8.encode text) with
    | error error => exact ⟨error, rfl⟩
    | ok r => rw [hd] at hdecode; cases hdecode

theorem load_object_escaped :
    let text :=
      "\x7b\"\\u0074ag\" : \"\\uD834\\udd1e\\/\",\"x\":[-1.5e3,\x7b\"tag\":null\x7d]\x7d\n"
    let ms := [("tag", .string "𝄞/"),
      ("x", .list [.number "-1.5e3", .object [("tag", .null)]])]
    let w : World := ⟨[("schema.json", .file (Utf8.encode text))], []⟩
    w.files.read "schema.json" = .ok (Utf8.encode text) ∧ IsTextOf (.object ms) text ∧
      IsRelease ms ∧ releaseOf ms = ⟨"", "", "𝄞/"⟩ ∧
      StateT.run (load "schema.json" : Sandbox _) w = pure (.ok ⟨"", "", "𝄞/"⟩, w) := by
  intro text ms w
  have hread : w.files.read "schema.json" = .ok (Utf8.encode text) := rfl
  have hplain (c : Char) (hc : 0x20 ≤ c.toNat ∧ c ≠ '"' ∧ c ≠ '\\') : WritesChar c [c] :=
    .plain hc.1 hc.2.1 hc.2.2
  have hkey : WritesString "tag" "\"\\u0074ag\"".toList := by
    have hchars : WritesChars "tag".toList "\\u0074ag".toList :=
      .cons (@WritesChar.numbers 't' [['0', '0', '7', '4']] (by decide))
        (.cons (hplain 'a' (by decide)) (.cons (hplain 'g' (by decide)) .nil))
    exact .quoted hchars
  have htag : WritesString "𝄞/" "\"\\uD834\\udd1e\\/\"".toList := by
    have hchars : WritesChars "𝄞/".toList "\\uD834\\udd1e\\/".toList :=
      .cons (@WritesChar.numbers '𝄞' [['D', '8', '3', '4'], ['d', 'd', '1', 'e']] (by decide))
        (.cons (.letter (Or.inr ⟨rfl, rfl⟩)) .nil)
    exact .quoted hchars
  have hother (key : String) : WritesString key ('"' :: key.toList.flatMap writeChar ++ ['"']) :=
    .quoted (writesChars_writeChar key.toList)
  have hnumber : IsNumber "-1.5e3".toList :=
    @IsNumber.signed ['-'] ['1'] ['.', '5'] ['e', '3'] (by decide) (by decide) (by decide)
      (.digits (by decide)) (@IsExponent.digits 'e' [] ['3'] (by decide) (by decide) (by decide))
  have hspace : IsSpace [] := by decide
  have hmember : Writes (.member ("tag", .null)) "\"tag\":null".toList :=
    .member hspace (hother "tag") hspace (.element hspace .null hspace)
  have hlist : Writes (.elements [.number "-1.5e3", .object [("tag", .null)]])
      "-1.5e3,\x7b\"tag\":null\x7d".toList :=
    .moreElements (.element hspace (.number hnumber) hspace)
      (.lastElement (.element hspace (.object (.lastMember hmember)) hspace))
  have hmembers := Writes.moreMembers
    (@Writes.member "tag" _ [] _ [' '] _ hspace hkey (by decide)
      (@Writes.element _ [' '] _ [] (by decide) (.string htag) hspace))
    (.lastMember (.member hspace (hother "x") hspace (.element hspace (.list hlist) hspace)))
  have htext : IsTextOf (.object ms) text := by
    unfold IsTextOf text
    exact @Writes.element _ [] _ ['\n'] hspace (.object hmembers) (by decide)
  have hrelease : IsRelease ms := by
    intro kind
    cases kind
    · exact ⟨by decide, fun v hv ↦ absurd hv List.not_mem_nil⟩
    · exact ⟨by decide, fun v hv ↦ absurd hv List.not_mem_nil⟩
    · exact ⟨by decide, fun v hv ↦ ⟨_, List.mem_singleton.mp hv⟩⟩
  exact ⟨hread, htext, hrelease, rfl, (load_object hread htext).1 hrelease⟩

end Bulletin.Artifact
