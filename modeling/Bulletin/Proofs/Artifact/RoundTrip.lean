import Bulletin.Artifact.Store
import Bulletin.Proofs.FileTree.Change
import Bulletin.Proofs.Json.Strings

namespace Bulletin.Artifact

open Json

variable {texts texts' : Texts} {isFirst : Bool} {s member rest : List UInt8} {kind : Section}

theorem readMembers_of_item (hn : readNext .object isFirst s = .ok (.item member))
    (hm : readMember texts member = .ok (texts', rest)) :
    readMembers texts isFirst s = readMembers texts' false rest := by
  rw [readMembers]
  split
  · rename_i hfault
    cases hn.symm.trans hfault
  · rename_i hclosed
    cases hn.symm.trans hclosed
  · rename_i found hitem
    cases hn.symm.trans hitem
    split
    · rename_i hfault
      cases hm.symm.trans hfault
    · rename_i hread
      cases hm.symm.trans hread
      rfl

theorem readMembers_of_closed (hn : readNext .object isFirst s = .ok (.closed rest)) :
    readMembers texts isFirst s = .ok (texts, rest) := by
  rw [readMembers]
  split
  · rename_i hfault
    cases hn.symm.trans hfault
  · rename_i hclosed
    cases hn.symm.trans hclosed
    rfl
  · rename_i found hitem
    cases hn.symm.trans hitem

def memberBytes (kind : Section) (text : String) : List UInt8 :=
  quote :: stringBody kind.key ++ ascii ':' :: ascii ' ' :: quote :: stringBody text

theorem ofKey?_key (kind : Section) : Section.ofKey? kind.key = some kind := by
  cases kind <;> decide

theorem readMember_memberBytes (h : texts.get kind = none) (text : String) (s : List UInt8) :
    readMember texts (memberBytes kind text ++ s) = .ok (texts.set kind (some text), s) := by
  have hkey : readKeyQuote (memberBytes kind text ++ s) =
      .ok (stringBody kind.key ++ ascii ':' :: ascii ' ' :: quote :: (stringBody text ++ s)) := by
    rw [memberBytes, List.cons_append, List.cons_append, List.append_assoc]
    rfl
  have hcolon : readColon (ascii ':' :: ascii ' ' :: quote :: (stringBody text ++ s)) =
      .ok (ascii ' ' :: quote :: (stringBody text ++ s)) := rfl
  have htext : readText (ascii ' ' :: quote :: (stringBody text ++ s)) = .ok (text, s) :=
    readString_stringBody text s
  simp [readMember, hkey, hcolon, htext, readString_stringBody, ofKey?_key, h, bind, Except.bind]

def indent : List UInt8 :=
  [newline, ascii ' ', ascii ' ']

theorem encode_eq (r : Release) : encode r =
    ascii '\x7b' :: indent ++ memberBytes .title r.title ++
      (comma :: indent ++ memberBytes .description r.description ++
        (comma :: indent ++ memberBytes .tag r.tag ++ [newline, ascii '\x7d'])) := by
  have hopen : Utf8.encode "\x7b\n" = [ascii '\x7b', newline] := by decide
  have hnext : Utf8.encode ",\n" = [comma, newline] := by decide
  have hclose : Utf8.encode "\n\x7d" = [newline, ascii '\x7d'] := by decide
  have hblanks : Utf8.encode "  " = [ascii ' ', ascii ' '] := by decide
  have hcolon : Utf8.encode ": " = [ascii ':', ascii ' '] := by decide
  simp only [encode, writeObject, Section.all, List.map_cons, List.map_nil, PerSection.get,
    String.intercalate_cons_cons, String.intercalate_singleton, Utf8.encode_append,
    encode_writeString, hopen, hnext, hclose, hblanks, hcolon]
  simp [indent, memberBytes]

theorem readNext_first (kind : Section) (text : String) (s : List UInt8) :
    readNext .object true (indent ++ memberBytes kind text ++ s) =
      .ok (.item (memberBytes kind text ++ s)) :=
  rfl

theorem readNext_next (kind : Section) (text : String) (s : List UInt8) :
    readNext .object false (comma :: indent ++ memberBytes kind text ++ s) =
      .ok (.item (memberBytes kind text ++ s)) :=
  rfl

theorem readNext_close (s : List UInt8) :
    readNext .object false (newline :: ascii '\x7d' :: s) = .ok (.closed s) :=
  rfl

theorem readMembers_encode (r : Release) (s : List UInt8) :
    readMembers noTexts true (indent ++ memberBytes .title r.title ++
      (comma :: indent ++ memberBytes .description r.description ++
        (comma :: indent ++ memberBytes .tag r.tag ++ newline :: ascii '\x7d' :: s))) =
      .ok (r.map some, s) := by
  rw [readMembers_of_item (readNext_first _ _ _) (readMember_memberBytes rfl _ _),
    readMembers_of_item (readNext_next _ _ _) (readMember_memberBytes rfl _ _),
    readMembers_of_item (readNext_next _ _ _) (readMember_memberBytes rfl _ _),
    readMembers_of_closed (readNext_close s)]
  rfl

/-- The stored form of a release is read as that release, whatever follows it. -/
theorem readRelease_encode (r : Release) (s : List UInt8) :
    readRelease (encode r ++ s) = .ok (r, s) := by
  have hmembers := readMembers_encode r s
  have hstart : encode r ++ s = ascii '\x7b' :: (indent ++ memberBytes .title r.title ++
      (comma :: indent ++ memberBytes .description r.description ++
        (comma :: indent ++ memberBytes .tag r.tag ++ newline :: ascii '\x7d' :: s))) := by
    simp [encode_eq]
  have hspace (more : List UInt8) : skipSpace (ascii '\x7b' :: more) = ascii '\x7b' :: more := rfl
  have hopener : Bracket.ofOpener? (ascii '\x7b') = some .object := by decide
  rw [hstart, readRelease]
  simp only [hspace, hopener, hmembers]
  rfl

theorem decode_encode (r : Release) : decode (encode r) = .ok r := by
  have h := readRelease_encode r []
  rw [List.append_nil] at h
  simp [decode, readAll, h, bind, Except.bind, skipSpace, Except.mapError]

end Bulletin.Artifact
