namespace Bulletin.Json

def shortForm? : Char → Option Char
  | '"' => some '"'
  | '\\' => some '\\'
  | '\x08' => some 'b'
  | '\x0c' => some 'f'
  | '\n' => some 'n'
  | '\r' => some 'r'
  | '\t' => some 't'
  | _ => none

/-- A character inside a string. Only quotes, backslashes and control characters are escaped. -/
def writeChar (c : Char) : List Char :=
  match shortForm? c with
  | some letter => ['\\', letter]
  | none =>
    if c.toNat < 0x20 then
      ['\\', 'u', '0', '0', Nat.digitChar (c.toNat / 16), Nat.digitChar (c.toNat % 16)]
    else [c]

def writeString (s : String) : String :=
  "\"" ++ String.ofList (s.toList.flatMap writeChar) ++ "\""

def writeObject (members : List (String × String)) : String :=
  "\x7b\n" ++
    String.intercalate ",\n" (members.map fun (key, text) ↦
      "  " ++ writeString key ++ ": " ++ writeString text) ++
    "\n\x7d"

end Bulletin.Json
