import ChartBinding.Json.Basic

/-!
# Writing JSON text

Values are written without spaces, the members of every object by increasing name. Text is written
as it is, apart from the characters that JSON requires to be escaped and three line separators that
are escaped as well.
-/

namespace ChartBinding.Json

def unicodeEscape (c : Char) : List Char :=
  let ds := Nat.toDigits 16 c.toNat
  ['\\', 'u'] ++ List.replicate (4 - ds.length) '0' ++ ds

def escapeChar (c : Char) : List Char :=
  if c = '"' then ['\\', '"']
  else if c = '\\' then ['\\', '\\']
  else if c = '\n' then ['\\', 'n']
  else if c = '\r' then ['\\', 'r']
  else if c = '\t' then ['\\', 't']
  else if c = '\x08' then ['\\', 'b']
  else if c = '\x0c' then ['\\', 'f']
  else if c.toNat < 0x20 || c = '\u0085' || c = '\u2028' || c = '\u2029' then unicodeEscape c
  else [c]

def printString (s : String) : String :=
  "\"" ++ String.ofList (s.toList.flatMap escapeChar) ++ "\""

/-- An object of members that are already written, by increasing name. -/
def joinMembers (ms : List (String × String)) : String :=
  let sorted := ms.mergeSort fun a b => a.1 ≤ b.1
  "\x7b" ++ ",".intercalate (sorted.map fun m => printString m.1 ++ ":" ++ m.2) ++ "\x7d"

mutual

def print : Json → String
  | .null => "null"
  | .bool b => if b then "true" else "false"
  | .int i => toString i
  | .float x => x.text
  | .str s => printString s
  | .arr xs => "[" ++ ",".intercalate (printElems xs) ++ "]"
  | .obj ms => joinMembers (printMembers ms)

def printElems : List Json → List String
  | [] => []
  | x :: xs => x.print :: printElems xs

def printMembers : List (String × Json) → List (String × String)
  | [] => []
  | (k, v) :: rest => (k, v.print) :: printMembers rest

end

end ChartBinding.Json
