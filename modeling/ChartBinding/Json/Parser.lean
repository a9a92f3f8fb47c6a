import ChartBinding.Json.Number

/-!
# Reading JSON text

A recursive reader of JSON text. Members keep the order of the document; when a name is repeated,
its last value counts and keeps the first one's place.
-/

namespace ChartBinding.Json

namespace Parser

/-! ## Strings -/

/-- The value of a hexadecimal digit. -/
def hexValue? (c : Char) : Option Nat :=
  if c.isDigit then some (c.toNat - '0'.toNat)
  else if 'a' ≤ c ∧ c ≤ 'f' then some (c.toNat - 'a'.toNat + 10)
  else if 'A' ≤ c ∧ c ≤ 'F' then some (c.toNat - 'A'.toNat + 10)
  else none

/-- The value of four hexadecimal digits. -/
def hex4? (a b c d : Char) : Option Nat := do
  let a ← hexValue? a
  let b ← hexValue? b
  let c ← hexValue? c
  let d ← hexValue? d
  return ((a * 16 + b) * 16 + c) * 16 + d

def shortEscape? : Char → Option Char
  | '"' => some '"'
  | '\\' => some '\\'
  | '/' => some '/'
  | 'b' => some '\x08'
  | 'f' => some '\x0c'
  | 'n' => some '\n'
  | 'r' => some '\r'
  | 't' => some '\t'
  | _ => none

/-- The character of a code point that is not half of a surrogate pair. -/
def scalar? (n : Nat) : Option Char := if n.isValidChar then some (Char.ofNat n) else none

/-- Reads up to the closing quote; `done` holds the characters so far, last first. -/
def readStringBody (done : List Char) : List Char → Option (String × List Char)
  | '"' :: rest => some (String.ofList done.reverse, rest)
  | '\\' :: 'u' :: a :: b :: c :: d :: rest => do
    let high ← hex4? a b c d
    if 0xD800 ≤ high ∧ high < 0xDC00 then
      match rest with
      | '\\' :: 'u' :: a :: b :: c :: d :: rest =>
        let low ← hex4? a b c d
        if 0xDC00 ≤ low ∧ low < 0xE000 then
          let c ← scalar? (0x10000 + (high - 0xD800) * 0x400 + (low - 0xDC00))
          readStringBody (c :: done) rest
        else none
      | _ => none
    else
      let c ← scalar? high
      readStringBody (c :: done) rest
  | '\\' :: c :: rest => do
    let c ← shortEscape? c
    readStringBody (c :: done) rest
  | c :: rest => if c.toNat < 0x20 then none else readStringBody (c :: done) rest
  | [] => none

/-! ## Values -/

/-- The rest of a text after its leading JSON white space. -/
def skipSpace (cs : List Char) : List Char :=
  cs.dropWhile fun c => c == ' ' || c == '\t' || c == '\n' || c == '\r'

/-- Adds a member, or gives an earlier member of that name its new value. -/
def setMember (name : String) (v : Json) : List (String × Json) → List (String × Json)
  | [] => [(name, v)]
  | (k, w) :: rest => if k = name then (k, v) :: rest else (k, w) :: setMember name v rest

mutual

/-- Reads a value. Every value takes at least one character, so the length of the text bounds the
nesting and the number of elements, and `fuel` above it is never used up. -/
def readValue (fuel : Nat) (cs : List Char) : Option (Json × List Char) :=
  match fuel with
  | 0 => none
  | fuel + 1 =>
    match skipSpace cs with
    | 'n' :: 'u' :: 'l' :: 'l' :: rest => some (.null, rest)
    | 't' :: 'r' :: 'u' :: 'e' :: rest => some (.bool true, rest)
    | 'f' :: 'a' :: 'l' :: 's' :: 'e' :: rest => some (.bool false, rest)
    | '"' :: rest => (readStringBody [] rest).map fun (s, rest) => (.str s, rest)
    | '[' :: rest =>
      match skipSpace rest with
      | ']' :: rest => some (.arr [], rest)
      | rest => (readElems fuel [] rest).map fun (xs, rest) => (.arr xs, rest)
    | '\x7b' :: rest =>
      match skipSpace rest with
      | '\x7d' :: rest => some (.obj [], rest)
      | rest => (readMembers fuel [] rest).map fun (ms, rest) => (.obj ms, rest)
    | rest => (scanNumber rest).toOption

/-- Reads elements up to the closing bracket; `done` holds the elements so far, last first. -/
def readElems (fuel : Nat) (done : List Json) (cs : List Char) : Option (List Json × List Char) :=
  match fuel with
  | 0 => none
  | fuel + 1 =>
    match readValue fuel cs with
    | none => none
    | some (v, rest) =>
      match skipSpace rest with
      | ',' :: rest => readElems fuel (v :: done) rest
      | ']' :: rest => some ((v :: done).reverse, rest)
      | _ => none

/-- Reads members up to the closing brace. -/
def readMembers (fuel : Nat) (done : List (String × Json)) (cs : List Char) :
    Option (List (String × Json) × List Char) :=
  match fuel with
  | 0 => none
  | fuel + 1 =>
    match skipSpace cs with
    | '"' :: rest =>
      match readStringBody [] rest with
      | none => none
      | some (name, rest) =>
        match skipSpace rest with
        | ':' :: rest =>
          match readValue fuel rest with
          | none => none
          | some (v, rest) =>
            match skipSpace rest with
            | ',' :: rest => readMembers fuel (setMember name v done) rest
            | '\x7d' :: rest => some (setMember name v done, rest)
            | _ => none
        | _ => none
    | _ => none

end

end Parser

/-- Reads a text that holds one value and nothing else but white space. -/
def parse? (s : String) : Option Json :=
  let cs := s.toList
  match Parser.readValue (2 * cs.length + 2) cs with
  | some (v, rest) => if (Parser.skipSpace rest).isEmpty then some v else none
  | none => none

end ChartBinding.Json
