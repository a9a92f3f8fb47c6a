import ChartBinding.Text.Hidden

/-!
# Quoted text in messages

A text is shown in a message between double quotes. Quotes, backslashes and the common controls
have short escapes; every other character without a visible form is written by its code point.
-/

namespace ChartBinding.Text

def hexDigits (n : Nat) : List Char := Nat.toDigits 16 n

/-- The form of one character inside quotes. -/
def escape (c : Char) : List Char :=
  if c = '"' || c = '\\' then ['\\', c]
  else if c = '\n' then ['\\', 'n']
  else if c = '\r' then ['\\', 'r']
  else if c = '\t' then ['\\', 't']
  else if c = '\x00' then ['\\', '0']
  else if isHidden c then "\\u\x7b".toList ++ hexDigits c.toNat ++ ['}']
  else [c]

/-- A text between quotes. -/
def quoted (s : String) : String :=
  "\"" ++ String.ofList (s.toList.flatMap escape) ++ "\""

end ChartBinding.Text
