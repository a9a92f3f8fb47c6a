/-!
# Places in a text

A place is told by its line and by the characters before it on that line.
-/

namespace ChartBinding

/-- A place in a text: the number of its line, from one, and how many characters of the line come
before it. -/
structure Place where
  line : Nat
  column : Nat
deriving DecidableEq

namespace Place

def start : Place := ⟨1, 0⟩

/-- The place behind a character. -/
def next (p : Place) (c : Char) : Place :=
  if c = '\n' then ⟨p.line + 1, 0⟩ else ⟨p.line, p.column + 1⟩

/-- The place behind a text. -/
def behind (cs : List Char) : Place := cs.foldl next start

/-- The place up to which a text is read when `rest` is left of it. -/
def leaving (cs rest : List Char) : Place := behind (cs.take (cs.length - rest.length))

def text (p : Place) : String :=
  "line " ++ toString p.line ++ " column " ++ toString p.column

end Place

end ChartBinding
