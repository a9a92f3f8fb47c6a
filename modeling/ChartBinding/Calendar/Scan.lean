import ChartBinding.Number.Numeral
import ChartBinding.Text.Blank

/-!
# Scanning dates and times

A scanner takes what it needs from the front of a text and leaves the rest, or refuses. The pieces
of written dates are scanned here: digits, white space, single characters and names of months.
-/

namespace ChartBinding.Calendar

abbrev Scan (α : Type) := StateT (List Char) Option α

namespace Scan

def rest : Scan (List Char) := get

def refuse {α : Type} : Scan α := fun _ => none

def require (p : Bool) : Scan Unit := if p then pure () else refuse

def char (c : Char) : Scan Unit
  | c' :: cs => if c = c' then some ((), cs) else none
  | [] => none

def oneOf (choices : List Char) : Scan Char
  | c :: cs => if choices.contains c then some (c, cs) else none
  | [] => none

/-- As many digits as there are, but not more than `most`; at least `least`. -/
def number (least most : Nat) : Scan Nat := fun cs =>
  let ds := (cs.take most).takeWhile Char.isDigit
  if ds.length < least then none else some (Numeral.natOf ds, cs.drop ds.length)

/-- All digits there are, at least `least`, and how many they are. -/
def allDigits (least : Nat) : Scan (Nat × Nat) := fun cs =>
  let ds := cs.takeWhile Char.isDigit
  if ds.length < least then none else some ((Numeral.natOf ds, ds.length), cs.drop ds.length)

def blanks : Scan Unit := fun cs => some ((), Text.trimStart cs)

def someBlanks : Scan Unit
  | c :: cs => if Text.isBlank c then some ((), Text.trimStart cs) else none
  | [] => none

/-- Takes what `s` takes, or nothing where `s` refuses. -/
def option {α : Type} (s : Scan α) : Scan (Option α) := fun cs =>
  match s cs with
  | some (a, cs) => some (some a, cs)
  | none => some (none, cs)

/-- A fraction of a second: a point and digits, which are dropped. -/
def fraction : Scan Unit := do
  match ← rest with
  | '.' :: _ =>
    char '.'
    let _ ← allDigits 1
  | _ => pure ()

def word (w : List Char) : Scan Unit := fun cs =>
  if (cs.take w.length).map Char.toLower = w then some ((), cs.drop w.length) else none

/-- The first word of a list that fits, by its index. -/
def wordOf (words : List (List Char)) : Scan Nat := fun cs =>
  words.zipIdx.findSome? fun w => (word w.1 cs).map fun r => (w.2, r.2)

/-- Runs a scanner over a whole text. -/
def runAll {α : Type} (s : Scan α) (cs : List Char) : Option α :=
  match s cs with
  | some (a, []) => some a
  | _ => none

end Scan

/-! ## Names -/

/-- The names of the months: three letters, and what follows them in the full name. -/
def monthNames : List (List Char × List Char) :=
  [("jan", "uary"), ("feb", "ruary"), ("mar", "ch"), ("apr", "il"), ("may", ""), ("jun", "e"),
   ("jul", "y"), ("aug", "ust"), ("sep", "tember"), ("oct", "ober"), ("nov", "ember"),
   ("dec", "ember")].map fun n => (n.1.toList, n.2.toList)

def weekdayNames : List (List Char) :=
  ["mon", "tue", "wed", "thu", "fri", "sat", "sun"].map String.toList

def scanMonth : Scan Nat := do
  return (← Scan.wordOf (monthNames.map (·.1))) + 1

def scanLongMonth : Scan Nat := do
  let i ← Scan.wordOf (monthNames.map (·.1))
  let _ ← Scan.option (Scan.word ((monthNames.map (·.2)).getD i []))
  return i + 1

end ChartBinding.Calendar
