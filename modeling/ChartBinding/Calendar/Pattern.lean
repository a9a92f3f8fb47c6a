import ChartBinding.Calendar.Date
import ChartBinding.Calendar.Scan

/-!
# Date patterns

A pattern is a list of items. Numbers may have white space before them and need not be padded; a
blank stands for any amount of white space, none included; every other character stands for itself.
-/

namespace ChartBinding.Calendar

inductive Item where
  | literal (c : Char)
  | blank
  | year
  | month
  | day
  | hour
  | minute
  | second
  | fraction
  | monthName
  /-- A month by three letters or by its full name. -/
  | longMonthName

structure Moment where
  date : Date
  time : Time

namespace Item

/-- A year: up to four digits, or a sign and any number of digits. -/
def scanYear : Scan Int := do
  match ← Scan.rest with
  | '-' :: _ =>
    Scan.char '-'
    return -((← Scan.allDigits 1).1 : Int)
  | '+' :: _ =>
    Scan.char '+'
    return (← Scan.allDigits 1).1
  | _ => return (← Scan.number 1 4)

/-- A number of one or two digits, after any white space. -/
def scanShort : Scan Nat := do
  Scan.blanks
  Scan.number 1 2

/-- Takes one item and puts what it says into the moment. -/
def scan (m : Moment) : Item → Scan Moment
  | literal c => do
    Scan.char c
    return m
  | blank => do
    Scan.blanks
    return m
  | year => do
    Scan.blanks
    return { m with date.year := ← scanYear }
  | month => return { m with date.month := ← scanShort }
  | day => return { m with date.day := ← scanShort }
  | hour => return { m with time.hour := ← scanShort }
  | minute => return { m with time.minute := ← scanShort }
  | second => return { m with time.second := ← scanShort }
  | fraction => do
    Scan.fraction
    return m
  | monthName => return { m with date.month := ← scanMonth }
  | longMonthName => return { m with date.month := ← scanLongMonth }

end Item

abbrev Pattern := List Item

namespace Pattern

/-- The moment that a text spells by a pattern; what a pattern leaves out is zero. -/
def moment? (p : Pattern) (cs : List Char) : Option Moment :=
  (p.foldlM Item.scan ⟨⟨0, 0, 0⟩, Time.midnight⟩ : Scan Moment).runAll cs

/-- Whether a text spells a date, or a date and a time, that exists. -/
def accepts (p : Pattern) (cs : List Char) : Bool :=
  match p.moment? cs with
  | some m => m.date.isValid && m.time.isValid
  | none => false

def clock : Pattern := [.hour, .literal ':', .minute, .literal ':', .second]

def yearFirst (separator : Char) : Pattern :=
  [.year, .literal separator, .month, .literal separator, .day]

def momentForms : List Pattern :=
  [yearFirst '-' ++ [.literal 'T'] ++ clock ++ [.fraction],
   yearFirst '-' ++ [.blank] ++ clock ++ [.fraction],
   yearFirst '-' ++ [.literal 'T', .hour, .literal ':', .minute],
   yearFirst '/' ++ [.blank] ++ clock]

def dateForms : List Pattern :=
  [yearFirst '-',
   yearFirst '/',
   [.month, .literal '/', .day, .literal '/', .year],
   [.monthName, .blank, .day, .blank, .year],
   [.longMonthName, .blank, .day, .literal ',', .blank, .year],
   [.day, .blank, .monthName, .blank, .year]]

end Pattern

end ChartBinding.Calendar
