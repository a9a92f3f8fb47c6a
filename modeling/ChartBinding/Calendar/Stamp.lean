import ChartBinding.Calendar.Pattern

/-!
# Time stamps with a zone

Two standard notations for a point in time with its distance from universal time: the one of
internet protocols (`2020-02-13T12:30:00+01:00`) and the one of mail headers
(`Thu, 13 Feb 2020 12:30:00 +0100`).
-/

namespace ChartBinding.Calendar

structure Stamp where
  moment : Moment
  zone : Int

namespace Stamp

/-- Whether the moment exists, the zone is less than a day away from universal time, and universal
time then falls on a day that dates are kept for. -/
def isValid (s : Stamp) : Bool :=
  let universal := s.moment.time.minutes - s.zone
  s.moment.date.isValid && s.moment.time.isValid && decide (s.zone.natAbs < 24 * 60)
    && !(decide (universal < 0) && s.moment.date == Date.first)
    && !(decide (24 * 60 ≤ universal) && s.moment.date == Date.last)

/-! ## Zones -/

/-- Hours and minutes, two digits each, with `separator` between them; the minutes are less than an
hour. -/
def scanOffset (separator : Scan Unit) : Scan Int := do
  let hours ← Scan.number 2 2
  separator
  let minutes ← Scan.number 2 2
  Scan.require (minutes ≤ 59)
  return 60 * hours + minutes

/-- A zone of the internet notation: a letter for universal time, or a sign, hours and minutes. -/
def scanZone : Scan Int := do
  let c ← Scan.oneOf ['Z', 'z', '+', '-', '\u2212']
  if c = 'Z' ∨ c = 'z' then return 0
  let offset ← scanOffset (Scan.char ':')
  return if c = '+' then offset else -offset

/-- The zone names of mail headers, with their hours. -/
def zoneNames : List (List Char × Int) :=
  [("gmt", 0), ("ut", 0), ("z", 0), ("edt", -4), ("est", -5), ("cdt", -5), ("cst", -6), ("mdt", -6),
   ("mst", -7), ("pdt", -7), ("pst", -8)].map fun n => (n.1.toList, n.2)

/-- The minutes of a zone name: one of the list, or any single letter but J, which says nothing. -/
def namedZone? (name : List Char) : Option Int :=
  match zoneNames.find? fun n => n.1 = name, name with
  | some n, _ => some (60 * n.2)
  | none, [c] => if c = 'j' then none else some 0
  | none, _ => none

/-- A zone of the mail notation: letters, or a sign and four digits. -/
def scanMailZone : Scan Int := do
  let letters := (← Scan.rest).takeWhile Char.isAlpha
  if letters.isEmpty then
    let c ← Scan.oneOf ['+', '-']
    let offset ← scanOffset (pure ())
    return if c = '+' then offset else -offset
  else
    match namedZone? (letters.map Char.toLower) with
    | some zone =>
      Scan.word (letters.map Char.toLower)
      return zone
    | none => Scan.refuse

/-! ## The notation of internet protocols -/

/-- Numbers of fixed width, a `T` or a space, and a zone without space before it. -/
def scanInternet : Scan Stamp := do
  let year ← Scan.number 4 4
  Scan.char '-'
  let month ← Scan.number 2 2
  Scan.char '-'
  let day ← Scan.number 2 2
  let _ ← Scan.oneOf ['t', 'T', ' ']
  let hour ← Scan.number 2 2
  Scan.char ':'
  let minute ← Scan.number 2 2
  Scan.char ':'
  let second ← Scan.number 2 2
  Scan.fraction
  let zone ← scanZone
  return ⟨⟨⟨year, month, day⟩, ⟨hour, minute, second⟩⟩, zone⟩

/-! ## The notation of mail headers -/

/-- The year that a number of the given count of digits stands for: two digits for the hundred
years from 1950, three for years after 1900. -/
def mailYear (digits n : Nat) : Nat :=
  if digits = 2 then (if n < 50 then n + 2000 else n + 1900)
  else if digits = 3 then n + 1900
  else n

/-- The rest of a text after a comment whose opening parenthesis has been taken. Comments nest to
`depth`, and a backslash takes the meaning from the character after it. -/
def skipComment (depth : Nat) : List Char → Option (List Char)
  | [] => none
  | '\\' :: _ :: rest => skipComment depth rest
  | '(' :: rest => skipComment (depth + 1) rest
  | ')' :: rest => if depth = 0 then some rest else skipComment (depth - 1) rest
  | _ :: rest => skipComment depth rest

/-- Whether a text is a run of comments, each with any amount of white space before it. -/
def areComments (fuel : Nat) (cs : List Char) : Bool :=
  match fuel, cs with
  | _, [] => true
  | 0, _ => false
  | fuel + 1, cs =>
    match Text.trimStart cs with
    | '(' :: rest =>
      match skipComment 0 rest with
      | some rest => areComments fuel rest
      | none => false
    | _ => false

/-- A weekday and a comma. -/
def scanWeekday : Scan (Option Nat) := do
  match ← Scan.option (Scan.wordOf weekdayNames) with
  | some w =>
    Scan.char ','
    return some w
  | none => return none

/-- A mail date up to its zone. A weekday, if there is one, has to be that of the date. -/
def scanMail : Scan Stamp := do
  Scan.blanks
  let weekday ← scanWeekday
  Scan.blanks
  let day ← Scan.number 1 2
  Scan.someBlanks
  let month ← scanMonth
  Scan.someBlanks
  let (n, digits) ← Scan.allDigits 2
  Scan.someBlanks
  let hour ← Scan.number 2 2
  Scan.blanks
  Scan.char ':'
  Scan.blanks
  let minute ← Scan.number 2 2
  let second ← Scan.option do
    Scan.blanks
    Scan.char ':'
  let second ← if second.isSome then Scan.number 2 2 else pure 0
  Scan.someBlanks
  let zone ← scanMailZone
  let date : Date := ⟨mailYear digits n, month, day⟩
  Scan.require (weekday.isNone || weekday == some date.weekday)
  return ⟨⟨date, ⟨hour, minute, second⟩⟩, zone⟩

/-! ## Acceptance -/

/-- Whether a text is a time stamp of internet protocols that exists. -/
def isInternet (cs : List Char) : Bool :=
  match scanInternet.runAll cs with
  | some s => s.isValid
  | none => false

/-- Whether a text is a time stamp of mail headers that exists, with comments after it. -/
def isMail (cs : List Char) : Bool :=
  match scanMail cs with
  | some (s, rest) => s.isValid && areComments rest.length rest
  | none => false

end Stamp

/-- Whether a text is a date or a time stamp in one of the accepted forms, white space at its ends
apart. -/
def isDateText (s : String) : Bool :=
  let cs := Text.trim s.toList
  !cs.isEmpty
    && (Stamp.isInternet cs || Stamp.isMail cs
      || Pattern.momentForms.any (·.accepts cs) || Pattern.dateForms.any (·.accepts cs))

end ChartBinding.Calendar
