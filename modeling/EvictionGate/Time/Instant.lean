import EvictionGate.Text.Blank

/-!
# Instants

The timestamps of an object are date-times with a zone in the manner of RFC 3339,
read leniently: a number may lack its leading zeros, blanks may stand before a
number or a separator, and the date and the time may be joined by a blank; blanks
may follow the zone. The calendar and the clock are checked; a minute may have 61
seconds. The day must be one of the calendar's, both where the time was taken and
in universal time.

Nothing but the validity of a timestamp matters here, so an instant is not kept.
-/

namespace EvictionGate.Time

open EvictionGate.Text (isBlank)

/-- Whether a year has 366 days. -/
def isLeapYear (year : Int) : Bool :=
  year % 4 == 0 && (year % 100 != 0 || year % 400 == 0)

/-- A day of the calendar. -/
structure Day where
  year : Int
  month : Nat
  day : Nat
  deriving DecidableEq

/-- The first day that the calendar holds. -/
def firstDay : Day := ⟨-262143, 1, 1⟩

/-- The last day that the calendar holds. -/
def lastDay : Day := ⟨262142, 12, 31⟩

/-- The number of days of a month, counted from 1. -/
def daysInMonth (year : Int) (month : Nat) : Nat :=
  if month = 2 then (if isLeapYear year then 29 else 28)
  else if month = 4 || month = 6 || month = 9 || month = 11 then 30
  else 31

/-- The number written by the digits at the start, at most `width` of them. -/
def takeNumber (width : Nat) (cs : List Char) : Option (Nat × List Char) :=
  let ds := (cs.take width).takeWhile Char.isDigit
  if ds.isEmpty then none
  else some (ds.foldl (fun n c => n * 10 + (c.toNat - 48)) 0, cs.drop ds.length)

/-- A number after blanks. -/
def number (width : Nat) (cs : List Char) : Option (Nat × List Char) :=
  takeNumber width (cs.dropWhile isBlank)

/-- A year after blanks: four digits at most, or a sign and any digits. -/
def year (cs : List Char) : Option (Int × List Char) :=
  match cs.dropWhile isBlank with
  | '-' :: rest => (takeNumber rest.length rest).map fun (n, rest) => (-(n : Int), rest)
  | '+' :: rest => (takeNumber rest.length rest).map fun (n, rest) => ((n : Int), rest)
  | rest => (takeNumber 4 rest).map fun (n, rest) => ((n : Int), rest)

/-- The rest after blanks and a separator. -/
def separator (c : Char) (cs : List Char) : Option (List Char) :=
  match cs.dropWhile isBlank with
  | d :: rest => if d = c then some rest else none
  | [] => none

/-- Whether a day is one of the calendar's. -/
def Day.isValid (d : Day) : Bool :=
  firstDay.year ≤ d.year && d.year ≤ lastDay.year && 1 ≤ d.month && d.month ≤ 12
    && 1 ≤ d.day && d.day ≤ daysInMonth d.year d.month

/-- A day and the rest. -/
def date (cs : List Char) : Option (Day × List Char) := do
  let (y, cs) ← year cs
  let cs ← separator '-' cs
  let (m, cs) ← number 2 cs
  let cs ← separator '-' cs
  let (d, cs) ← number 2 cs
  guard (Day.isValid ⟨y, m, d⟩)
  some (⟨y, m, d⟩, cs)

/-- The rest after a fraction of a second, if there is one. -/
def fraction : List Char → Option (List Char)
  | '.' :: rest =>
    let ds := rest.takeWhile Char.isDigit
    if ds.isEmpty then none else some (rest.drop ds.length)
  | cs => some cs

/-- The minutes since midnight and the rest. -/
def clock (cs : List Char) : Option (Nat × List Char) := do
  let (h, cs) ← number 2 cs
  let cs ← separator ':' cs
  let (m, cs) ← number 2 cs
  let cs ← separator ':' cs
  let (s, cs) ← number 2 cs
  guard (h ≤ 23 && m ≤ 59 && s ≤ 60)
  let cs ← fraction cs
  some (h * 60 + m, cs)

/-- Two digits exactly. -/
def pair : List Char → Option (Nat × List Char)
  | a :: b :: rest =>
    if a.isDigit && b.isDigit then some ((a.toNat - 48) * 10 + (b.toNat - 48), rest) else none
  | _ => none

/-- The minutes of a distance from universal time without its sign, and the rest. -/
def distance (cs : List Char) : Option (Nat × List Char) := do
  let (h, cs) ← pair cs
  let (m, cs) ← pair (cs.dropWhile fun c => c = ':' || isBlank c)
  guard (h ≤ 23 && m ≤ 59)
  some (h * 60 + m, cs)

/-- The minutes by which a zone is ahead of universal time, and the rest. -/
def zone (cs : List Char) : Option (Int × List Char) :=
  let cs := cs.dropWhile isBlank
  let behind (rest : List Char) := (distance rest).map fun (m, rest) => (-(m : Int), rest)
  if (cs.take 3).map Char.toUpper = ['U', 'T', 'C'] then some (0, cs.drop 3)
  else match cs with
    | 'Z' :: rest => some (0, rest)
    | 'z' :: rest => some (0, rest)
    | '+' :: rest => (distance rest).map fun (m, rest) => ((m : Int), rest)
    | '-' :: rest => behind rest
    | '−' :: rest => behind rest
    | _ => none

/-- The number of minutes of a day. -/
def dayMinutes : Int := 1440

/-- Whether the calendar still holds the day when the zone has been taken off. -/
def Day.holds (d : Day) (minutes : Nat) (ahead : Int) : Bool :=
  let universal : Int := minutes - ahead
  !(universal < 0 && d == firstDay) && !(dayMinutes ≤ universal && d == lastDay)

/-- Whether a text is a date, a joint, a time of day and a zone, with no more than
blanks after. -/
def isInstant (s : String) : Bool :=
  match date s.toList with
  | some (day, c :: rest) =>
    (c = 'T' || c = 't' || c = ' ') &&
      match (clock rest).bind fun (minutes, rest) => (zone rest).map (minutes, ·) with
      | some (minutes, ahead, rest) => day.holds minutes ahead && rest.all isBlank
      | none => false
  | _ => false

end EvictionGate.Time
