import TokenMint.Text.Blank
import TokenMint.Time.Calendar
import TokenMint.Time.Instant

/-! # Timestamps

An instant is written as date and time of day in universal time, with as many fraction digits as it
needs of none, three, six or nine. Two forms are read: the strict one, and a loose one in which
numbers may be short or come after blanks, and seconds and zone may be left out. In all of them a
leap second is the sixty-first of its minute. -/

namespace TokenMint.Timestamp

/-! ## Writing -/

/-- At least so many digits. -/
def padded (width n : Nat) : String :=
  let ds := Nat.toDigits 10 n
  .ofList (List.replicate (width - ds.length) '0' ++ ds)

def writeYear (y : Int) : String :=
  if y < 0 then "-" ++ padded 4 y.natAbs
  else if y ≤ 9999 then padded 4 y.natAbs
  else "+" ++ padded 5 y.natAbs

/-- The fraction of a second, if there is one. -/
def writeFraction (nanos : Nat) : String :=
  if nanos = 0 then ""
  else if nanos % 1000000 = 0 then "." ++ padded 3 (nanos / 1000000)
  else if nanos % 1000 = 0 then "." ++ padded 6 (nanos / 1000)
  else "." ++ padded 9 nanos

/-- Whether an instant lies in a leap second. -/
def inLeapSecond (t : Instant) : Bool := Instant.nanosPerSecond ≤ t.nanos

/-- Date and time of day, down to the second. -/
def writeSecond (t : Instant) : String :=
  let days := t.second.fdiv 86400
  let d := Date.ofDays days
  let s := (t.second - days * 86400).toNat
  writeYear d.year ++ "-" ++ padded 2 d.month ++ "-" ++ padded 2 d.day ++ "T"
    ++ padded 2 (s / 3600) ++ ":" ++ padded 2 (s / 60 % 60) ++ ":"
    ++ padded 2 (s % 60 + if inLeapSecond t then 1 else 0)

/-- The nanoseconds within the second that is written. -/
def subsecond (t : Instant) : Nat := t.nanos % Instant.nanosPerSecond.toNat

def write (t : Instant) : String := writeSecond t ++ writeFraction (subsecond t) ++ "+00:00"

/-- An instant down to the microsecond, in the short form for universal time. -/
def writeMicros (t : Instant) : String :=
  writeSecond t ++ "." ++ padded 6 (subsecond t / 1000) ++ "Z"

/-! ## Reading -/

/-- What a timestamp says. -/
structure Fields where
  year : Int
  month : Nat
  day : Nat
  hour : Nat
  minute : Nat
  second : Nat
  nanos : Nat
deriving DecidableEq, Repr

/-- The seconds up to a time of day, and the nanoseconds gone of the last of them. -/
def Fields.timeOfDay (f : Fields) : Nat × Nat :=
  let minutes := f.hour * 3600 + f.minute * 60
  if f.second = 60 then (minutes + 59, f.nanos + Instant.nanosPerSecond.toNat)
  else (minutes + f.second, f.nanos)

/-- The instant of a timestamp in a zone so many seconds east, if there is such a time of such a
day. -/
def Fields.instant? (f : Fields) (east : Int) : Option Instant :=
  let d : Date := ⟨f.year, f.month, f.day⟩
  if d.valid ∧ f.hour < 24 ∧ f.minute < 60 ∧ f.second ≤ 60 then
    let (seconds, nanos) := f.timeOfDay
    Instant.ofSecond? (d.toDays * 86400 + seconds - east) nanos
  else none

/-- Takes something off the front of a text, if it is there. -/
abbrev Scanner := StateT (List Char) Option

namespace Scanner

def char (c : Char) : Scanner Unit := fun
  | [] => none
  | x :: cs => if x = c then some ((), cs) else none

/-- A number of at least one digit and at most `most`. -/
def number (least most : Nat) : Scanner Nat := fun cs ↦
  let ds := (cs.take most).takeWhile Char.isDigit
  if ds.length < least then none
  else some (ds.foldl (fun n d ↦ 10 * n + (d.toNat - 48)) 0, cs.drop ds.length)

/-- As long a number as there is. -/
def longNumber : Scanner Nat := fun cs ↦ number 1 cs.length cs

def dropBlanks : Scanner Unit := modify (·.dropWhile Text.isBlank)

/-- A number of at most two digits, after blanks. -/
def shortNumber : Scanner Nat := do
  dropBlanks
  number 1 2

/-- A year of at most four digits, or of any number with a sign. -/
def year : Scanner Int := do
  dropBlanks
  match ← get with
  | '-' :: cs =>
    set cs
    return -(← longNumber)
  | '+' :: cs =>
    set cs
    return (← longNumber)
  | _ => return (← number 1 4)

/-- The digits after a point, of which the tenth and later ones do not count, as nanoseconds. -/
def fraction : Scanner Nat := fun cs ↦
  match cs with
  | '.' :: r =>
    let ds := r.takeWhile Char.isDigit
    if ds = [] then none
    else
      let kept := ds.take 9
      let n := kept.foldl (fun n d ↦ 10 * n + (d.toNat - 48)) 0
      some (n * Nat.pow 10 (9 - kept.length), r.drop ds.length)
  | _ => some (0, cs)

/-- Hours and minutes of a zone after its sign, with `mid` between them, in seconds. -/
def zoneTime (mid : Scanner Unit) : Scanner Nat := do
  let hours ← number 2 2
  mid
  let minutes ← number 2 2
  if minutes < 60 then return hours * 3600 + minutes * 60 else failure

/-- A zone as seconds east. The sign may be a hyphen or a minus. -/
def zone (mid : Scanner Unit) : Scanner Int := do
  match ← get with
  | '+' :: cs =>
    set cs
    return (← zoneTime mid)
  | '-' :: cs | '\u2212' :: cs =>
    set cs
    return -(← zoneTime mid)
  | _ => failure

/-- The strict form, to the start of its zone. -/
def strictFields : Scanner Fields := do
  let year ← number 4 4
  char '-'
  let month ← number 2 2
  char '-'
  let day ← number 2 2
  char 'T' <|> char 't' <|> char ' '
  let hour ← number 2 2
  char ':'
  let minute ← number 2 2
  char ':'
  let second ← number 2 2
  let nanos ← fraction
  return { year, month, day, hour, minute, second, nanos }

/-- The strict form. Its zone is less than a day away. -/
def strict : Scanner Instant := do
  let f ← strictFields
  let east ← (do char 'Z' <|> char 'z'; return 0) <|> zone (char ':')
  if east.natAbs < 86400 then f.instant? east else failure

/-- The seconds of a time of day and their fraction, which may be left out together. -/
def seconds : Scanner (Nat × Nat) := do
  match ← get with
  | ':' :: cs =>
    set cs
    return (← shortNumber, ← fraction)
  | _ => return (0, 0)

/-- The loose form, to the start of its zone. -/
def looseFields : Scanner Fields := do
  let year ← year
  char '-'
  let month ← shortNumber
  char '-'
  let day ← shortNumber
  char 'T' <|> dropBlanks
  let hour ← shortNumber
  char ':'
  let minute ← shortNumber
  let (second, nanos) ← seconds
  return { year, month, day, hour, minute, second, nanos }

/-- Between hours and minutes of a loose zone: any blanks and colons. -/
def looseMid : Scanner Unit := modify (·.dropWhile fun c ↦ c = ':' || Text.isBlank c)

/-- The instant of a timestamp in a zone that counts only if it is less than a day away and leads
to a day of the calendar. -/
def inZone? (f : Fields) (east : Int) : Option Instant :=
  (if east.natAbs < 86400 then f.instant? east else none).or (f.instant? 0)

/-- The loose form. -/
def loose : Scanner Instant := do
  let f ← looseFields
  match ← get with
  | [] => f.instant? 0
  | 'Z' :: cs =>
    set cs
    f.instant? 0
  | _ =>
    dropBlanks
    let east ← zone looseMid
    inZone? f east

/-- What a scanner makes of a whole text. -/
def whole {α : Type} (scan : Scanner α) (s : String) : Option α :=
  match scan s.toList with
  | some (a, []) => some a
  | _ => none

end Scanner

/-- The instant that a text in either form names. -/
def read? (s : String) : Option Instant :=
  (Scanner.strict.whole s).or (Scanner.loose.whole s)

end TokenMint.Timestamp
