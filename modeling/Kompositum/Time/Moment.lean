import Kompositum.Count
import Kompositum.Text.Blank

/-!
# Moments

Moments are written as date and time of day, as in `2024-02-29T12:34:56.789Z`, and kept in
universal time.

* `Moment.ofText?`: a moment, given in any offset from universal time.
* `Moment.render`: a moment with the fewest digits of its fraction, in groups of three.
* `Moment.ofSeconds`: a moment, counted from the beginning of 1970.
-/

namespace Kompositum

/-- A date of the Gregorian calendar and a time of day. The last minute of a day may have a
61st second. -/
structure Moment where
  year : Int
  month : Nat
  day : Nat
  hour : Nat
  minute : Nat
  second : Nat
  nanos : Nat
deriving DecidableEq, Repr

namespace Moment

/-- Whether a year has a 29th of February. -/
def isLeap (year : Int) : Bool := year % 4 == 0 && (year % 100 != 0 || year % 400 == 0)

/-- The number of days of a month. -/
def daysIn (year : Int) (month : Nat) : Nat :=
  if month = 2 then if isLeap year then 29 else 28
  else if month = 4 || month = 6 || month = 9 || month = 11 then 30
  else 31

/-- The number of days from the first of March of the year 0 to a date. Years are counted from
March on, so that the leap day ends one. -/
def dayNumber (year : Int) (month day : Nat) : Int :=
  let y := if month ≤ 2 then year - 1 else year
  let m := (month + 9) % 12
  365 * y + y / 4 - y / 100 + y / 400 + (153 * m + 2) / 5 + day - 1

/-- The date so many days after the first of March of the year 0. -/
def dateOf (n : Int) : Int × Nat × Nat :=
  let era := n / 146097
  let d := (n % 146097).toNat
  let y := (d - d / 1460 + d / 36524 - d / 146096) / 365
  let d := d - (365 * y + y / 4 - y / 100)
  let m := (5 * d + 2) / 153
  let month := if m < 10 then m + 3 else m - 9
  (era * 400 + y + if month ≤ 2 then 1 else 0, month, d - (153 * m + 2) / 5 + 1)

/-- The first and the last year. -/
def years : Int × Int := (-262143, 262142)

/-- A moment that lies `minutes` earlier, unless its year is out of range. -/
def earlier? (t : Moment) (minutes : Int) : Option Moment :=
  let total := (dayNumber t.year t.month t.day * 24 + t.hour) * 60 + t.minute - minutes
  let (year, month, day) := dateOf (total / 1440)
  let rest := (total % 1440).toNat
  if years.1 ≤ year && year ≤ years.2 then
    some { t with year, month, day, hour := rest / 60, minute := rest % 60 }
  else none

/-- **The moment so many seconds after the beginning of 1970**, and the nanoseconds after that. -/
def ofSeconds (seconds : Int) (nanos : Nat) : Moment :=
  let (year, month, day) := dateOf (dayNumber 1970 1 1 + seconds / 86400)
  let rest := (seconds % 86400).toNat
  { year, month, day, hour := rest / 3600, minute := rest / 60 % 60, second := rest % 60, nanos }

/-- Leading digits, at least one and at most `most` of them, as a number. -/
def number? (most : Nat) (t : Text) : Option (Nat × Text) := do
  let digits := (t.take most).takeWhile fun c => (Count.digit? c).isSome
  return (← Count.ofDigits? digits, t.drop digits.length)

/-- A number of at most two digits below a bound, after blanks. -/
def field? (bound : Nat) (t : Text) : Option (Nat × Text) := do
  let (n, t) ← number? 2 (t.dropWhile Character.isBlank)
  if n < bound then some (n, t) else none

/-- What follows a character, after blanks. -/
def mark? (c : Char) (t : Text) : Option Text :=
  Text.stripPrefix? [c] (t.dropWhile Character.isBlank)

/-- A year of four digits at most, or of any number of them with a sign. -/
def year? (t : Text) : Option (Int × Text) :=
  match t.dropWhile Character.isBlank with
  | '-' :: t => (number? t.length t).map fun (n, t) => (-(n : Int), t)
  | '+' :: t => (number? t.length t).map fun (n, t) => ((n : Int), t)
  | t => (number? 4 t).map fun (n, t) => ((n : Int), t)

/-- The fraction of a second in nanoseconds, if there is a point. Only nine digits count. -/
def nanos? : Text → Option (Nat × Text)
  | '.' :: t => do
    let (n, rest) ← number? 9 t
    return (n * Nat.pow 10 (9 - (t.length - rest.length)),
      rest.dropWhile fun c => (Count.digit? c).isSome)
  | t => some (0, t)

/-- Two digits as a number. -/
def twoDigits? : Text → Option (Nat × Text)
  | a :: b :: t => do return (10 * (← Count.digit? a) + (← Count.digit? b), t)
  | _ => none

/-- An offset from universal time in minutes. -/
def offset? (t : Text) : Option (Int × Text) := do
  if (t.take 3).map Char.toLower == ['u', 't', 'c'] then return (0, t.drop 3)
  match t with
  | [] => none
  | sign :: t =>
    if sign == 'Z' || sign == 'z' then return (0, t)
    let negative := sign == '-' || sign == '−'
    if !negative && sign != '+' then none
    else
      let (hours, t) ← twoDigits? t
      let (minutes, t) ← twoDigits? (t.dropWhile fun c => c == ':' || Character.isBlank c)
      if 60 ≤ minutes || 24 ≤ hours then none
      else
        let offset : Int := hours * 60 + minutes
        return (if negative then -offset else offset, t)

/-- **The moment that a text gives**, as date, time of day and offset from universal time. -/
def ofText? (t : Text) : Option Moment := do
  let (year, t) ← year? t
  let (month, t) ← field? 13 (← mark? '-' t)
  let (day, t) ← field? 32 (← mark? '-' t)
  let t ← match t with
    | c :: t => if c == 'T' || c == 't' || c == ' ' then some t else none
    | [] => none
  let (hour, t) ← field? 24 t
  let (minute, t) ← field? 60 (← mark? ':' t)
  let (second, t) ← field? 61 (← mark? ':' t)
  let (nanos, t) ← nanos? t
  let (offset, t) ← offset? (t.dropWhile Character.isBlank)
  if !Text.isBlankText t || month = 0 || day = 0 || daysIn year month < day ||
      year < years.1 || years.2 < year then none
  else ({ year, month, day, hour, minute, second, nanos } : Moment).earlier? offset

/-- A number with zeros in front. -/
def padded (width n : Nat) : Text :=
  let digits := Text.ofNat n
  List.replicate (width - digits.length) '0' ++ digits

/-- A year in four digits, or with a sign if these do not suffice. -/
def renderYear (year : Int) : Text :=
  if 0 ≤ year && year ≤ 9999 then padded 4 year.toNat
  else [if year < 0 then '-' else '+'] ++ padded 4 year.natAbs

/-- The fraction of a second: nothing, or three, six or nine digits. -/
def renderNanos (n : Nat) : Text :=
  if n = 0 then []
  else if n % 1000000 = 0 then ['.'] ++ padded 3 (n / 1000000)
  else if n % 1000 = 0 then ['.'] ++ padded 6 (n / 1000)
  else ['.'] ++ padded 9 n

/-- **A moment as date and time of day**, followed by the given name of universal time. -/
def render (zone : Text) (t : Moment) : Text :=
  renderYear t.year ++ ['-'] ++ padded 2 t.month ++ ['-'] ++ padded 2 t.day ++ ['T'] ++
    padded 2 t.hour ++ [':'] ++ padded 2 t.minute ++ [':'] ++ padded 2 t.second ++
    renderNanos t.nanos ++ zone

end Moment

end Kompositum
