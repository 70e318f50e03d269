import SessionBroker.Text.Basic

/-!
# SessionBroker.Instant — points in time

* `Instant.text`: date and time of day in the Gregorian calendar and in universal time, as in `2024-02-29T23:59:59Z`.
-/

namespace SessionBroker

/-- A point in time, by the seconds since the first of January 1970. -/
structure Instant where
  seconds : Nat
  deriving DecidableEq

namespace Instant

/-- A number with leading zeros, so that it has at least `width` digits. -/
def padded (width n : Nat) : String :=
  let ds := Text.digits n
  .ofList (List.replicate (width - ds.length) '0' ++ ds)

/-- Year, month and day of a day, counted from the first of January 1970.  Years are taken to begin in March, so that
a leap day is the last day of its year; 719468 days lie between the first of March of the year 0 and the day 0. -/
def date (days : Nat) : Nat × Nat × Nat :=
  let days := days + 719468
  let era := days / 146097
  let dayOfEra := days % 146097
  let yearOfEra := (dayOfEra - dayOfEra / 1460 + dayOfEra / 36524 - dayOfEra / 146096) / 365
  let dayOfYear := dayOfEra - (365 * yearOfEra + yearOfEra / 4 - yearOfEra / 100)
  let month := (5 * dayOfYear + 2) / 153
  let year := yearOfEra + era * 400
  let day := dayOfYear - (153 * month + 2) / 5 + 1
  if month < 10 then (year, month + 3, day) else (year + 1, month - 9, day)

/-- The text of a point in time. -/
def text (t : Instant) : String :=
  let (year, month, day) := date (t.seconds / 86400)
  let s := t.seconds % 86400
  s!"{padded 4 year}-{padded 2 month}-{padded 2 day}T" ++
    s!"{padded 2 (s / 3600)}:{padded 2 (s / 60 % 60)}:{padded 2 (s % 60)}Z"

end Instant

end SessionBroker
