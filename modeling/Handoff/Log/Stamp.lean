/-!
The time stamp in front of a log line: date and time of day in UTC, to the microsecond.

Days are counted from the first of March, so that a leap day is the last day of its year, and in
eras of 400 years, which all have the same number of days.
-/

namespace Handoff.Log

structure Date where
  year : Nat
  month : Nat
  day : Nat
  deriving DecidableEq, Repr

namespace Date

/-- How many days an era of 400 years has. -/
def daysPerEra : Nat := 146097

/-- The days from the first of March in the year 0 to the first of January 1970. -/
def epoch : Nat := 719468

/-- The date so many days after the first of January 1970. -/
def ofDays (n : Nat) : Date :=
  let era := (n + epoch) / daysPerEra
  let day := (n + epoch) % daysPerEra
  let year := (day - day / 1460 + day / 36524 - day / 146096) / 365
  let day := day - (365 * year + year / 4 - year / 100)
  let month := (5 * day + 2) / 153
  let year := era * 400 + year
  ⟨if month < 10 then year else year + 1, if month < 10 then month + 3 else month - 9,
    day - (153 * month + 2) / 5 + 1⟩

example : ofDays 19782 = ⟨2024, 2, 29⟩ := by decide

end Date

/-- A number in decimal, with zeros in front up to a width. -/
def zeroPadded (width n : Nat) : String :=
  let digits := Nat.toDigits 10 n
  String.ofList (List.replicate (width - digits.length) '0' ++ digits)

/-- The stamp of a time in microseconds since the first of January 1970. -/
def stamp (microseconds : Nat) : String :=
  let seconds := microseconds / 1000000
  let date := Date.ofDays (seconds / 86400)
  "-".intercalate [zeroPadded 4 date.year, zeroPadded 2 date.month, zeroPadded 2 date.day] ++ "T" ++
    ":".intercalate [zeroPadded 2 (seconds / 3600 % 24), zeroPadded 2 (seconds / 60 % 60),
      zeroPadded 2 (seconds % 60)] ++ "." ++ zeroPadded 6 (microseconds % 1000000) ++ "Z"

end Handoff.Log
