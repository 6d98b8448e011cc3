import FrontEnd.Bytes.Basic

/-!
Points in time, counted in nanoseconds from the start of 1970, and their text in the Gregorian
calendar.
-/

namespace FrontEnd.Trace

/-- Year, month and day of the day with the given number, 1970-01-01 being day zero. Years are
counted from March, so that a leap day is the last of its year, in eras of 400 years. -/
def civilDate (day : Int) : Int × Nat × Nat :=
  let shifted := day + 719468
  let era := shifted.fdiv 146097
  let dayOfEra := (shifted - era * 146097).toNat
  let yearOfEra := (dayOfEra - dayOfEra / 1460 + dayOfEra / 36524 - dayOfEra / 146096) / 365
  let dayOfYear := dayOfEra - (365 * yearOfEra + yearOfEra / 4 - yearOfEra / 100)
  let shiftedMonth := (5 * dayOfYear + 2) / 153
  let dayOfMonth := dayOfYear - (153 * shiftedMonth + 2) / 5 + 1
  let month := if shiftedMonth < 10 then shiftedMonth + 3 else shiftedMonth - 9
  (yearOfEra + era * 400 + if month ≤ 2 then 1 else 0, month, dayOfMonth)

example : civilDate 19675 = (2023, 11, 14) := by decide

/-- A number in at least `width` digits. -/
def padded (width n : Nat) : Bytes :=
  let digits := Bytes.decimal n
  List.replicate (width - digits.length) 48 ++ digits

/-- Date and time in universal time, with the microseconds. -/
def stampText (time : Int) : Bytes :=
  let seconds := time.fdiv 1000000000
  let micros := ((time - seconds * 1000000000) / 1000).toNat
  let day := seconds.fdiv 86400
  let rest := (seconds - day * 86400).toNat
  let (year, month, dayOfMonth) := civilDate day
  padded 4 year.toNat ++ "-" ++ padded 2 month ++ "-" ++ padded 2 dayOfMonth ++ "T"
    ++ padded 2 (rest / 3600) ++ ":" ++ padded 2 (rest / 60 % 60) ++ ":" ++ padded 2 (rest % 60)
    ++ "." ++ padded 6 micros ++ "Z"

end FrontEnd.Trace
