import CommitMessage.Number.Decimal

/-! Dates of the Gregorian calendar, and moments counted in seconds from the start of 1970. -/

namespace CommitMessage

-- A power of whole numbers is the same one, whatever else is imported.
attribute [local instance(1100)] instPowNat

structure Date where
  year : Int
  month : Nat
  day : Nat
  deriving DecidableEq, Repr

namespace Date

/-- The date so many days after the first of March of the year 0. Years are counted from March, so
a leap day is the last day of its year; 400 years have 146097 days. -/
def afterMarch (days : Int) : Date :=
  let era := days.fdiv 146097
  let ofEra := (days - era * 146097).toNat
  let yearOfEra := (ofEra - ofEra / 1460 + ofEra / 36524 - ofEra / 146096) / 365
  let ofYear := ofEra - (365 * yearOfEra + yearOfEra / 4 - yearOfEra / 100)
  let fromMarch := (5 * ofYear + 2) / 153
  let month := if fromMarch < 10 then fromMarch + 3 else fromMarch - 9
  { year := era * 400 + yearOfEra + (if month ≤ 2 then 1 else 0)
    month
    day := ofYear - (153 * fromMarch + 2) / 5 + 1 }

/-- The date so many days after the first of January 1970. -/
def ofDays (days : Int) : Date := afterMarch (days + 719468)

end Date

inductive Moment.Problem where
  | notANumber
  /-- No date has this year. -/
  | noSuchYear (year : Int)
  /-- So far from now that even the year is too large for the calendar. -/
  | noSuchDate
  /-- The seconds themselves are too many. -/
  | tooFar
  deriving DecidableEq, Repr

/-- Whole seconds from the start of 1970, and microseconds on top of them. -/
structure Moment where
  seconds : Int
  micros : Nat
  deriving DecidableEq, Repr

namespace Moment

def Problem.message : Problem → Text
  | notANumber => "Invalid value NaN (not a number)".toList
  | noSuchYear year => "year ".toList ++ Decimal.ofInt year ++ " is out of range".toList
  | noSuchDate => "[Errno 75] Value too large for defined data type".toList
  | tooFar => "timestamp out of range for platform time_t".toList

/-- A fraction of a second in microseconds: the binary number nearest to a million times the
fraction, rounded to a whole number. -/
def microsOf (num den : Nat) : Nat :=
  match Binary64.ofRatio false (num * 10 ^ (6 : Nat)) den with
  | .finite _ significand exponent =>
    let (n, d) := Binary64.ratio significand exponent
    roundHalfEven n d
  | _ => 0

/-- The moment so many seconds after the start of 1970, to the nearest microsecond. -/
def ofSeconds (x : Binary64) : Except Problem Moment :=
  match x with
  | .nan => .error .notANumber
  | .infinity _ => .error .tooFar
  | .finite negative significand exponent =>
    let (num, den) := Binary64.ratio significand exponent
    let whole : Int := (num / den : Nat)
    let micros := microsOf (num % den) den
    let total : Int :=
      if negative then -(whole * 10 ^ (6 : Nat) + micros) else whole * 10 ^ (6 : Nat) + micros
    let seconds := total.fdiv (10 ^ (6 : Nat))
    if -(2 ^ (63 : Nat)) ≤ seconds ∧ seconds < 2 ^ (63 : Nat) then
      .ok ⟨seconds, (total - seconds * 10 ^ (6 : Nat)).toNat⟩
    else .error .tooFar

def ofWhole (seconds : Int) : Except Problem Moment :=
  if -(2 ^ (63 : Nat)) ≤ seconds ∧ seconds < 2 ^ (63 : Nat) then .ok ⟨seconds, 0⟩
  else .error .tooFar

/-- Date, time of day and the offset of zero. Microseconds are left out where they are none. -/
def text (m : Moment) : Except Problem Text :=
  let days := m.seconds.fdiv 86400
  let ofDay := (m.seconds - days * 86400).toNat
  let date := Date.ofDays days
  let two := Decimal.paddedDigits 2
  if date.year < 1900 - 2 ^ (31 : Nat) ∨ 1900 + 2 ^ (31 : Nat) ≤ date.year then
    .error .noSuchDate
  else if date.year < 1 ∨ 9999 < date.year then .error (.noSuchYear date.year)
  else .ok <| Decimal.paddedDigits 4 date.year.toNat ++ '-' :: two date.month ++ '-' ::
    two date.day ++ 'T' :: two (ofDay / 3600) ++ ':' :: two (ofDay / 60 % 60) ++ ':' ::
    two (ofDay % 60) ++
    (if m.micros = 0 then [] else '.' :: Decimal.paddedDigits 6 m.micros) ++ "+00:00".toList

end Moment

end CommitMessage
