/-
Calendar dates and times of day. Dates are those of the proleptic Gregorian calendar; a time of day
may be a leap second, the sixtieth second of any minute. A dateTime is a date and a time on the
clock of a place together with that clock's offset from UTC; what it denotes is an instant, and
order and equality are those of instants.
-/
namespace Xacml.Calendar

/-! ## Dates -/

def isLeapYear (year : Int) : Bool := year % 4 == 0 && (year % 100 != 0 || year % 400 == 0)

def daysInMonth (year : Int) (month : Nat) : Nat :=
  if month = 2 then if isLeapYear year then 29 else 28
  else if month = 4 ∨ month = 6 ∨ month = 9 ∨ month = 11 then 30
  else 31

/-- The years for which there are dates. -/
def YearInRange (year : Int) : Prop := -262143 ≤ year ∧ year ≤ 262142

instance (year : Int) : Decidable (YearInRange year) := inferInstanceAs (Decidable (_ ∧ _))

def ValidDate (year : Int) (month day : Nat) : Prop :=
  YearInRange year ∧ 1 ≤ month ∧ month ≤ 12 ∧ 1 ≤ day ∧ day ≤ daysInMonth year month

instance (year : Int) (month day : Nat) : Decidable (ValidDate year month day) :=
  inferInstanceAs (Decidable (_ ∧ _))

structure Date where
  year : Int
  month : Nat
  day : Nat
  valid : ValidDate year month day
deriving DecidableEq

def Date.ofFields? (year : Int) (month day : Nat) : Option Date :=
  if h : ValidDate year month day then some ⟨year, month, day, h⟩ else none

/-- The days before the first of March of `year`, from an arbitrary origin. Counting years from
March puts the leap day at the end. -/
def daysBeforeMarch (year : Int) : Int :=
  365 * year + year / 4 - year / 100 + year / 400

/-- The number of the day, rising by one from each date to the next. -/
def Date.dayNumber (d : Date) : Int :=
  let fromMarch : Nat := (d.month + 9) % 12
  let year := if d.month ≤ 2 then d.year - 1 else d.year
  daysBeforeMarch year + ((153 * fromMarch + 2) / 5 : Nat) + d.day

def Date.compare (a b : Date) : Ordering :=
  (Ord.compare a.year b.year).then ((Ord.compare a.month b.month).then (Ord.compare a.day b.day))

/-! ## Times of day -/

/-- A leap second is written as second 59 with the nanoseconds running on past a second. -/
def ValidTime (hour minute second nano : Nat) : Prop :=
  hour < 24 ∧ minute < 60 ∧ second < 60 ∧ nano < 2000000000 ∧ (1000000000 ≤ nano → second = 59)

instance (hour minute second nano : Nat) : Decidable (ValidTime hour minute second nano) :=
  inferInstanceAs (Decidable (_ ∧ _))

structure Time where
  hour : Nat
  minute : Nat
  second : Nat
  nano : Nat
  valid : ValidTime hour minute second nano
deriving DecidableEq

def Time.ofFields? (hour minute second nano : Nat) : Option Time :=
  if h : ValidTime hour minute second nano then some ⟨hour, minute, second, nano, h⟩ else none

/-- The seconds since midnight; a leap second counts with the second before it. -/
def Time.secondOfDay (t : Time) : Nat := t.hour * 3600 + t.minute * 60 + t.second

def Time.compare (a b : Time) : Ordering :=
  (Ord.compare a.secondOfDay b.secondOfDay).then (Ord.compare a.nano b.nano)

/-! ## Instants -/

/-- A date and time on a clock that is `offset` minutes ahead of UTC. -/
structure DateTime where
  date : Date
  time : Time
  offset : Int
deriving DecidableEq

/-- The seconds of the instant from an arbitrary origin. -/
def DateTime.seconds (t : DateTime) : Int :=
  t.date.dayNumber * 86400 + t.time.secondOfDay - t.offset * 60

/-- The instant: seconds, then nanoseconds within the second or the leap second after it. -/
def DateTime.instant (t : DateTime) : Int × Nat := (t.seconds, t.time.nano)

def DateTime.compare (a b : DateTime) : Ordering :=
  (Ord.compare a.seconds b.seconds).then (Ord.compare a.time.nano b.time.nano)

/-- Whether two dateTimes denote the same instant. -/
def DateTime.sameInstant (a b : DateTime) : Bool := a.instant == b.instant

end Xacml.Calendar
