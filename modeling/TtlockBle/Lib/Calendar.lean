/-!
# Calendar dates

Naive `datetime` values: a date of the proleptic Gregorian calendar and a time of day. An invalid
one cannot be built.
-/

namespace TtlockBle.Lib

def isLeap (year : Nat) : Bool := year % 4 = 0 && (year % 100 ≠ 0 || year % 400 = 0)

def daysInMonth (year month : Nat) : Nat :=
  match month with
  | 2 => if isLeap year then 29 else 28
  | 4 | 6 | 9 | 11 => 30
  | _ => 31

def ValidTime (year month day hour minute second microsecond : Nat) : Prop :=
  (1 ≤ year ∧ year ≤ 9999) ∧ (1 ≤ month ∧ month ≤ 12) ∧ (1 ≤ day ∧ day ≤ daysInMonth year month) ∧
    hour ≤ 23 ∧ minute ≤ 59 ∧ second ≤ 59 ∧ microsecond ≤ 999999

instance (year month day hour minute second microsecond : Nat) :
    Decidable (ValidTime year month day hour minute second microsecond) :=
  inferInstanceAs (Decidable (_ ∧ _))

structure DateTime where
  year : Nat
  month : Nat
  day : Nat
  hour : Nat
  minute : Nat
  second : Nat
  microsecond : Nat
  valid : ValidTime year month day hour minute second microsecond
  deriving DecidableEq

namespace DateTime

/-- `datetime(year, month, day, hour, minute, second)`, or `none` for its `ValueError`. -/
def mk? (year month day hour minute : Nat) (second : Nat := 0) : Option DateTime :=
  if h : ValidTime year month day hour minute second 0 then
    some ⟨year, month, day, hour, minute, second, 0, h⟩
  else none

theorem mk?_eq_some (year month day hour minute second : Nat) (t : DateTime) :
    mk? year month day hour minute second = some t ↔
      t.year = year ∧ t.month = month ∧ t.day = day ∧ t.hour = hour ∧ t.minute = minute ∧
        t.second = second ∧ t.microsecond = 0 := by
  unfold mk?
  constructor
  · intro h
    split at h
    · obtain rfl := Option.some.inj h
      exact ⟨rfl, rfl, rfl, rfl, rfl, rfl, rfl⟩
    · cases h
  · intro h
    obtain ⟨y, mo, d, ho, mi, se, micro, hvalid⟩ := t
    obtain ⟨rfl, rfl, rfl, rfl, rfl, rfl, rfl⟩ := h
    exact dif_pos hvalid

def daysBeforeMonth (year month : Nat) : Nat :=
  ((List.range (month - 1)).map fun m => daysInMonth year (m + 1)).foldl (· + ·) 0

def toOrdinal (t : DateTime) : Nat :=
  let y := t.year - 1
  y * 365 + y / 4 - y / 100 + y / 400 + daysBeforeMonth t.year t.month + t.day

def toMicroseconds (t : DateTime) : Nat :=
  (((t.toOrdinal * 24 + t.hour) * 60 + t.minute) * 60 + t.second) * 1000000 + t.microsecond

/-- `(t - u).total_seconds()`, in whole microseconds. -/
def sub (t u : DateTime) : Int := (t.toMicroseconds : Int) - u.toMicroseconds

end DateTime

end TtlockBle.Lib
