/-
This file holds points in universal time.
-/

import GuestPod.Time.Date

namespace GuestPod.Time

/-- In a leap second the nanosecond counts on beyond a thousand million. -/
structure DateTime where
  date : Date
  hour : Fin 24
  minute : Fin 60
  second : Fin 60
  nanosecond : Fin 2000000000
  deriving DecidableEq, Repr

namespace DateTime

/-- The epoch starts at midnight. -/
def epoch : DateTime where
  date := .epoch
  hour := ⟨0, Nat.zero_lt_succ 23⟩
  minute := ⟨0, Nat.zero_lt_succ 59⟩
  second := ⟨0, Nat.zero_lt_succ 59⟩
  nanosecond := ⟨0, Nat.zero_lt_succ 1999999999⟩

def minuteOfDay (time : DateTime) : Int := time.hour.val * 60 + time.minute.val

/-- Within a day either way, a shift by whole minutes moves the date by at most one day. -/
def shift (minutes : Int) (time : DateTime) : DateTime :=
  let total := time.minuteOfDay + minutes
  let date :=
    if total < 0 then time.date.previous else if 1440 ≤ total then time.date.next else time.date
  let minute := (total % 1440).toNat
  { time with
    date := date
    hour := ⟨minute / 60 % 24, Nat.mod_lt _ (by decide)⟩
    minute := ⟨minute % 60, Nat.mod_lt _ (by decide)⟩ }

end DateTime

end GuestPod.Time
