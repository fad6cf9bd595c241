import Mathlib.Tactic.Ring

/-!
# `datetime`, `timedelta` and `timestamp_ms`

`PostgresMonitor.gather_sample` emits the `stats_reset` column of `pg_stat_database` through its
local helper `timestamp_ms`:

    epoch = datetime(1970, 1, 1, 0, 0, 0, 0)
    dt = dt.replace(tzinfo=None)
    td = dt - epoch
    return (td.microseconds + (td.seconds + td.days * 24 * 3600) * 1000000) / 1000

This module models the part of Python 2's `datetime` that the helper runs.  `Datetime` carries
the range checks of the `datetime` constructor as fields, so no value of it is one Python would
refuse to build.  `Timedelta` carries the normal form of a `timedelta`: `0 ≤ seconds < 86400`
and `0 ≤ microseconds < 10 ^ 6`.  `Timedelta.new` is `new_delta` with `normalize_d_s_us` of the
C implementation, and `Datetime.sub` is the branch of `datetime_subtract` for two naive values,
the only one `timestamp_ms` reaches.  Python 2's `/` on integers rounds down, as `Int` division
by a positive number does.

The results:

* `Timedelta.total_new`: normalising keeps the total number of microseconds, so the helper's
  expression recovers the exact distance `dt - epoch`.
* `timestampMs_eq_div`: `timestamp_ms dt` is the wall-clock distance of `dt` from the epoch,
  in milliseconds, rounded down.  The offset of an aware value is dropped, not applied:
  `wallMicros_eq` relates the wall-clock distance to the instant `dt` denotes.
* `timestampMs_eq_wall`: at or after the epoch the rounding is a truncation, and the result is
  off the instant by exactly the offset.
-/

namespace ScalyrAgent.Postgres

/-! ## The proleptic Gregorian calendar of `datetime` -/

/-- `_is_leap`. -/
def isLeap (year : Nat) : Bool :=
  year % 4 == 0 && (year % 100 != 0 || year % 400 == 0)

/-- `_DAYS_IN_MONTH`, with February of a leap year as `_days_in_month` has it. -/
def daysInMonth (year month : Nat) : Nat :=
  if month == 2 && isLeap year then 29
  else [31, 28, 31, 30, 31, 30, 31, 31, 30, 31, 30, 31].getD (month - 1) 0

/-- `_days_before_year`. -/
def daysBeforeYear (year : Nat) : Nat :=
  let y := year - 1
  y * 365 + y / 4 - y / 100 + y / 400

/-- `_days_before_month`: `_DAYS_BEFORE_MONTH[month]`, plus one after February of a leap year. -/
def daysBeforeMonth (year month : Nat) : Nat :=
  [0, 31, 59, 90, 120, 151, 181, 212, 243, 273, 304, 334].getD (month - 1) 0 +
    if month > 2 && isLeap year then 1 else 0

/-- `_ymd2ord`: the day number of a date, 1 for 0001-01-01. -/
def ymd2ord (year month day : Nat) : Nat :=
  daysBeforeYear year + daysBeforeMonth year month + day

/-! ## `datetime` and `timedelta` -/

/-- A `datetime.datetime`.  `tzinfo` is the value `utcoffset()` returns for it, in minutes
(Python 2 accepts whole minutes only, strictly inside one day), or `none` for a naive value.
The range fields are the checks of the constructor. -/
structure Datetime where
  year : Nat
  month : Nat
  day : Nat
  hour : Nat
  minute : Nat
  second : Nat
  microsecond : Nat
  tzinfo : Option Int
  year_mem : 1 ≤ year ∧ year ≤ 9999 := by decide
  month_mem : 1 ≤ month ∧ month ≤ 12 := by decide
  day_mem : 1 ≤ day ∧ day ≤ daysInMonth year month := by decide
  hour_lt : hour < 24 := by decide
  minute_lt : minute < 60 := by decide
  second_lt : second < 60 := by decide
  microsecond_lt : microsecond < 1000000 := by decide
  tzinfo_lt : ∀ o ∈ tzinfo, o.natAbs < 1440 := by decide
  deriving DecidableEq, Repr

/-- A `datetime.timedelta` in the normal form its constructor produces. -/
structure Timedelta where
  days : Int
  seconds : Nat
  microseconds : Nat
  seconds_lt : seconds < 86400
  microseconds_lt : microseconds < 1000000
  deriving DecidableEq, Repr

namespace Timedelta

/-- `new_delta(d, s, us, normalize=1)`: `normalize_d_s_us` carries the microseconds into the
seconds and then the seconds into the days, each by a `divmod` that rounds down. -/
def new (d s us : Int) : Timedelta :=
  let s' := s + us / 1000000
  { days := d + s' / 86400
    seconds := (s' % 86400).toNat
    microseconds := (us % 1000000).toNat
    seconds_lt := by omega
    microseconds_lt := by omega }

/-- The microseconds a `timedelta` stands for. -/
def total (td : Timedelta) : Int :=
  td.microseconds + (td.seconds + td.days * 86400) * 1000000

/-- Normalising does not change the length of the interval. -/
theorem total_new (d s us : Int) : (new d s us).total = (d * 86400 + s) * 1000000 + us := by
  simp only [total, new]
  omega

end Timedelta

namespace Datetime

/-- `date.toordinal`. -/
def toordinal (dt : Datetime) : Nat := ymd2ord dt.year dt.month dt.day

/-- `dt.replace(tzinfo=tz)`: the same fields, another `tzinfo`. -/
def replace (dt : Datetime) (tz : Option Int) (h : ∀ o ∈ tz, o.natAbs < 1440) : Datetime :=
  { dt with tzinfo := tz, tzinfo_lt := h }

/-- `datetime(1970, 1, 1, 0, 0, 0, 0)`, naive. -/
def epoch : Datetime := ⟨1970, 1, 1, 0, 0, 0, 0, none, by decide, by decide, by decide, by decide,
  by decide, by decide, by decide, by decide⟩

/-- `a - b` for two naive values (`datetime_subtract` when the two offsets agree): the
differences of the day numbers, of the seconds of the day and of the microseconds, normalised. -/
def sub (a b : Datetime) : Timedelta :=
  Timedelta.new ((a.toordinal : Int) - b.toordinal)
    (((a.hour : Int) - b.hour) * 3600 + ((a.minute : Int) - b.minute) * 60 +
      ((a.second : Int) - b.second))
    ((a.microsecond : Int) - b.microsecond)

/-- The UTC offset in minutes, zero for a naive value. -/
def offsetMinutes (dt : Datetime) : Int := dt.tzinfo.getD 0

/-- Microseconds from 1970-01-01T00:00:00 to the wall-clock time of `dt`, its fields read as
UTC whatever its `tzinfo`. -/
def wallMicros (dt : Datetime) : Int :=
  (((dt.toordinal : Int) - epoch.toordinal) * 86400 + dt.hour * 3600 + dt.minute * 60 +
    dt.second) * 1000000 + dt.microsecond

/-- Microseconds from 1970-01-01T00:00:00 UTC to the instant `dt` denotes: the wall-clock time
less the UTC offset, a naive value read as UTC. -/
def instantMicros (dt : Datetime) : Int :=
  (((dt.toordinal : Int) - epoch.toordinal) * 86400 + dt.hour * 3600 + dt.minute * 60 +
    dt.second - dt.offsetMinutes * 60) * 1000000 + dt.microsecond

/-- The wall-clock time is the instant moved by the offset. -/
theorem wallMicros_eq (dt : Datetime) :
    dt.wallMicros = dt.instantMicros + dt.offsetMinutes * 60000000 := by
  simp only [wallMicros, instantMicros]
  ring

/-- A naive value, or one at offset zero, denotes its wall-clock time read as UTC. -/
theorem wallMicros_eq_instantMicros {dt : Datetime} (h : dt.offsetMinutes = 0) :
    dt.wallMicros = dt.instantMicros := by
  rw [wallMicros_eq, h, zero_mul, add_zero]

@[simp] theorem replace_toordinal (dt : Datetime) (tz h) : (dt.replace tz h).toordinal = dt.toordinal :=
  rfl

/-- The difference from the epoch is the wall-clock distance, whatever normalisation did. -/
theorem sub_epoch_total (dt : Datetime) : (dt.sub epoch).total = dt.wallMicros := by
  rw [sub, Timedelta.total_new, wallMicros]
  simp only [epoch]
  push_cast
  ring

end Datetime

/-- The helper `timestamp_ms` of `PostgresMonitor.gather_sample`. -/
def timestampMs (dt : Datetime) : Int :=
  let dt := dt.replace none (by simp)
  let td := dt.sub Datetime.epoch
  (td.microseconds + (td.seconds + td.days * 24 * 3600) * 1000000) / 1000

/-- `timestamp_ms` is the wall-clock distance from the epoch in milliseconds, rounded down: the
`tzinfo` is dropped before the subtraction. -/
theorem timestampMs_eq_div (dt : Datetime) : timestampMs dt = dt.wallMicros / 1000 := by
  have h := Datetime.sub_epoch_total (dt.replace none (by simp))
  simp only [Timedelta.total] at h
  simp only [timestampMs]
  rw [show ∀ x : Int, x * 24 * 3600 = x * 86400 from fun x => by ring, h]
  rfl

/-- At or after the epoch (its wall-clock fields read as UTC), `timestamp_ms dt` is the
whole number of milliseconds to the wall-clock time of `dt`, truncated.  That is the distance
to the instant `dt` denotes plus its UTC offset: the two agree for a naive value and for one at
offset zero. -/
theorem timestampMs_eq_wall (dt : Datetime) (h : 0 ≤ dt.wallMicros) :
    timestampMs dt = ((dt.wallMicros.toNat / 1000 : Nat) : Int) ∧
      dt.wallMicros = dt.instantMicros + dt.offsetMinutes * 60000000 := by
  refine ⟨?_, Datetime.wallMicros_eq dt⟩
  rw [timestampMs_eq_div]
  omega

/-- The epoch itself is at millisecond zero. -/
theorem timestampMs_epoch : 0 ≤ Datetime.epoch.wallMicros ∧
    (timestampMs Datetime.epoch = ((Datetime.epoch.wallMicros.toNat / 1000 : Nat) : Int) ∧
      Datetime.epoch.wallMicros =
        Datetime.epoch.instantMicros + Datetime.epoch.offsetMinutes * 60000000) :=
  ⟨by decide, timestampMs_eq_wall Datetime.epoch (by decide)⟩

/-- `1970-01-01T01:00:00+01:00` denotes the epoch, yet `timestamp_ms` gives one hour. -/
def oneAmAtPlusOne : Datetime :=
  ⟨1970, 1, 1, 1, 0, 0, 0, some 60, by decide, by decide, by decide, by decide, by decide,
    by decide, by decide, by decide⟩

/-- For an aware value with a non-zero offset, `timestamp_ms` is not the distance to the
instant the value denotes. -/
theorem timestampMs_ignores_offset :
    ¬ ∀ dt : Datetime, 0 ≤ dt.instantMicros →
      timestampMs dt = ((dt.instantMicros.toNat / 1000 : Nat) : Int) := by
  intro h
  have h1 := h oneAmAtPlusOne (by decide)
  rw [timestampMs_eq_div] at h1
  revert h1
  decide

end ScalyrAgent.Postgres
