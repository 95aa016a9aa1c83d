/-
Points in time, to the nanosecond.

An instant counts seconds from the start of 1970 and nanoseconds within
the second. A leap second is the second before it with a nanosecond part
from 10^9 up.
-/
import Parley.Time.Calendar

namespace Parley.Time

/-- A point in time. -/
structure Instant where
  second : Int
  nano : Nat
deriving DecidableEq, Repr, Inhabited

namespace Instant

def nanosPerSecond : Nat := 1000000000

/-- The nanoseconds from the start of 1970. -/
def nanoseconds (t : Instant) : Int := t.second * nanosPerSecond + t.nano

/-- The instant that many nanoseconds from the start of 1970. -/
def ofNanoseconds (n : Int) : Instant :=
  ⟨n / nanosPerSecond, (n % nanosPerSecond).toNat⟩

/-- The nanoseconds from one instant to another. -/
def since (t earlier : Instant) : Int := t.nanoseconds - earlier.nanoseconds

/-- The instant that many nanoseconds later. -/
def later (t : Instant) (nanos : Int) : Instant := ofNanoseconds (t.nanoseconds + nanos)

/-- Whether one instant comes before another. -/
def before (a b : Instant) : Bool :=
  a.second < b.second || (a.second = b.second && a.nano < b.nano)

/-- The day of an instant. -/
def day (t : Instant) : Int := t.second / 86400

/-- The date of an instant. -/
def date (t : Instant) : Date := dateOf t.day

/-- The seconds from the start of the day. -/
def secondOfDay (t : Instant) : Nat := (t.second % 86400).toNat

end Instant
end Parley.Time
