import HostingClient.Time.Calendar

/-! # Instants

An instant is a second since the start of 1970 and a number of nanoseconds. Nanoseconds from one billion up
lie in a leap second, which has the number of the second before it. -/

namespace HostingClient.Time

/-- The nanoseconds of a second. -/
def billion : Nat := 1000000000

/-- A point in time. -/
structure Instant where
  second : Int
  nanos : Nat
deriving DecidableEq, Repr, Inhabited

namespace Instant

/-- The first and the last second that timestamps can have. -/
def firstSecond : Int := -8334601228800
def lastSecond : Int := 8210266876799

/-- The instant at the start of a second, if timestamps can have it. -/
def ofSecond? (s : Int) : Option Instant :=
  if firstSecond ≤ s ∧ s ≤ lastSecond then some ⟨s, 0⟩ else none

/-- Whether an instant lies in a leap second. -/
def isLeap (t : Instant) : Bool := billion ≤ t.nanos

/-- The seconds since midnight. -/
def secondOfDay (t : Instant) : Int := t.second % 86400

/-- The nanoseconds from `b` to `a`. A leap second that lies between the two times of day is counted. -/
def since (a b : Instant) : Int :=
  let leap : Int :=
    if b.secondOfDay < a.secondOfDay then if b.isLeap then 1 else 0
    else if a.secondOfDay < b.secondOfDay then if a.isLeap then -1 else 0
    else 0
  (a.second - b.second + leap) * billion + (a.nanos - b.nanos)

end Instant

end HostingClient.Time
