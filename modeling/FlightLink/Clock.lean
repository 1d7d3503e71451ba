/-!
# Time

Time is counted in milliseconds from an arbitrary start.  A clock covers a limited span, so not
every sum of a time and a duration is a time.  How long a sleep lasts is up to the clock as well: it
may cut short what is too long for it.
-/

namespace FlightLink

/-- What the surroundings decide about time. -/
structure Clock where
  /-- The number of milliseconds that the clock covers. -/
  span : Nat
  /-- The longest duration for which a sleep lasts in full. -/
  longest : Nat
  /-- When a sleep that begins now comes to its end. -/
  wake (now duration : Nat) : Nat

namespace Clock

/-- The milliseconds of a number of seconds. -/
def seconds (n : Nat) : Nat := n * 1000

/-- The time a duration after another, if the clock covers it. -/
def add? (clock : Clock) (now duration : Nat) : Option Nat :=
  if now + duration < clock.span then some (now + duration) else none

/-- What can be relied on when something sleeps: a sleep lasts as long as it is meant to, except
that one which is longer than the longest may be cut to any length that is not below the longest.
It ends at a time that the clock covers if the clock goes on for as long as the longest. -/
structure Saturates (clock : Clock) : Prop where
  longest_pos : 0 < clock.longest
  wake_of_le {now duration : Nat} (h : duration ≤ clock.longest) :
    clock.wake now duration = now + duration
  le_wake {now duration : Nat} (h : clock.longest ≤ duration) :
    now + clock.longest ≤ clock.wake now duration
  wake_le (now duration : Nat) : clock.wake now duration ≤ now + duration
  wake_lt_span {now : Nat} (h : now + clock.longest < clock.span) (duration : Nat) :
    clock.wake now duration < clock.span

/-- Thirty years of 365 days. -/
def thirtyYears : Nat := seconds (86400 * 365 * 30)

/-- A clock that counts seconds in 63 bits, on which every sleep ends after thirty years at the
latest. -/
def standard : Clock where
  span := seconds (Nat.pow 2 63)
  longest := thirtyYears
  wake now duration := now + min duration thirtyYears

end Clock

end FlightLink
