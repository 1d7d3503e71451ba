import FlightLink.Clock

/-!
# Publications

The status of a channel is published at regular intervals.  A publication that comes late puts off
the following ones, so that two of them are never closer together than the interval.
-/

namespace FlightLink.Controller

/-- How often the status is published. -/
def statusInterval : Nat := Clock.seconds 1

/-- How late a publication may be before the following ones are put off as well. -/
def statusTolerance : Nat := 5

/-- When the status is published next, after a publication that was due at `due`. -/
def nextPublication (due now : Nat) : Nat :=
  if due + statusTolerance < now then now + statusInterval else due + statusInterval

end FlightLink.Controller
