import UpdatePipeline.Invocation
import UpdatePipeline.Time.Clock
set_option autoImplicit false

/-!
# The watchdog

The watchdog wakes once in every interval.  If nothing has been received for longer
than an interval, it asks the server for its state, which makes the server push again;
the answer itself is of no interest.  The next interval begins when the answer is
there.
-/

namespace UpdatePipeline

/-- An invocation in flight. -/
inductive Pending where
  /-- The reply is on its way. -/
  | reply (invocation : Invocation) (reply : Reply)
  /-- The wait before the next attempt goes on. -/
  | retry (invocation : Invocation)

/-- A watchdog, and when it goes on. -/
structure Watchdog where
  timer : Timer
  /-- The probe under way; without one the watchdog sleeps. -/
  probe : Option Pending := none

namespace Watchdog

/-- Whether a check finds that the server has fallen silent. -/
def isSilent (interval : Duration) (lastUpdate now : Instant) : Bool := interval < now - lastUpdate

end Watchdog

end UpdatePipeline
