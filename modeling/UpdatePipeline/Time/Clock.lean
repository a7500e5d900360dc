import UpdatePipeline.Time.Duration
set_option autoImplicit false

/-!
# Time: the clock and its timers

A timer falls due at an instant.  Tickets record the order in which timers were set, and
`Timer.isBefore` puts those that fall due together in that order.
-/

namespace UpdatePipeline

/-- Something that happens at `due`. -/
structure Timer where
  due : Instant
  /-- Distinguishes timers by the order in which they were set. -/
  ticket : Nat
  deriving DecidableEq, Repr, Inhabited

/-- Whether a timer goes before another. -/
def Timer.isBefore (s t : Timer) : Bool := s.due < t.due || (s.due == t.due && s.ticket < t.ticket)

/-- The present instant, and the ticket of the next timer. -/
structure Clock where
  now : Instant := 0
  ticket : Nat := 0
  deriving DecidableEq, Repr, Inhabited

namespace Clock

/-- The timer that falls due after a wait. -/
def timer (c : Clock) (delay : Duration) : Timer := ⟨c.now + delay, c.ticket⟩

/-- The clock after setting a timer. -/
def tick (c : Clock) : Clock := { c with ticket := c.ticket + 1 }

/-- The clock at a later instant. -/
def moveTo (c : Clock) (t : Instant) : Clock := { c with now := max c.now t }

end Clock

end UpdatePipeline
