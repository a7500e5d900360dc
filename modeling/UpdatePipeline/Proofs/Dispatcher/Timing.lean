import UpdatePipeline.Proofs.Dispatcher.Running
set_option autoImplicit false

/-!
# The clock of a dispatcher

Workers set timers, and only the end of a callback moves the clock.  So the clock never goes
back, and what is done before some instant leaves it before that instant
(`Dispatcher.now_runUntil_lt`).
-/

namespace UpdatePipeline

theorem Clock.le_moveTo (c : Clock) (t : Instant) : c.now ≤ (c.moveTo t).now :=
  Nat.le_max_left c.now t

theorem Clock.now_moveTo_of_le {c : Clock} {t : Instant} (h : c.now ≤ t) : (c.moveTo t).now = t :=
  Nat.max_eq_right h

namespace Dispatcher

/-! ## Steps that take no time -/

theorem now_settleWorker (d : Dispatcher) (clock : Clock) (status : Delivery.Status) :
    (d.settleWorker clock status).2.now = clock.now := by
  cases status with
  | finished endedBy => rfl
  | suspended delay delivery => rfl

theorem Takes.now_eq {d : Dispatcher} {clock : Clock}
    {r : List Delivery.Event × Dispatcher × Clock} (h : Takes d clock r) :
    r.2.2.now = clock.now := by
  cases h with
  | leave _ _ => rfl
  | deliver _ _ => exact now_settleWorker _ clock _

theorem Resumes.now_eq {d : Dispatcher} {timer : Timer} {clock : Clock}
    {r : List Delivery.Event × Dispatcher × Clock} (h : Resumes d timer clock r) :
    r.2.2.now = clock.now := by
  cases h with
  | nothing _ => rfl
  | goOn _ => exact now_settleWorker _ clock _

theorem now_takeUpTo (count : Nat) (d : Dispatcher) (clock : Clock) :
    (d.takeUpTo count clock).2.2.now = clock.now := by
  induction count generalizing d clock with
  | zero => rfl
  | succ count ih =>
    rw [takeUpTo]
    cases htake : d.take? clock with
    | none => rfl
    | some taken => exact (ih _ _).trans (takes_of_take? htake).now_eq

theorem now_drain (d : Dispatcher) (clock : Clock) : (d.drain clock).2.2.now = clock.now :=
  now_takeUpTo _ d clock

theorem now_finishCallback (d : Dispatcher) (timer : Timer) (clock : Clock) :
    (d.finishCallback timer clock).2.2.now = clock.now := by
  have hresumed := (resumes_resume d timer clock).now_eq
  rw [finishCallback]
  dsimp only
  split
  · exact (now_drain _ _).trans hresumed
  · exact hresumed

/-! ## Callbacks -/

theorem le_now_runUntil (limit : Instant) (d : Dispatcher) (clock : Clock) :
    clock.now ≤ (d.runUntil limit clock).2.2.now := by
  unfold runUntil
  generalize d.load = count
  induction count generalizing d clock with
  | zero => exact Nat.le_refl _
  | succ count ih =>
    rw [runCallbacks]
    cases d.nextTimer? with
    | none => exact Nat.le_refl _
    | some timer =>
      dsimp only
      split
      · refine Nat.le_trans ?_ (ih _ _)
        rw [now_finishCallback]
        exact clock.le_moveTo timer.due
      · exact Nat.le_refl _

/-- Callbacks that are due later are left alone. -/
theorem now_runUntil_lt {limit bound : Instant} {clock : Clock} (hlimit : limit ≤ bound)
    (hnow : clock.now < bound) (d : Dispatcher) : (d.runUntil limit clock).2.2.now < bound := by
  unfold runUntil
  generalize d.load = count
  induction count generalizing d clock with
  | zero => exact hnow
  | succ count ih =>
    rw [runCallbacks]
    cases d.nextTimer? with
    | none => exact hnow
    | some timer =>
      dsimp only
      split
      · rename_i hdue
        apply ih
        rw [now_finishCallback]
        exact Nat.max_lt.2 ⟨hnow, Nat.lt_of_lt_of_le hdue hlimit⟩
      · exact hnow

end Dispatcher

end UpdatePipeline
