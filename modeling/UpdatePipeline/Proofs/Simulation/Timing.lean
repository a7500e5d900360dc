import UpdatePipeline.Proofs.Dispatcher.Timing
import UpdatePipeline.Proofs.Simulation.Respects
set_option autoImplicit false

/-!
# The clock of a simulation

Only waits take time, and a wait takes exactly as long as it was meant to, whatever goes on
meanwhile (`Simulation.now_waitFor`): what is done before an instant leaves the clock before it,
and the wait ends by moving the clock there.
-/

namespace UpdatePipeline

namespace Simulation

variable {s : Simulation}

/-! ## Steps that take no time -/

theorem probing_now (t : Instant) : Probing (fun _ => True) (Same (·.clock.now = t)) :=
  .of_kept trivial (fun _ _ hs => hs) (fun _ _ _ hs => hs) fun _ _ _ _ hs => hs

/-- The watchdog sends and sets timers, and waits for nothing. -/
theorem now_wakeWatchdog (w : Watchdog) (s : Simulation) :
    (exec (wakeWatchdog w) s).2.clock.now = s.clock.now :=
  respects_same_iff.1 ((probing_now s.clock.now).wakeWatchdog fun _ _ => trivial) s rfl

theorem now_report (notice : Notice) (s : Simulation) :
    (exec (report notice) s).2.clock = s.clock := rfl

theorem now_reportAll (notice : Option Notice) (s : Simulation) :
    (exec (notice.forM report) s).2.clock = s.clock := by
  cases notice with
  | none => rfl
  | some notice => exact now_report notice s

theorem now_send (request : Schema.Request) (s : Simulation) :
    (exec (send request) s).2.clock = s.clock := rfl

theorem now_drainQueue (s : Simulation) : (exec drainQueue s).2.clock.now = s.clock.now :=
  s.dispatcher.now_drain s.clock

/-! ## Waits -/

/-- What is done before an instant leaves the clock before it, and does not move it back. -/
theorem now_runBackground {limit : Instant} (hnow : s.clock.now < limit) (count : Nat) :
    s.clock.now ≤ (exec (runBackground count limit) s).2.clock.now ∧
      (exec (runBackground count limit) s).2.clock.now < limit := by
  have hrun : ∀ {t : Simulation} {bound : Instant}, bound ≤ limit → t.clock.now < limit →
      t.clock.now ≤ (exec (runDispatcher (Dispatcher.runUntil bound)) t).2.clock.now ∧
        (exec (runDispatcher (Dispatcher.runUntil bound)) t).2.clock.now < limit :=
    fun {t bound} hbound ht => ⟨t.dispatcher.le_now_runUntil bound t.clock,
      t.dispatcher.now_runUntil_lt hbound ht⟩
  induction count generalizing s with
  | zero => exact hrun (Nat.le_refl limit) hnow
  | succ count ih =>
    rw [runBackground, exec_bind, exec_get]
    dsimp only
    cases s.watchdog with
    | none => exact hrun (Nat.le_refl limit) hnow
    | some w =>
      dsimp only
      split
      · rename_i hdue
        rw [exec_bind, exec_bind, exec_bind]
        obtain ⟨hle, hlt⟩ := hrun (Nat.le_of_lt hdue) hnow
        generalize (exec (runDispatcher (Dispatcher.runUntil w.timer.due)) s).2 = t at hle hlt ⊢
        have hmoved : (exec (moveClock w.timer.due) t).2.clock.now < limit :=
          Nat.max_lt.2 ⟨hlt, hdue⟩
        have hwoken := now_wakeWatchdog w (exec (moveClock w.timer.due) t).2
        obtain ⟨hle', hlt'⟩ := ih (hwoken ▸ hmoved)
        refine ⟨?_, hlt'⟩
        calc s.clock.now
          _ ≤ t.clock.now := hle
          _ ≤ (exec (moveClock w.timer.due) t).2.clock.now := t.clock.le_moveTo w.timer.due
          _ = _ := hwoken.symm
          _ ≤ _ := hle'
      · exact hrun (Nat.le_refl limit) hnow

theorem exec_passUntil (limit : Instant) (s : Simulation) :
    exec (passUntil limit) s = exec (runBackground (limit - s.clock.now) limit) s := by
  rw [passUntil, exec_bind, exec_get]

theorem now_passUntil {limit : Instant} (hnow : s.clock.now < limit) :
    s.clock.now ≤ (exec (passUntil limit) s).2.clock.now ∧
      (exec (passUntil limit) s).2.clock.now < limit := by
  rw [exec_passUntil]
  exact now_runBackground hnow _

/-- What needs no more time takes none. -/
theorem now_settle (s : Simulation) : (exec settle s).2.clock.now = s.clock.now := by
  obtain ⟨hle, hlt⟩ := now_passUntil (Nat.lt_succ_self s.clock.now)
  rw [exec_settle, now_drainQueue]
  exact Nat.le_antisymm (Nat.le_of_lt_succ hlt) hle

theorem exec_waitFor_zero (s : Simulation) : exec (waitFor 0) s = ((), s) := by
  rw [waitFor, if_pos rfl]
  rfl

theorem exec_waitFor_of_pos {delay : Duration} (hdelay : delay ≠ 0) (s : Simulation) :
    exec (waitFor delay) s =
      exec (moveClock (s.clock.now + delay))
        (exec (passUntil (s.clock.now + delay)) (exec settle s).2).2 := by
  rw [waitFor, if_neg hdelay, exec_bind, exec_get, exec_bind, exec_bind]

/-- A wait takes as long as it was meant to. -/
theorem now_waitFor (delay : Duration) (s : Simulation) :
    (exec (waitFor delay) s).2.clock.now = s.clock.now + delay := by
  by_cases hdelay : delay = 0
  · rw [hdelay, exec_waitFor_zero]
    rfl
  · have hbefore : (exec settle s).2.clock.now < s.clock.now + delay := by
      rw [now_settle]
      exact Nat.lt_add_of_pos_right (Nat.pos_of_ne_zero hdelay)
    rw [exec_waitFor_of_pos hdelay]
    exact Clock.now_moveTo_of_le (Nat.le_of_lt (now_passUntil hbefore).2)

end Simulation

end UpdatePipeline
