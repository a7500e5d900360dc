import UpdatePipeline.Proofs.Simulation.Invariants
set_option autoImplicit false

/-!
# Sessions

A session is a sequence of calls to a client, with time passing between them
(`Simulation.session`).  A start is three things one after the other: the workers, the catch-up,
and the watchdog if all went well (`Simulation.exec_start`).  All other calls respect what their
single steps respect (`Simulation.Conducting.between`).
-/

namespace UpdatePipeline

open Schema (Request Push)

namespace Simulation

/-- What is done to a client, from outside or by letting time pass. -/
inductive Call where
  | start
  | stop
  | recover
  | push (push : Push)
  | addHandler (handler : Handler) (group : Int32)
  | removeHandler (id : HandlerId) (group : Int32)
  | put (envelope : Envelope)
  | wait (delay : Duration)
  /-- Everything happens that needs no more time. -/
  | settle

/-- What a call returns. -/
inductive Answer where
  | done
  | outcome (result : Except InvocationError Unit)
  | recovered (result : Except InvocationError Recovery.Stats)
  | registered (id : HandlerId)
  | dispatched (result : Except DispatchError Unit)

/-- Carries a call out. -/
def Call.carryOut : Call → SimulationM Answer
  | .start => .outcome <$> Simulation.start
  | .stop => (fun _ => .done) <$> Simulation.stop
  | .recover => .recovered <$> Simulation.recover
  | .push p => .outcome <$> Simulation.push p
  | .addHandler handler group => .registered <$> Simulation.addHandler handler group
  | .removeHandler id group => .dispatched <$> Simulation.removeHandler id group
  | .put envelope => .dispatched <$> Simulation.put envelope
  | .wait delay => (fun _ => .done) <$> waitFor delay
  | .settle => (fun _ => .done) <$> Simulation.settle

/-- Carries calls out one after the other; the result is what happened. -/
def session : List Call → SimulationM (List (Call × Answer))
  | [] => return []
  | c :: rest => do
    let answer ← c.carryOut
    let later ← session rest
    return (c, answer) :: later

/-- Catches up, unless positions are not kept. -/
def catchUp : SimulationM (Except InvocationError Unit) := do
  perform Program.touched
  let config := (← get).config
  if config.skipUpdates then pure (.ok ())
  else (·.map fun _ => ()) <$> perform (Recovery.recoverGaps config)

/-- Sets the watchdog, if the client has caught up and has none. -/
def watch (caughtUp : Except InvocationError Unit) : SimulationM (Except InvocationError Unit) := do
  if caughtUp.isOk && (← get).watchdog.isNone then restWatchdog
  return caughtUp

theorem exec_push (p : Push) (s : Simulation) :
    exec (push p) s = exec (perform (Intake.take s.config p)) s := rfl

theorem exec_recover (s : Simulation) :
    exec recover s = exec (perform (Recovery.recoverGaps s.config)) s := rfl

theorem exec_touched (s : Simulation) :
    exec (perform Program.touched) s = ((), { s with lastUpdate := s.clock.now }) := rfl

theorem exec_catchUp (s : Simulation) :
    exec catchUp s =
      if s.config.skipUpdates then (.ok (), { s with lastUpdate := s.clock.now })
      else exec ((·.map fun _ => ()) <$> perform (Recovery.recoverGaps s.config))
        { s with lastUpdate := s.clock.now } := by
  unfold catchUp
  rw [exec_bind, exec_bind, exec_get, exec_touched]
  dsimp only
  by_cases hskips : s.config.skipUpdates = true
  · rw [if_pos hskips, if_pos hskips]
    rfl
  · rw [if_neg hskips, if_neg hskips]

/-- A start brings the workers, catches up and sets the watchdog. -/
theorem exec_start (s : Simulation) :
    exec start s =
      exec (watch (exec catchUp (exec startWorkers s).2).1) (exec catchUp (exec startWorkers s).2).2 := by
  unfold start
  rw [exec_bind, exec_bind, exec_bind, exec_get, exec_catchUp, exec_touched]
  dsimp only
  split
  · rfl
  · rfl

theorem exec_watch (caughtUp : Except InvocationError Unit) (s : Simulation) :
    exec (watch caughtUp) s =
      (caughtUp, if caughtUp.isOk && s.watchdog.isNone then (exec restWatchdog s).2 else s) := by
  unfold watch
  rw [exec_bind, exec_get]
  dsimp only
  split
  · rfl
  · rfl

/-! ## Starts and stops of the workers -/

section Workers

variable {s : Simulation}

/-- Workers that run are not started. -/
theorem exec_startWorkers_of_isRunning (h : s.dispatcher.isRunning) :
    exec startWorkers s = ((), s) := by
  have hnothing : s.dispatcher.start = ([], s.dispatcher) := by
    unfold Dispatcher.start
    rw [if_pos h]
  unfold startWorkers runDispatcher
  rw [exec_modify]
  dsimp only
  rw [hnothing]
  rfl

theorem exec_stopWorkers_of_not_isRunning (h : s.dispatcher.isRunning = false) :
    exec stopWorkers s = ((), s) := by
  unfold stopWorkers
  rw [exec_bind, exec_get]
  dsimp only
  rw [h]
  rfl

/-- The markers go into the queue, the workers leave, and the stop is completed. -/
theorem exec_stopWorkers_of_isRunning (h : s.dispatcher.isRunning) :
    exec stopWorkers s =
      exec (runDispatcher fun d clock =>
          (Dispatcher.stamp clock.now d.finishStop.1, d.finishStop.2, clock))
        (exec (awaitWorkers s.dispatcher.beginStop.load)
          { s with dispatcher := s.dispatcher.beginStop }).2 := by
  unfold stopWorkers
  rw [exec_bind, exec_get]
  dsimp only
  rw [h]
  rfl

/-- Where nobody is busy once all is settled there is nobody to wait for. -/
theorem exec_awaitWorkers_of_rest {count : Nat} (hpos : 0 < count)
    (hrest : (exec settle s).2.dispatcher.nextTimer? = none) :
    exec (awaitWorkers count) s = ((), (exec settle s).2) := by
  obtain ⟨left, rfl⟩ := Nat.exists_eq_succ_of_ne_zero (Nat.ne_of_gt hpos)
  unfold awaitWorkers
  rw [exec_bind, exec_bind, exec_get]
  dsimp only
  rw [hrest]
  rfl

theorem exec_stop (s : Simulation) : exec stop s = exec stopWorkers { s with watchdog := none } := rfl

end Workers

/-! ## Between starts and stops -/

/-- Relations that every call respects that neither starts nor stops anything, when it registers
such handlers. -/
structure Conducting (P : Handler → Prop) (Q : Request → Prop)
    (R : Simulation → Simulation → Prop) : Prop extends Carrying Q R where
  differences : ∀ request, Program.IsForDifference request → Q request
  addHandler : ∀ handler group, P handler → Respects R (Simulation.addHandler handler group)
  removeHandler : ∀ id group, Respects R (Simulation.removeHandler id group)
  put : ∀ envelope, Respects R (Simulation.put envelope)

namespace Conducting

variable {P : Handler → Prop} {Q : Request → Prop} {R : Simulation → Simulation → Prop}

/-- What is carried out under the configuration at hand. -/
theorem perform_config {α : Type} (h : Conducting P Q R) (p : Config → Program α)
    (hp : ∀ config, (p config).Invokes Program.IsForDifference)
    (hworkers : ∀ config workers, p { config with workers } = p config) :
    Respects R (do perform (p (← get).config)) := by
  apply respects_get_bind
  · intro s t hst
    obtain ⟨workers, hconfig⟩ := h.config s t hst
    rw [hconfig, hworkers]
  · exact fun s => h.toCarrying.perform ((hp s.config).imp h.differences)

theorem catchUp (h : Conducting P Q R) : Respects R catchUp := by
  refine (h.toCarrying.perform Program.invokes_touched).bind fun _ => ?_
  apply respects_get_bind
  · intro s t hst
    obtain ⟨workers, hconfig⟩ := h.config s t hst
    dsimp only
    rw [hconfig, Recovery.recoverGaps_workers]
  · intro s
    dsimp only
    split
    · exact respects_pure _
    · exact (h.toCarrying.perform ((Recovery.invokes_recoverGaps _).imp h.differences)).map _

theorem between (h : Conducting P Q R) {c : Call} (hstart : c ≠ .start) (hstop : c ≠ .stop)
    (hadded : ∀ handler group, c = .addHandler handler group → P handler) :
    Respects R c.carryOut := by
  cases c with
  | start => exact absurd rfl hstart
  | stop => exact absurd rfl hstop
  | recover =>
    exact (h.perform_config Recovery.recoverGaps Recovery.invokes_recoverGaps
      Recovery.recoverGaps_workers).map _
  | push p =>
    exact (h.perform_config (Intake.take · p) (fun config => Intake.invokes_take config p)
      fun config workers => Intake.take_workers config workers p).map _
  | addHandler handler group => exact (h.addHandler handler group (hadded _ _ rfl)).map _
  | removeHandler id group => exact (h.removeHandler id group).map _
  | put envelope => exact (h.put envelope).map _
  | wait delay => exact (h.waitFor delay).map _
  | settle => exact h.settle.map _

end Conducting

/-! ## Invariants -/

section Calls

variable {I : Dispatcher → Prop} {W : Option Watchdog → Prop} {E : Occurrence → Prop}
  {earlier : List Observation} {s : Simulation}

theorem Invariant.startWorkers {I' : Dispatcher → Prop} (h : Invariant I W E earlier s)
    (hreported : ∀ notice, E (.reported notice)) (hstart : I' s.dispatcher.start.2) :
    Invariant I' W E earlier (exec startWorkers s).2 := by
  refine h.runDispatcher hstart ?_
  intro e he
  obtain ⟨event, hevent, rfl⟩ := List.mem_map.1 he
  unfold Dispatcher.start at hevent
  split at hevent
  · cases hevent
  · rw [List.mem_singleton.1 hevent]
    exact hreported _

theorem Lasting.conducting (h : Lasting I W E) :
    Conducting (fun _ => True) Program.IsForDifference (Same (Invariant I W E earlier)) where
  toCarrying := h.carrying
  differences _ hrequest := hrequest
  addHandler handler group _ := respects_same_iff.2 fun _ hs =>
    hs.onDispatcher (h.addHandler handler group hs.dispatcher)
  removeHandler id group := respects_same_iff.2 fun _ hs =>
    hs.onDispatcher (h.removeHandler id group hs.dispatcher)
  put envelope := respects_same_iff.2 fun _ hs => by
    refine hs.onDispatcher ?_
    unfold Dispatcher.put
    split
    · exact hs.dispatcher
    · exact h.enqueue envelope hs.dispatcher

/-- A lasting invariant is kept by all calls but starts and stops. -/
theorem Lasting.between (h : Lasting I W E) {c : Call} (hstart : c ≠ .start) (hstop : c ≠ .stop)
    (hs : Invariant I W E earlier s) : Invariant I W E earlier (exec c.carryOut s).2 :=
  respects_same_iff.1 (h.conducting.between hstart hstop fun _ _ _ => trivial) s hs

theorem Lasting.catchUp (h : Lasting I W E) (hs : Invariant I W E earlier s) :
    Invariant I W E earlier (exec catchUp s).2 :=
  respects_same_iff.1 h.conducting.catchUp s hs

/-- Stopping the workers keeps what both halves of the stop keep. -/
theorem Resident.stopWorkers (h : Resident I W E) (hbegin : ∀ d, I d → I d.beginStop)
    (hfinish : ∀ d, I d → I d.finishStop.2) :
    Respects (Same (Invariant I W E earlier)) stopWorkers := by
  apply respects_get_bind
  · rintro s t ⟨rfl, -⟩
    rfl
  · intro s
    dsimp only
    split
    · refine Respects.bind (respects_same_iff.2 fun s hs => ?_) fun _ => ?_
      · exact hs.onDispatcher (hbegin _ hs.dispatcher)
      · apply respects_get_bind
        · rintro s t ⟨rfl, -⟩
          rfl
        · intro s
          refine (h.settling.awaitWorkers (fun _ _ hst => hst.congr (·.dispatcher.nextTimer?)) _).bind fun _ => ?_
          refine respects_same_iff.2 fun s hs => ?_
          refine hs.runDispatcher (hfinish _ hs.dispatcher) ?_
          intro e he
          obtain ⟨event, hevent, rfl⟩ := List.mem_map.1 he
          rw [List.mem_singleton.1 hevent]
          exact h.reported _
    · exact respects_pure ()

end Calls

end Simulation

end UpdatePipeline
