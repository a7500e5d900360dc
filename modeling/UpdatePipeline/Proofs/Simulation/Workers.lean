import UpdatePipeline.Proofs.Dispatcher.Instant
import UpdatePipeline.Proofs.Simulation.Session
set_option autoImplicit false

/-!
# The number of workers

Where no callback takes time nobody can tell how many workers there are: whatever is done to
two clients that differ in nothing else gives the same answers, and they call the same
handlers at the same instants, ask the server for the same, and store the same
(`Simulation.session_workers`).
-/

namespace UpdatePipeline

open Schema (Request)

/-! ## What can be seen -/

/-- The occurrence, not counting the workers that a start reports. -/
def Occurrence.uncounted : Occurrence → Occurrence
  | .reported (.started _) => .reported (.started 0)
  | o => o

/-- The observation, not counting the workers that a start reports. -/
def Observation.uncounted (o : Observation) : Observation :=
  { o with occurrence := o.occurrence.uncounted }

namespace Simulation

open Dispatcher (Phase)

variable {phase : Phase} {s t : Simulation}

/-- The two differ in nothing but the number of their workers, and none of these is ever busy. -/
structure Twins (phase : Phase) (s t : Simulation) : Prop where
  same : ∃ workers dispatcher observations,
    s = { t with config := { t.config with workers }, dispatcher, observations }
  dispatcher : s.dispatcher.Twins phase t.dispatcher
  observations : s.observations.map Observation.uncounted = t.observations.map Observation.uncounted

namespace Twins

theorem clock (h : Twins phase s t) : s.clock = t.clock := by
  obtain ⟨workers, dispatcher, observations, rfl⟩ := h.same
  rfl

theorem watchdog (h : Twins phase s t) : s.watchdog = t.watchdog := by
  obtain ⟨workers, dispatcher, observations, rfl⟩ := h.same
  rfl

theorem config (h : Twins phase s t) : s.config = { t.config with workers := s.config.workers } := by
  obtain ⟨workers, dispatcher, observations, rfl⟩ := h.same
  rfl

theorem script (h : Twins phase s t) : s.script = t.script := by
  obtain ⟨workers, dispatcher, observations, rfl⟩ := h.same
  rfl

theorem observe (h : Twins phase s t) (o : Occurrence) :
    Twins phase (exec (observe o) s).2 (exec (observe o) t).2 := by
  obtain ⟨⟨workers, dispatcher, observations, rfl⟩, hdispatcher, hobservations⟩ := h
  refine ⟨⟨workers, dispatcher, _, rfl⟩, hdispatcher, ?_⟩
  exact congrArg (Observation.uncounted ⟨t.clock.now, o⟩ :: ·) hobservations

theorem onDispatcher {phase' : Phase} {α : Type} (h : Twins phase s t)
    {f : Dispatcher → α × Dispatcher}
    (hf : (f s.dispatcher).1 = (f t.dispatcher).1 ∧
      Dispatcher.Twins phase' (f s.dispatcher).2 (f t.dispatcher).2) :
    (exec (onDispatcher f) s).1 = (exec (onDispatcher f) t).1 ∧
      Twins phase' (exec (onDispatcher f) s).2 (exec (onDispatcher f) t).2 := by
  obtain ⟨⟨workers, dispatcher, observations, rfl⟩, -, hobservations⟩ := h
  exact ⟨hf.1, ⟨workers, _, _, rfl⟩, hf.2, hobservations⟩

/-- What a trace shows. -/
def shown (trace : Dispatcher.Trace) : List Observation :=
  trace.map fun (instant, event) => Observation.uncounted ⟨instant, .ofEvent event⟩

theorem runDispatcher {phase' : Phase} (h : Twins phase s t)
    {f : Dispatcher → Clock → Dispatcher.Trace × Dispatcher × Clock}
    (hshown : shown (f s.dispatcher s.clock).1 = shown (f t.dispatcher t.clock).1)
    (hclock : (f s.dispatcher s.clock).2.2 = (f t.dispatcher t.clock).2.2)
    (hdispatcher : Dispatcher.Twins phase' (f s.dispatcher s.clock).2.1 (f t.dispatcher t.clock).2.1) :
    Twins phase' (exec (runDispatcher f) s).2 (exec (runDispatcher f) t).2 := by
  obtain ⟨⟨workers, dispatcher, observations, rfl⟩, -, hobservations⟩ := h
  have hseen : ∀ (trace : Dispatcher.Trace) (earlier : List Observation),
      ((trace.map fun (instant, event) => (⟨instant, .ofEvent event⟩ : Observation)).reverse ++
        earlier).map Observation.uncounted =
      (shown trace).reverse ++ earlier.map Observation.uncounted := by
    intro trace earlier
    simp [shown]
  unfold Simulation.runDispatcher
  rw [exec_modify, exec_modify]
  dsimp only at hshown hclock hdispatcher hobservations ⊢
  generalize f dispatcher t.clock = left at hshown hclock hdispatcher ⊢
  generalize f t.dispatcher t.clock = right at hshown hclock hdispatcher ⊢
  obtain ⟨trace, d, clock⟩ := left
  obtain ⟨trace', d', clock'⟩ := right
  obtain rfl : clock = clock' := hclock
  refine ⟨⟨workers, d, _, rfl⟩, hdispatcher, ?_⟩
  dsimp only
  rw [hseen, hseen, hshown, hobservations]

theorem send (h : Twins phase s t) (request : Request) :
    (exec (send request) s).1 = (exec (send request) t).1 ∧
      Twins phase (exec (send request) s).2 (exec (send request) t).2 := by
  obtain ⟨⟨workers, dispatcher, observations, rfl⟩, hdispatcher, hobservations⟩ := h
  have hscript : Twins phase
      { t with
        config := { t.config with workers }
        dispatcher
        observations
        script := (t.script.next request).2 }
      { t with script := (t.script.next request).2 } :=
    ⟨⟨workers, dispatcher, observations, rfl⟩, hdispatcher, hobservations⟩
  exact ⟨rfl, hscript.observe _⟩

end Twins

/-! ## What leaves twins alike -/

/-- A step that neither reads nor changes anything in which the two may differ. -/
theorem respects_common {α : Type} {m : SimulationM α}
    (hsame : ∀ s workers dispatcher observations,
      exec m { s with config := { s.config with workers }, dispatcher, observations } =
        ((exec m s).1, { (exec m s).2 with
          config := { (exec m s).2.config with workers }
          dispatcher
          observations }))
    (hframe : ∀ s, (exec m s).2.dispatcher = s.dispatcher ∧
      (exec m s).2.observations = s.observations) : Respects (Twins phase) m := by
  intro s t h
  have hafter := hframe s
  have hafter' := hframe t
  obtain ⟨⟨workers, dispatcher, observations, rfl⟩, hdispatcher, hobservations⟩ := h
  rw [hsame] at hafter ⊢
  refine ⟨rfl, ⟨workers, dispatcher, observations, rfl⟩, ?_, ?_⟩
  · rw [hafter'.1]
    exact hdispatcher
  · rw [hafter'.2]
    exact hobservations

theorem probing_twins (phase : Phase) : Probing (fun _ => True) (Twins phase) where
  getState := trivial
  clock _ _ h := h.clock
  lastUpdate s t h := by
    obtain ⟨workers, dispatcher, observations, rfl⟩ := h.same
    rfl
  interval s t h := by rw [h.config]
  retry s t h := by rw [h.config]
  script _ _ h := h.script
  report notice s t h := ⟨rfl, h.observe _⟩
  send request _ s t h := h.send request
  set _ _ _ := respects_common (fun _ _ _ _ => rfl) (fun _ => ⟨rfl, rfl⟩)

/-- While time passes twins stay in their phase. -/
theorem ambient_twins (phase : Phase) : Ambient (Twins phase) where
  clock _ _ h := h.clock
  watchdog _ _ h := h.watchdog
  moveClock _ := respects_common (fun _ _ _ _ => rfl) (fun _ => ⟨rfl, rfl⟩)
  runUntil limit s t h := by
    obtain ⟨hs, ht⟩ := h.dispatcher.runUntil limit t.clock
    rw [← h.clock] at hs
    refine ⟨rfl, h.runDispatcher ?_ ?_ ?_⟩
    · rw [hs, ht]
    · rw [hs, ht]
      exact h.clock
    · rw [hs, ht]
      exact h.dispatcher
  wake _ _ _ _ _ := (probing_twins phase).wakeWatchdog fun _ _ => trivial

/-- Workers that are there deliver what is queued. -/
theorem Twins.drainQueue (h : Twins phase s t) :
    Twins phase.drained (exec drainQueue s).2 (exec drainQueue t).2 := by
  obtain ⟨hevents, hclock, hdispatcher⟩ := h.dispatcher.drain s.clock
  apply h.runDispatcher
  · dsimp only
    rw [hevents, h.clock]
  · dsimp only
    rw [hclock, h.clock]
  · dsimp only
    rw [← h.clock]
    exact hdispatcher

/-- Twins of which no stop is under way carry out everything alike. -/
theorem conducting_twins (hphase : phase.isSteady) :
    Conducting Handler.IsInstant (fun _ => True) (Twins phase) where
  toAmbient := ambient_twins phase
  drain s t h := by
    have hdrained := h.drainQueue
    rw [Phase.drained_eq hphase] at hdrained
    exact ⟨rfl, hdrained⟩
  config s t h := ⟨s.config.workers, h.config⟩
  script _ _ h := h.script
  report notice s t h := ⟨rfl, h.observe _⟩
  send request _ s t h := h.send request
  enqueue envelope s t h := h.onDispatcher ⟨rfl, h.dispatcher.enqueue hphase envelope⟩
  listRecords := respects_common (fun _ _ _ _ => rfl) (fun _ => ⟨rfl, rfl⟩)
  storeRecord record := by
    apply respects_common
    · intro s workers dispatcher observations
      unfold storeRecord
      rw [exec_modifyGet, exec_modifyGet]
      dsimp only
      split
      · rfl
      · rfl
    · intro s
      unfold storeRecord
      rw [exec_modifyGet]
      dsimp only
      split
      · exact ⟨rfl, rfl⟩
      · exact ⟨rfl, rfl⟩
  touch := respects_common (fun _ _ _ _ => rfl) (fun _ => ⟨rfl, rfl⟩)
  differences _ _ := trivial
  addHandler handler group hinstant s t h := h.onDispatcher (h.dispatcher.addHandler hinstant group)
  removeHandler id group s t h := h.onDispatcher (h.dispatcher.removeHandler id group)
  put envelope s t h := h.onDispatcher (h.dispatcher.put hphase envelope)

theorem Twins.settle (h : Twins phase s t) :
    Twins phase.drained (exec settle s).2 (exec settle t).2 := by
  have hpassed := ((ambient_twins phase).passUntil (t.clock.now + 1) s t h).2
  rw [exec_settle, exec_settle, h.clock]
  exact hpassed.drainQueue

/-! ## Starts and stops -/

theorem Twins.startWorkers (h : Twins phase s t) (hphase : phase.isSteady)
    (hkept : t.dispatcher.isDropped = false) :
    Twins .present (exec startWorkers s).2 (exec startWorkers t).2 := by
  cases phase with
  | leaving => cases hphase
  | left => cases hphase
  | present =>
    obtain ⟨envelopes, hd, he⟩ := h.dispatcher.inPhase
    rw [exec_startWorkers_of_isRunning (hd.isRunning rfl),
      exec_startWorkers_of_isRunning (he.isRunning rfl)]
    exact h
  | absent =>
    obtain ⟨hevents, hevents', hdispatcher⟩ := h.dispatcher.start hkept
    apply h.runDispatcher
    · dsimp only
      rw [hevents, hevents', h.clock]
      rfl
    · exact h.clock
    · exact hdispatcher

/-- However many workers have to leave, they do so at once. -/
theorem Twins.awaitWorkers (h : Twins .leaving s t) :
    Twins .left (exec (awaitWorkers s.dispatcher.load) s).2
      (exec (awaitWorkers t.dispatcher.load) t).2 := by
  have hsettled := h.settle
  obtain ⟨envelopes, hleaving, hleaving'⟩ := h.dispatcher.inPhase
  obtain ⟨rest, hleft, hleft'⟩ := hsettled.dispatcher.inPhase
  rw [exec_awaitWorkers_of_rest hleaving.load_pos (Dispatcher.nextTimer?_of_busy hleft.busy),
    exec_awaitWorkers_of_rest hleaving'.load_pos (Dispatcher.nextTimer?_of_busy hleft'.busy)]
  exact hsettled

theorem Twins.stopWorkers (h : Twins phase s t) (hphase : phase.isSteady)
    (hkept : t.dispatcher.isDropped = false) :
    Twins .absent (exec stopWorkers s).2 (exec stopWorkers t).2 := by
  obtain ⟨envelopes, hd, he⟩ := h.dispatcher.inPhase
  cases phase with
  | leaving => cases hphase
  | left => cases hphase
  | absent =>
    rw [exec_stopWorkers_of_not_isRunning (hd.not_isRunning (h.dispatcher.isDropped.trans hkept)),
      exec_stopWorkers_of_not_isRunning (he.not_isRunning hkept)]
    exact h
  | present =>
    rw [exec_stopWorkers_of_isRunning (hd.isRunning rfl),
      exec_stopWorkers_of_isRunning (he.isRunning rfl)]
    have hbegun : Twins .leaving { s with dispatcher := s.dispatcher.beginStop }
        { t with dispatcher := t.dispatcher.beginStop } :=
      (h.onDispatcher (f := fun d => ((), d.beginStop)) ⟨rfl, h.dispatcher.beginStop⟩).2
    have hleft := hbegun.awaitWorkers
    apply hleft.runDispatcher
    · rw [hleft.clock]
      rfl
    · exact hleft.clock
    · exact hleft.dispatcher.finishStop

theorem Twins.stop (h : Twins phase s t) (hphase : phase.isSteady)
    (hkept : t.dispatcher.isDropped = false) :
    Twins .absent (exec stop s).2 (exec stop t).2 := by
  have hunwatched : Twins phase { s with watchdog := none } { t with watchdog := none } := by
    obtain ⟨⟨workers, dispatcher, observations, rfl⟩, hdispatcher, hobservations⟩ := h
    exact ⟨⟨workers, dispatcher, observations, rfl⟩, hdispatcher, hobservations⟩
  rw [exec_stop, exec_stop]
  exact hunwatched.stopWorkers hphase hkept

theorem Twins.start (h : Twins phase s t) (hphase : phase.isSteady)
    (hkept : t.dispatcher.isDropped = false) :
    (exec start s).1 = (exec start t).1 ∧ Twins .present (exec start s).2 (exec start t).2 := by
  have hcaughtUp := (conducting_twins rfl).catchUp _ _ (h.startWorkers hphase hkept)
  rw [exec_start, exec_start]
  generalize exec catchUp (exec Simulation.startWorkers s).2 = left at hcaughtUp ⊢
  generalize exec catchUp (exec Simulation.startWorkers t).2 = right at hcaughtUp ⊢
  obtain ⟨result, s'⟩ := left
  obtain ⟨result', t'⟩ := right
  obtain ⟨hresult, htwins⟩ := hcaughtUp
  obtain rfl : result = result' := hresult
  rw [exec_watch, exec_watch, htwins.watchdog]
  refine ⟨rfl, ?_⟩
  dsimp only
  split
  · exact ((probing_twins .present).restWatchdog _ _ htwins).2
  · exact htwins

/-! ## Calls -/

/-- No handler that is registered by it takes time. -/
def Call.IsInstant : Call → Prop
  | .addHandler handler _ => handler.IsInstant
  | _ => True

/-- What is done to a client, or to a dispatcher by itself. -/
inductive Operation where
  | call (c : Call)
  | startWorkers
  | stopWorkers
  /-- The dispatcher is dropped; its sender stays. -/
  | drop
  | invoke (request : Request)
  | setRecord (record : StateRecord)
  | removeRecord (scope : Scope)

namespace Operation

/-- What an operation comes to. -/
inductive Result where
  | answer (a : Answer)
  | reply (r : Reply)
  | done
  /-- The dispatcher is not there any more. -/
  | missing

/-- Whether it takes the dispatcher, and not just its sender, the clock or the store. -/
def needsDispatcher : Operation → Bool
  | .call (.put _) | .call (.wait _) | .call .settle => false
  | .setRecord _ | .removeRecord _ => false
  | _ => true

/-- Carries an operation out. -/
def perform : Operation → SimulationM Result
  | .call c => .answer <$> c.carryOut
  | .startWorkers => (fun _ => .done) <$> Simulation.startWorkers
  | .stopWorkers => (fun _ => .done) <$> Simulation.stopWorkers
  | .drop => (fun _ => .done) <$> onDispatcher fun d => ((), d.drop)
  | .invoke request => .reply <$> Simulation.invoke request
  | .setRecord record =>
    (fun _ => .done) <$> (modify fun s => { s with records := s.records.set record } : SimulationM Unit)
  | .removeRecord scope =>
    (fun _ => .done) <$> (modify fun s => { s with records := s.records.remove scope } : SimulationM Unit)

/-- Carries an operation out, unless the dispatcher that it takes has been dropped. -/
def carryOut (o : Operation) : SimulationM Result := do
  if (← get).dispatcher.isDropped && o.needsDispatcher then return .missing else o.perform

/-- No handler that is registered by it takes time. -/
def IsInstant : Operation → Prop
  | .call c => c.IsInstant
  | _ => True

end Operation

/-- Carries operations out one after the other. -/
def operate : List Operation → SimulationM (List Operation.Result)
  | [] => return []
  | o :: rest => do
    let result ← o.carryOut
    let later ← operate rest
    return result :: later

/-- The two differ in nothing but the number of their workers, and no stop is under way. -/
def Alike (s t : Simulation) : Prop := ∃ phase : Phase, phase.isSteady ∧ Twins phase s t

theorem alike_of_respects {α : Type} {m : SimulationM α} (hphase : phase.isSteady)
    (h : Twins phase s t) (hm : Respects (Twins phase) m) :
    (exec m s).1 = (exec m t).1 ∧ Alike (exec m s).2 (exec m t).2 := by
  obtain ⟨hresult, htwins⟩ := hm s t h
  exact ⟨hresult, phase, hphase, htwins⟩

theorem respects_records (f : Records → Records) :
    Respects (Twins phase)
      (modify fun s => { s with records := f s.records } : SimulationM Unit) :=
  respects_common (fun _ _ _ _ => rfl) (fun _ => ⟨rfl, rfl⟩)

/-- If the dispatcher is there, unless it is not needed, an operation has the same result in
both and leaves them alike. -/
theorem Operation.alike_perform {o : Operation} (hinstant : o.IsInstant) (hphase : phase.isSteady)
    (h : Twins phase s t) (hkept : o.needsDispatcher → t.dispatcher.isDropped = false) :
    (exec o.perform s).1 = (exec o.perform t).1 ∧
      Alike (exec o.perform s).2 (exec o.perform t).2 := by
  cases o with
  | call c =>
    by_cases hstart : c = .start
    · subst hstart
      obtain ⟨hresult, htwins⟩ := h.start hphase (hkept rfl)
      exact ⟨congrArg (fun r => Result.answer (.outcome r)) hresult, .present, rfl, htwins⟩
    · by_cases hstop : c = .stop
      · subst hstop
        exact ⟨rfl, .absent, rfl, h.stop hphase (hkept rfl)⟩
      · have hadded : ∀ handler group, c = .addHandler handler group → handler.IsInstant := by
          rintro handler group rfl
          exact hinstant
        exact alike_of_respects hphase h
          (((conducting_twins hphase).between hstart hstop hadded).map Result.answer)
  | startWorkers => exact ⟨rfl, .present, rfl, h.startWorkers hphase (hkept rfl)⟩
  | stopWorkers => exact ⟨rfl, .absent, rfl, h.stopWorkers hphase (hkept rfl)⟩
  | drop =>
    have hdrop := h.onDispatcher (f := fun d => ((), d.drop)) ⟨rfl, h.dispatcher.drop hphase⟩
    exact ⟨rfl, .absent, rfl, hdrop.2⟩
  | invoke request =>
    have hrespects : Respects (Twins phase) (Simulation.invoke request) :=
      (conducting_twins hphase).invoke trivial
    exact alike_of_respects hphase h (hrespects.map Result.reply)
  | setRecord record =>
    exact alike_of_respects hphase h ((respects_records (·.set record)).map fun _ => Result.done)
  | removeRecord scope =>
    exact alike_of_respects hphase h ((respects_records (·.remove scope)).map fun _ => Result.done)

/-- What is done to two that are alike has the same result in both, and leaves them alike. -/
theorem Operation.respects {o : Operation} (hinstant : o.IsInstant) :
    Respects Alike o.carryOut := by
  rintro s t ⟨phase, hphase, h⟩
  unfold Operation.carryOut
  rw [exec_bind, exec_bind, exec_get, exec_get]
  dsimp only
  rw [h.dispatcher.isDropped]
  by_cases hmissing : (t.dispatcher.isDropped && o.needsDispatcher) = true
  · rw [if_pos hmissing]
    exact ⟨rfl, phase, hphase, h⟩
  · rw [if_neg hmissing]
    apply Operation.alike_perform hinstant hphase h
    intro hneeds
    simpa [hneeds] using hmissing

theorem respects_operate {operations : List Operation} (h : ∀ o ∈ operations, o.IsInstant) :
    Respects Alike (operate operations) := by
  induction operations with
  | nil => exact respects_pure []
  | cons o rest ih =>
    have hfirst := Operation.respects (h o List.mem_cons_self)
    have hlater := ih fun o' ho' => h o' (List.mem_cons_of_mem _ ho')
    exact hfirst.bind fun _ => hlater.bind fun _ => respects_pure _

/-- What anybody can find out about the two is the same, but for the number of workers in the
report of a start: who was called with what and when, what was asked of the server, what else
was reported, what is stored, and what the dispatcher holds. -/
structure Indistinguishable (s t : Simulation) : Prop where
  observations : s.observations.map Observation.uncounted = t.observations.map Observation.uncounted
  records : s.records = t.records
  caches : s.dispatcher.caches = t.dispatcher.caches
  registry : s.dispatcher.registry = t.dispatcher.registry
  queue : s.dispatcher.queue = t.dispatcher.queue
  isRunning : s.dispatcher.isRunning = t.dispatcher.isRunning
  clock : s.clock = t.clock
  lastUpdate : s.lastUpdate = t.lastUpdate
  watchdog : s.watchdog = t.watchdog
  script : s.script = t.script

theorem Alike.indistinguishable (h : Alike s t) : Indistinguishable s t := by
  obtain ⟨phase, hphase, ⟨workers, dispatcher, observations, rfl⟩, hdispatcher, hobservations⟩ := h
  obtain ⟨envelopes, hd, he⟩ := hdispatcher.inPhase
  have hqueue : dispatcher.queue = t.dispatcher.queue := by
    have hq := hd.queue
    have hq' := he.queue
    rw [Phase.marks_eq_zero hphase] at hq hq'
    exact hq.trans hq'.symm
  have hisRunning := hdispatcher.isRunning
  obtain ⟨n, npos, queue, idle, hsame⟩ := hdispatcher.same
  refine ⟨hobservations, rfl, ?_, ?_, hqueue, hisRunning, rfl, rfl, rfl, rfl⟩
  · exact (congrArg Dispatcher.caches hsame :)
  · exact (congrArg Dispatcher.registry hsame :)

/-- As long as no handler takes time, the same operations have the same results and the same
effects with any two numbers of workers. -/
theorem session_workers (config : Config) (script : Script) (records : Records) (m n : Nat)
    (operations : List Operation) (hinstant : ∀ o ∈ operations, o.IsInstant) :
    (exec (operate operations) (ofConfig { config with workers := m } script records)).1 =
        (exec (operate operations) (ofConfig { config with workers := n } script records)).1 ∧
      Indistinguishable
        (exec (operate operations) (ofConfig { config with workers := m } script records)).2
        (exec (operate operations) (ofConfig { config with workers := n } script records)).2 := by
  have hbegin : Alike (ofConfig { config with workers := m } script records)
      (ofConfig { config with workers := n } script records) := by
    refine ⟨.absent, rfl, ⟨m, _, [], rfl⟩, ?_, rfl⟩
    exact Dispatcher.twins_ofWorkers m n _
  obtain ⟨hresults, hafter⟩ := respects_operate hinstant _ _ hbegin
  exact ⟨hresults, hafter.indistinguishable⟩

/-- One worker and three start, deliver an envelope and stop. -/
theorem session_workers_one_three :
    let config : Config := {}
    let script : Script := { resolve := fun _ => .error .dropped }
    let envelope : Envelope := ⟨.other "quiet", Peers.none⟩
    let operations : List Operation :=
      [.call (.addHandler (.raw fun _ => {}) 0), .startWorkers, .call (.put envelope), .stopWorkers]
    let one := ofConfig { config with workers := 1 } script ∅
    let three := ofConfig { config with workers := 3 } script ∅
    (∀ o ∈ operations, o.IsInstant) ∧
      (exec (operate operations) one).1 = (exec (operate operations) three).1 ∧
      Indistinguishable (exec (operate operations) one).2 (exec (operate operations) three).2 ∧
      (exec (operate operations) three).2.observations.length = 3 := by
  intro config script envelope operations one three
  have hinstant : ∀ o ∈ operations, o.IsInstant := by
    simp [operations, Operation.IsInstant, Call.IsInstant, Handler.IsInstant]
  obtain ⟨hresults, hsame⟩ := session_workers config script ∅ 1 3 operations hinstant
  exact ⟨hinstant, hresults, hsame, rfl⟩

end Simulation

end UpdatePipeline
