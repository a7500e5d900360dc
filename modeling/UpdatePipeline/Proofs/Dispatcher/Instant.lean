import UpdatePipeline.Proofs.Dispatcher.Running
set_option autoImplicit false

/-!
# Deliveries that take no time

If no callback takes time then no worker is ever busy, and one that has taken an item is there
for the next one at the same instant.  So it makes no difference how many of them are idle:
what is queued is delivered in order by whoever there is (`Dispatcher.drain_of_isInstant`).
Two dispatchers that differ in the number of their workers stay alike in all that is done to
them (`Dispatcher.Twins`).
-/

namespace UpdatePipeline

open Delivery (Parcel)

/-! ## Handlers -/

/-- The handler's callback takes no time, whatever it is called with. -/
def Handler.IsInstant : Handler → Prop
  | .typed h => ∀ u, (h.callback u).delay = 0
  | .raw callback => ∀ e, (callback e).delay = 0

theorem Handler.IsInstant.takesTime_eq_false {h : Handler} (hinstant : h.IsInstant)
    {e : Envelope} {parsed : Option Parsed.Update} {argument : Argument} {reaction : Reaction}
    (hoffer : h.offer e parsed = .accepted argument reaction) :
    Delivery.takesTime reaction = false := by
  have hdelay : reaction.delay = 0 := by
    cases h with
    | raw callback =>
      obtain ⟨-, rfl⟩ := Offer.accepted.inj hoffer
      exact hinstant e
    | typed handler =>
      cases parsed with
      | none => cases hoffer
      | some u =>
        unfold offer at hoffer
        dsimp only at hoffer
        split at hoffer
        · obtain ⟨-, rfl⟩ := Offer.accepted.inj hoffer
          exact hinstant u
        · cases hoffer
        · cases hoffer
  simp [Delivery.takesTime, hdelay]

/-- No registered handler takes time. -/
def Registry.IsInstant (r : Registry) : Prop := ∀ x ∈ r.toList, x.handler.IsInstant

/-- To handlers that take no time a delivery is begun and over. -/
theorem Delivery.begin_of_isInstant {registry : Registry} (h : registry.IsInstant) (p : Parcel) :
    begin registry p = ((registry.deliver p).1, .finished (registry.deliver p).2) := by
  have hfinished : ∀ registrations : List Registration,
      (∀ x ∈ registrations, x.handler.IsInstant) →
      ∃ endedBy, (walk takesTime p registrations).2 = .finished endedBy := by
    intro registrations hinstant
    induction registrations with
    | nil => exact ⟨none, rfl⟩
    | cons r rest ih =>
      obtain ⟨endedBy, hrest⟩ := ih fun x hx => hinstant x (List.mem_cons_of_mem _ hx)
      rw [walk]
      cases hoffer : r.handler.offer p.envelope p.parsed with
      | declined => exact ⟨endedBy, hrest⟩
      | filterFailed message => exact ⟨endedBy, hrest⟩
      | accepted argument reaction =>
        dsimp only
        rw [(hinstant r List.mem_cons_self).takesTime_eq_false hoffer]
        by_cases hfinal : reaction.ending.isFinal
        · exact ⟨some r.id, by simp [hfinal]⟩
        · exact ⟨endedBy, by simpa [hfinal] using hrest⟩
  obtain ⟨endedBy, hstatus⟩ := hfinished registry.toList h
  have hwhole := walkThrough_eq takesTime p registry.toList
  rw [registry.deliver_eq, hwhole]
  unfold begin
  generalize walk takesTime p registry.toList = outcome at hstatus ⊢
  obtain ⟨events, status⟩ := outcome
  obtain rfl : status = .finished endedBy := hstatus
  simp [whole, Status.remainder]

/-- What can be seen of the delivery of these envelopes, one after the other, and the caches
after it. -/
def Registry.serve (r : Registry) : Parsed.Caches → List Envelope →
    List Delivery.Event × Parsed.Caches
  | caches, [] => ([], caches)
  | caches, e :: rest =>
    ((r.deliver ⟨e, (caches.read e).1⟩).1 ++ (r.serve (caches.read e).2 rest).1,
      (r.serve (caches.read e).2 rest).2)

namespace Dispatcher

variable {d : Dispatcher}

/-! ## Many workers are one -/

/-- A worker that is there delivers an envelope and is there again. -/
theorem take?_envelope (hinstant : d.registry.IsInstant) (hidle : 0 < d.idle)
    (hdropped : d.isDropped = false) {e : Envelope} {queue : List QueueItem}
    (hqueue : d.queue = .envelope e :: queue) (clock : Clock) :
    d.take? clock = some ((d.registry.deliver ⟨e, (d.caches.read e).1⟩).1,
      { d with queue, caches := (d.caches.read e).2 }, clock) := by
  obtain ⟨idle, hsucc⟩ := Nat.exists_eq_succ_of_ne_zero (Nat.ne_of_gt hidle)
  have hpop : d.pop? = some (.envelope e, { d with idle, queue }) :=
    pop?_eq_some_iff.2 ⟨idle, queue, hsucc, hqueue, rfl⟩
  rw [take?, hpop]
  simp only [parse, begin]
  rw [Delivery.begin_of_isInstant hinstant]
  simp [settleWorker, hdropped, hsucc]

theorem takeUpTo_envelopes (hinstant : d.registry.IsInstant) (hidle : 0 < d.idle)
    (hdropped : d.isDropped = false) {envelopes : List Envelope} {queue : List QueueItem}
    (hqueue : d.queue = envelopes.map .envelope ++ queue) (count : Nat) (clock : Clock) :
    d.takeUpTo (count + envelopes.length) clock =
      ((d.registry.serve d.caches envelopes).1 ++
        (takeUpTo count { d with queue, caches := (d.registry.serve d.caches envelopes).2 } clock).1,
        (takeUpTo count
          { d with queue, caches := (d.registry.serve d.caches envelopes).2 } clock).2) := by
  induction envelopes generalizing d with
  | nil =>
    obtain rfl : d.queue = queue := hqueue
    rfl
  | cons e rest ih =>
    have hfirst : d.queue = .envelope e :: (rest.map .envelope ++ queue) := hqueue
    let next : Dispatcher :=
      { d with queue := rest.map .envelope ++ queue, caches := (d.caches.read e).2 }
    have hrest := ih (d := next) hinstant hidle hdropped rfl
    rw [List.length_cons, ← Nat.add_assoc, takeUpTo,
      take?_envelope hinstant hidle hdropped hfirst]
    dsimp only
    rw [hrest]
    simp [next, Registry.serve]

/-- For every marker one worker leaves. -/
theorem takeUpTo_markers {left marks : Nat} (hidle : d.idle = left + marks)
    (hqueue : d.queue = List.replicate marks .stop) (clock : Clock) :
    d.takeUpTo marks clock = ([], { d with idle := left, queue := [] }, clock) := by
  induction marks generalizing d with
  | zero =>
    obtain rfl : d.idle = left := hidle
    have hempty : d.queue = [] := hqueue
    rw [takeUpTo, ← hempty]
  | succ marks ih =>
    have htake : d.take? clock =
        some ([], { d with idle := left + marks, queue := List.replicate marks .stop }, clock) := by
      have hpop : d.pop? = some (.stop,
          { d with idle := left + marks, queue := List.replicate marks .stop }) :=
        pop?_eq_some_iff.2 ⟨left + marks, List.replicate marks .stop, hidle, hqueue, rfl⟩
      rw [take?, hpop]
    let next : Dispatcher := { d with idle := left + marks, queue := List.replicate marks .stop }
    have hrest := ih (d := next) rfl rfl
    rw [takeUpTo, htake]
    dsimp only
    rw [hrest]
    rfl

/-- However many workers are idle, as long as there is one, the envelopes in the queue are
delivered in order, and behind them a worker leaves for every marker. -/
theorem drain_of_isInstant (hinstant : d.registry.IsInstant) (hdropped : d.isDropped = false)
    {left marks : Nat} (hidle : d.idle = left + marks) (hpos : 0 < d.idle)
    {envelopes : List Envelope}
    (hqueue : d.queue = envelopes.map .envelope ++ List.replicate marks .stop) (clock : Clock) :
    d.drain clock = ((d.registry.serve d.caches envelopes).1,
      { d with idle := left, queue := [], caches := (d.registry.serve d.caches envelopes).2 },
      clock) := by
  have hlength : d.queue.length = marks + envelopes.length := by
    rw [hqueue, List.length_append, List.length_map, List.length_replicate, Nat.add_comm]
  let served : Dispatcher :=
    { d with queue := List.replicate marks .stop, caches := (d.registry.serve d.caches envelopes).2 }
  have hmarkers := takeUpTo_markers (d := served) hidle rfl clock
  rw [drain, hlength, takeUpTo_envelopes hinstant hpos hdropped hqueue, hmarkers]
  simp [served]

theorem drain_of_idle_eq_zero (h : d.idle = 0) (clock : Clock) :
    d.drain clock = ([], d, clock) := by
  have hnobody : d.take? clock = none := by
    rw [take?, pop?_eq_none_iff.2 (.inl h)]
  unfold drain
  cases d.queue.length with
  | zero => rfl
  | succ count => rw [takeUpTo, hnobody]

theorem nextTimer?_of_busy (h : d.busy = []) : d.nextTimer? = none := by
  rw [nextTimer?, h]
  rfl

/-- While nobody is busy nothing happens. -/
theorem runUntil_of_busy (h : d.busy = []) (limit : Instant) (clock : Clock) :
    d.runUntil limit clock = ([], d, clock) := by
  unfold runUntil
  cases d.load with
  | zero => rfl
  | succ count => rw [runCallbacks, nextTimer?_of_busy h]

/-! ## Two numbers of workers -/

/-- How it stands with workers of which none is ever busy. -/
inductive Phase where
  /-- There are none. -/
  | absent
  /-- They wait for the queue. -/
  | present
  /-- They wait, and the markers of a stop are in the queue. -/
  | leaving
  /-- They have left, and the stop is not completed yet. -/
  | left

namespace Phase

/-- How many workers wait for the queue. -/
def idle (workers : Nat) : Phase → Nat
  | .present | .leaving => workers
  | .absent | .left => 0

/-- How many markers are in the queue. -/
def marks (workers : Nat) : Phase → Nat
  | .leaving => workers
  | _ => 0

/-- Whether the dispatcher is there and has been started. -/
def isStarted : Phase → Bool
  | .absent => false
  | _ => true

/-- The phase once idle workers have taken what is queued. -/
def drained : Phase → Phase
  | .leaving => .left
  | phase => phase

/-- Whether no stop is under way. -/
def isSteady : Phase → Bool
  | .absent | .present => true
  | _ => false

/-- Either nobody is there, or all are, and those who leave have a marker each. -/
theorem staffing (phase : Phase) :
    (phase.drained = phase ∧ ∀ workers, phase.idle workers = 0) ∨
      ∀ workers, phase.idle workers = workers ∧
        workers = phase.drained.idle workers + phase.marks workers := by
  cases phase with
  | absent => exact .inl ⟨rfl, fun _ => rfl⟩
  | present => exact .inr fun _ => ⟨rfl, rfl⟩
  | leaving => exact .inr fun workers => ⟨rfl, (Nat.zero_add workers).symm⟩
  | left => exact .inl ⟨rfl, fun _ => rfl⟩

theorem marks_eq_zero {phase : Phase} (h : phase.isSteady) (workers : Nat) :
    phase.marks workers = 0 := by
  cases phase with
  | leaving => cases h
  | _ => rfl

theorem drained_eq {phase : Phase} (h : phase.isSteady) : phase.drained = phase := by
  cases phase with
  | leaving => cases h
  | _ => rfl

theorem marks_drained (phase : Phase) (workers : Nat) : phase.drained.marks workers = 0 := by
  cases phase <;> rfl

theorem isStarted_drained (phase : Phase) : phase.drained.isStarted = phase.isStarted := by
  cases phase <;> rfl

end Phase

/-- The dispatcher is in this phase, no handler takes time, and these envelopes wait. -/
structure InPhase (phase : Phase) (envelopes : List Envelope) (d : Dispatcher) : Prop where
  instant : d.registry.IsInstant
  busy : d.busy = []
  idle : d.idle = phase.idle d.workers
  queue : d.queue = envelopes.map .envelope ++ List.replicate (phase.marks d.workers) .stop
  isStarted : (d.isRunning && !d.isDropped) = phase.isStarted

variable {phase : Phase} {envelopes : List Envelope}

namespace InPhase

theorem isDropped (h : d.InPhase phase envelopes) (hphase : phase.isStarted) :
    d.isDropped = false := by
  have hstarted := h.isStarted.trans hphase
  simpa using (Bool.and_eq_true_iff.1 hstarted).2

theorem isRunning (h : d.InPhase phase envelopes) (hphase : phase.isStarted) : d.isRunning :=
  (Bool.and_eq_true_iff.1 (h.isStarted.trans hphase)).1

/-- A dispatcher that has no workers has not been started, unless it has been dropped. -/
theorem not_isRunning (h : d.InPhase .absent envelopes) (hkept : d.isDropped = false) :
    d.isRunning = false := by
  simpa [hkept, Phase.isStarted] using h.isStarted

theorem drain (h : d.InPhase phase envelopes) (hidle : 0 < d.idle) (clock : Clock) :
    d.drain clock = ((d.registry.serve d.caches envelopes).1,
      { d with
        idle := phase.drained.idle d.workers
        queue := []
        caches := (d.registry.serve d.caches envelopes).2 },
      clock) := by
  rcases phase.staffing with ⟨-, hnobody⟩ | hall
  · rw [h.idle, hnobody] at hidle
    cases hidle
  · obtain ⟨hworkers, hmarks⟩ := hall d.workers
    have hstarted : phase.isStarted := by
      cases phase with
      | absent =>
        rw [h.idle] at hidle
        cases hidle
      | _ => rfl
    exact drain_of_isInstant h.instant (h.isDropped hstarted)
      ((h.idle.trans hworkers).trans hmarks) hidle h.queue clock

theorem drained (h : d.InPhase phase envelopes) (caches : Parsed.Caches) :
    InPhase phase.drained []
      { d with idle := phase.drained.idle d.workers, queue := [], caches } where
  instant := h.instant
  busy := h.busy
  idle := rfl
  queue := by
    rw [Phase.marks_drained]
    rfl
  isStarted := h.isStarted.trans phase.isStarted_drained.symm

theorem addHandler (h : d.InPhase phase envelopes) {handler : Handler}
    (hhandler : handler.IsInstant) (group : Int32) :
    (d.addHandler handler group).2.InPhase phase envelopes := by
  have hinstant : (d.registry.add d.nextId handler group).IsInstant := by
    intro r hr
    rcases Registry.mem_toList_add.1 hr with rfl | hold
    · exact hhandler
    · exact h.instant r hold
  exact { h with instant := hinstant }

theorem removeHandler (h : d.InPhase phase envelopes) {id : HandlerId} {group : Int32}
    {registry : Registry} (hremove : d.registry.remove id group = .ok registry) :
    InPhase phase envelopes { d with registry } := by
  have hinstant : registry.IsInstant := fun r hr =>
    h.instant r (Registry.mem_toList_of_remove hremove hr)
  exact { h with instant := hinstant }

/-- Unless they are about to leave, the workers take what is put into the queue. -/
theorem enqueue (h : d.InPhase phase envelopes) (hphase : phase.isSteady) (envelope : Envelope) :
    (d.enqueue envelope).InPhase phase (envelopes ++ [envelope]) := by
  have hqueue : d.queue ++ [.envelope envelope] = (envelopes ++ [envelope]).map .envelope ++
      List.replicate (phase.marks d.workers) .stop := by
    rw [h.queue, Phase.marks_eq_zero hphase]
    simp
  exact { h with queue := hqueue }

/-- A start brings workers where there were none. -/
theorem start (h : d.InPhase .absent envelopes) (hkept : d.isDropped = false) :
    d.start = ([.reported (.started d.workers)],
        { d with idle := d.workers, isRunning := true }) ∧
      InPhase .present envelopes { d with idle := d.workers, isRunning := true } := by
  constructor
  · unfold Dispatcher.start
    rw [h.not_isRunning hkept]
    rfl
  · have hstarted : (true && !d.isDropped) = Phase.isStarted .present := by
      rw [hkept]
      rfl
    exact { h with idle := rfl, isStarted := hstarted }

theorem beginStop (h : d.InPhase .present envelopes) :
    d.beginStop = { d with queue := d.queue ++ List.replicate d.workers .stop } ∧
      InPhase .leaving envelopes { d with queue := d.queue ++ List.replicate d.workers .stop } := by
  constructor
  · unfold Dispatcher.beginStop
    rw [if_pos (h.isRunning rfl)]
  · have hqueue : d.queue ++ List.replicate d.workers .stop =
        envelopes.map .envelope ++ List.replicate (Phase.marks d.workers .leaving) .stop := by
      rw [h.queue, List.append_assoc]
      rfl
    exact { h with queue := hqueue, isStarted := h.isStarted }

/-- There is something to do for those who leave. -/
theorem load_pos (h : d.InPhase .leaving envelopes) : 0 < d.load := by
  have hlength : 0 < d.queue.length := by
    rw [h.queue, List.length_append, List.length_replicate]
    exact Nat.add_pos_right _ d.workers_pos
  exact Nat.add_pos_left (Nat.mul_pos hlength (Nat.succ_pos _)) _

theorem finishStop (h : d.InPhase .left envelopes) : d.finishStop.2.InPhase .absent envelopes := by
  have hinstant : Registry.empty.IsInstant := fun r hr => absurd hr List.not_mem_nil
  exact { h with instant := hinstant, isStarted := rfl }

/-- A dispatcher that is dropped has no workers any more. -/
theorem drop (h : d.InPhase phase envelopes) (hphase : phase.isSteady) :
    d.drop.InPhase .absent envelopes := by
  have hqueue : d.queue = envelopes.map .envelope ++
      List.replicate (Phase.marks d.workers .absent) .stop := by
    rw [h.queue, Phase.marks_eq_zero hphase]
    rfl
  have hstarted : (d.isRunning && !true) = Phase.isStarted .absent := Bool.and_false _
  exact { h with idle := rfl, queue := hqueue, isStarted := hstarted }

end InPhase

theorem inPhase_ofWorkers (n : Nat) (caches : Parsed.Caches) :
    (ofWorkers n caches).InPhase .absent [] := by
  have hinstant : Registry.empty.IsInstant := fun r hr => absurd hr List.not_mem_nil
  exact ⟨hinstant, rfl, rfl, rfl, rfl⟩

/-- The two differ in nothing but the number of their workers, none of which is ever busy. -/
structure Twins (phase : Phase) (d e : Dispatcher) : Prop where
  same : ∃ workers workers_pos queue idle, d = { e with workers, workers_pos, queue, idle }
  inPhase : ∃ envelopes, d.InPhase phase envelopes ∧ e.InPhase phase envelopes

theorem twins_ofWorkers (m n : Nat) (caches : Parsed.Caches) :
    Twins .absent (ofWorkers m caches) (ofWorkers n caches) where
  same := ⟨_, (ofWorkers m caches).workers_pos, [], 0, rfl⟩
  inPhase := ⟨[], inPhase_ofWorkers m caches, inPhase_ofWorkers n caches⟩

namespace Twins

variable {e : Dispatcher}

theorem isRunning (h : Twins phase d e) : d.isRunning = e.isRunning := by
  obtain ⟨workers, workers_pos, queue, idle, rfl⟩ := h.same
  rfl

theorem isDropped (h : Twins phase d e) : d.isDropped = e.isDropped := by
  obtain ⟨workers, workers_pos, queue, idle, rfl⟩ := h.same
  rfl

theorem runUntil (h : Twins phase d e) (limit : Instant) (clock : Clock) :
    d.runUntil limit clock = ([], d, clock) ∧ e.runUntil limit clock = ([], e, clock) := by
  obtain ⟨envelopes, hd, he⟩ := h.inPhase
  exact ⟨runUntil_of_busy hd.busy limit clock, runUntil_of_busy he.busy limit clock⟩

/-- What is queued is delivered alike, by however many workers. -/
theorem drain (h : Twins phase d e) (clock : Clock) :
    (d.drain clock).1 = (e.drain clock).1 ∧ (d.drain clock).2.2 = (e.drain clock).2.2 ∧
      Twins phase.drained (d.drain clock).2.1 (e.drain clock).2.1 := by
  have hboth := h
  obtain ⟨⟨workers, hpos, queue, idle, rfl⟩, envelopes, hd, he⟩ := h
  rcases phase.staffing with ⟨hdrained, hnobody⟩ | hall
  · rw [drain_of_idle_eq_zero (hd.idle.trans (hnobody _)),
      drain_of_idle_eq_zero (he.idle.trans (hnobody _)), hdrained]
    exact ⟨rfl, rfl, hboth⟩
  · have hidle : idle = workers := hd.idle.trans (hall _).1
    have hidle' : e.idle = e.workers := he.idle.trans (hall _).1
    rw [hd.drain (hidle ▸ hpos), he.drain (hidle' ▸ e.workers_pos)]
    exact ⟨rfl, rfl, ⟨_, hpos, _, _, rfl⟩, [], hd.drained _, he.drained _⟩

theorem addHandler (h : Twins phase d e) {handler : Handler} (hhandler : handler.IsInstant)
    (group : Int32) : (d.addHandler handler group).1 = (e.addHandler handler group).1 ∧
      Twins phase (d.addHandler handler group).2 (e.addHandler handler group).2 := by
  obtain ⟨⟨workers, hpos, queue, idle, rfl⟩, envelopes, hd, he⟩ := h
  exact ⟨rfl, ⟨_, hpos, _, _, rfl⟩, envelopes, hd.addHandler hhandler group,
    he.addHandler hhandler group⟩

theorem removeHandler (h : Twins phase d e) (id : HandlerId) (group : Int32) :
    (d.removeHandler id group).1 = (e.removeHandler id group).1 ∧
      Twins phase (d.removeHandler id group).2 (e.removeHandler id group).2 := by
  have hboth := h
  obtain ⟨⟨workers, hpos, queue, idle, rfl⟩, envelopes, hd, he⟩ := h
  unfold Dispatcher.removeHandler
  dsimp only
  cases hremove : e.registry.remove id group with
  | error error => exact ⟨rfl, hboth⟩
  | ok registry =>
    exact ⟨rfl, ⟨_, hpos, _, _, rfl⟩, envelopes, hd.removeHandler hremove,
      he.removeHandler hremove⟩

theorem enqueue (h : Twins phase d e) (hphase : phase.isSteady) (envelope : Envelope) :
    Twins phase (d.enqueue envelope) (e.enqueue envelope) := by
  obtain ⟨⟨workers, hpos, queue, idle, rfl⟩, envelopes, hd, he⟩ := h
  exact ⟨⟨_, hpos, _, _, rfl⟩, _, hd.enqueue hphase envelope, he.enqueue hphase envelope⟩

theorem put (h : Twins phase d e) (hphase : phase.isSteady) (envelope : Envelope) :
    (d.put envelope).1 = (e.put envelope).1 ∧
      Twins phase (d.put envelope).2 (e.put envelope).2 := by
  have hclosed : d.isClosed = e.isClosed := by
    obtain ⟨workers, hpos, queue, idle, rfl⟩ := h.same
    rfl
  unfold Dispatcher.put
  rw [hclosed]
  split
  · exact ⟨rfl, h⟩
  · exact ⟨rfl, h.enqueue hphase envelope⟩

theorem start (h : Twins .absent d e) (hkept : e.isDropped = false) :
    d.start.1 = [.reported (.started d.workers)] ∧ e.start.1 = [.reported (.started e.workers)] ∧
      Twins .present d.start.2 e.start.2 := by
  have hkept' : d.isDropped = false := h.isDropped.trans hkept
  obtain ⟨⟨workers, hpos, queue, idle, rfl⟩, envelopes, hd, he⟩ := h
  obtain ⟨hstart, hpresent⟩ := hd.start hkept'
  obtain ⟨hstart', hpresent'⟩ := he.start hkept
  rw [hstart, hstart']
  exact ⟨rfl, rfl, ⟨_, hpos, _, _, rfl⟩, envelopes, hpresent, hpresent'⟩

theorem beginStop (h : Twins .present d e) : Twins .leaving d.beginStop e.beginStop := by
  obtain ⟨⟨workers, hpos, queue, idle, rfl⟩, envelopes, hd, he⟩ := h
  obtain ⟨hbegun, hleaving⟩ := hd.beginStop
  obtain ⟨hbegun', hleaving'⟩ := he.beginStop
  rw [hbegun, hbegun']
  exact ⟨⟨_, hpos, _, _, rfl⟩, envelopes, hleaving, hleaving'⟩

theorem finishStop (h : Twins .left d e) : Twins .absent d.finishStop.2 e.finishStop.2 := by
  obtain ⟨⟨workers, hpos, queue, idle, rfl⟩, envelopes, hd, he⟩ := h
  exact ⟨⟨_, hpos, _, _, rfl⟩, envelopes, hd.finishStop, he.finishStop⟩

theorem drop (h : Twins phase d e) (hphase : phase.isSteady) : Twins .absent d.drop e.drop := by
  obtain ⟨⟨workers, hpos, queue, idle, rfl⟩, envelopes, hd, he⟩ := h
  exact ⟨⟨_, hpos, _, _, rfl⟩, envelopes, hd.drop hphase, he.drop hphase⟩

end Twins

end Dispatcher

end UpdatePipeline
