import UpdatePipeline.Proofs.Program.Invokes
import UpdatePipeline.Simulation.Client
set_option autoImplicit false

/-!
# Two simulations side by side

A step of a simulation respects a relation if, carried out in two related simulations, it
returns the same in both and leaves them related (`Simulation.Respects`).  What the small steps
respect the large ones do: everything that goes on in the background (`Ambient.passUntil`),
waits (`Settling.waitFor`), invocations (`Asking.invoke`), and whole programs
(`Carrying.perform`).  An invariant of one simulation is the case in which both are the same
(`Simulation.Same`).
-/

namespace UpdatePipeline

open Schema (Request)

/-- The invocation that is in flight. -/
def Pending.invocation : Pending → Invocation
  | .reply i _ => i
  | .retry i => i

namespace Simulation

variable {α β : Type}

/-- What a step returns, and the simulation it leaves. -/
def exec (m : SimulationM α) (s : Simulation) : α × Simulation := (m.run s).run

theorem exec_bind (m : SimulationM α) (f : α → SimulationM β) (s : Simulation) :
    exec (m >>= f) s = exec (f (exec m s).1) (exec m s).2 := rfl

theorem exec_get (s : Simulation) : exec get s = (s, s) := rfl

theorem exec_modify (f : Simulation → Simulation) (s : Simulation) :
    exec (modify f) s = ((), f s) := rfl

theorem exec_modifyGet (f : Simulation → α × Simulation) (s : Simulation) :
    exec (modifyGet f) s = f s := rfl

theorem exec_map (f : α → β) (m : SimulationM α) (s : Simulation) :
    exec (f <$> m) s = (f (exec m s).1, (exec m s).2) := rfl

theorem exec_settle (s : Simulation) :
    exec settle s = exec drainQueue (exec (passUntil (s.clock.now + 1)) s).2 := rfl

/-! ## Relations that steps respect -/

/-- In related simulations the step returns the same, and leaves them related. -/
def Respects (R : Simulation → Simulation → Prop) (m : SimulationM α) : Prop :=
  ∀ s t, R s t → (exec m s).1 = (exec m t).1 ∧ R (exec m s).2 (exec m t).2

/-- Both are one simulation, of which this holds. -/
def Same (I : Simulation → Prop) (s t : Simulation) : Prop := s = t ∧ I s

theorem Same.congr {I : Simulation → Prop} {s t : Simulation} (h : Same I s t)
    (f : Simulation → β) : f s = f t :=
  congrArg f h.1

/-- A step that respects `Same I` is one that keeps the invariant `I`. -/
theorem respects_same_iff {I : Simulation → Prop} {m : SimulationM α} :
    Respects (Same I) m ↔ ∀ s, I s → I (exec m s).2 := by
  constructor
  · intro h s hs
    exact (h s s ⟨rfl, hs⟩).2.2
  · rintro h s t ⟨rfl, hs⟩
    exact ⟨rfl, rfl, h s hs⟩

section Combinators

variable {R : Simulation → Simulation → Prop}

theorem respects_pure (a : α) : Respects R (pure a : SimulationM α) :=
  fun _ _ hst => ⟨rfl, hst⟩

theorem Respects.bind {m : SimulationM α} {f : α → SimulationM β} (hm : Respects R m)
    (hf : ∀ a, Respects R (f a)) : Respects R (m >>= f) := by
  intro s t hst
  obtain ⟨hresult, hafter⟩ := hm s t hst
  rw [exec_bind, exec_bind, ← hresult]
  exact hf _ _ _ hafter

theorem Respects.map {m : SimulationM α} (hm : Respects R m) (f : α → β) :
    Respects R (f <$> m) := by
  intro s t hst
  obtain ⟨hresult, hafter⟩ := hm s t hst
  rw [exec_map, exec_map, hresult]
  exact ⟨rfl, hafter⟩

/-- What goes on is the same in related simulations. -/
theorem respects_get_bind {f : Simulation → SimulationM α} (hsame : ∀ s t, R s t → f s = f t)
    (hf : ∀ s, Respects R (f s)) : Respects R (get >>= f) := by
  intro s t hst
  rw [exec_bind, exec_bind, exec_get, exec_get, hsame s t hst]
  exact hf t s t hst

theorem respects_forM {m : α → SimulationM Unit} (h : ∀ a, Respects R (m a)) (o : Option α) :
    Respects R (o.forM m) := by
  cases o with
  | none => exact respects_pure ()
  | some a => exact h a

end Combinators

/-! ## The background -/

/-- Relations that everything respects that goes on while time passes. -/
structure Ambient (R : Simulation → Simulation → Prop) : Prop where
  clock : ∀ s t, R s t → s.clock = t.clock
  watchdog : ∀ s t, R s t → s.watchdog = t.watchdog
  moveClock : ∀ limit, Respects R (moveClock limit)
  runUntil : ∀ limit, Respects R (runDispatcher (Dispatcher.runUntil limit))
  wake : ∀ s t w, R s t → s.watchdog = some w → Respects R (wakeWatchdog w)

/-- Relations that idle workers respect, too. -/
structure Settling (R : Simulation → Simulation → Prop) : Prop extends Ambient R where
  drain : Respects R drainQueue

/-- Relations that invocations of such requests respect. -/
structure Asking (Q : Request → Prop) (R : Simulation → Simulation → Prop) : Prop
    extends Settling R where
  retry : ∀ s t, R s t → s.config.retry = t.config.retry
  script : ∀ s t, R s t → s.script = t.script
  report : ∀ notice, Respects R (report notice)
  send : ∀ request, Q request → Respects R (send request)

/-- Relations that every single step of a program respects, when it invokes such requests. -/
structure Carrying (Q : Request → Prop) (R : Simulation → Simulation → Prop) : Prop
    extends Settling R where
  /-- The two may differ in the number of their workers. -/
  config : ∀ s t, R s t → ∃ workers, s.config = { t.config with workers }
  script : ∀ s t, R s t → s.script = t.script
  report : ∀ notice, Respects R (report notice)
  send : ∀ request, Q request → Respects R (send request)
  enqueue : ∀ envelope, Respects R (onDispatcher fun d => ((), d.enqueue envelope))
  listRecords : Respects R listRecords
  storeRecord : ∀ record, Respects R (storeRecord record)
  touch : Respects R (modify fun s => { s with lastUpdate := s.clock.now })

/-- Relations that the watchdog respects, when its probes send such requests. -/
structure Probing (Q : Request → Prop) (R : Simulation → Simulation → Prop) : Prop where
  getState : Q .getState
  clock : ∀ s t, R s t → s.clock = t.clock
  lastUpdate : ∀ s t, R s t → s.lastUpdate = t.lastUpdate
  interval : ∀ s t, R s t → s.config.watchdogInterval = t.config.watchdogInterval
  retry : ∀ s t, R s t → s.config.retry = t.config.retry
  script : ∀ s t, R s t → s.script = t.script
  report : ∀ notice, Respects R (report notice)
  send : ∀ request, Q request → Respects R (send request)
  set : ∀ delay (probe : Option Pending), (∀ p ∈ probe, Q p.invocation.request) →
    Respects R (setWatchdog delay probe)

variable {Q : Request → Prop} {R : Simulation → Simulation → Prop}

namespace Probing

/-- An invariant that the watchdog's single steps keep. -/
theorem of_kept {I : Simulation → Prop} (hgetState : Q .getState)
    (hreport : ∀ notice s, I s → I (exec (Simulation.report notice) s).2)
    (hsend : ∀ request, Q request → ∀ s, I s → I (exec (Simulation.send request) s).2)
    (hset : ∀ delay (probe : Option Pending), (∀ p ∈ probe, Q p.invocation.request) →
      ∀ s, I s → I (exec (setWatchdog delay probe) s).2) : Probing Q (Same I) where
  getState := hgetState
  clock _ _ hst := hst.congr Simulation.clock
  lastUpdate _ _ hst := hst.congr Simulation.lastUpdate
  interval _ _ hst := hst.congr (·.config.watchdogInterval)
  retry _ _ hst := hst.congr (·.config.retry)
  script _ _ hst := hst.congr Simulation.script
  report notice := respects_same_iff.2 (hreport notice)
  send request hrequest := respects_same_iff.2 (hsend request hrequest)
  set delay probe hprobe := respects_same_iff.2 (hset delay probe hprobe)

theorem restWatchdog (h : Probing Q R) : Respects R restWatchdog := by
  apply respects_get_bind
  · intro s t hst
    rw [h.interval s t hst]
  · exact fun s => h.set _ none fun p hp => absurd hp (Option.not_mem_none p)

/-- A probe that goes on with its request. -/
theorem setProbe (h : Probing Q R) (delay : Duration) {probe : Pending}
    (hprobe : Q probe.invocation.request) : Respects R (setWatchdog delay (some probe)) := by
  apply h.set
  intro p hp
  obtain rfl := Option.mem_some.1 hp
  exact hprobe

theorem endProbe (h : Probing Q R) (result : Reply) : Respects R (endProbe result) := by
  unfold Simulation.endProbe
  dsimp only
  split
  · exact h.restWatchdog
  · exact (h.report _).bind fun _ => h.restWatchdog

theorem receiveProbe (h : Probing Q R) {again : Invocation → SimulationM Unit}
    (hagain : ∀ i, Q i.request → Respects R (again i)) {i : Invocation} (hi : Q i.request)
    (reply : Reply) : Respects R (receiveProbe again i reply) := by
  apply respects_get_bind
  · intro s t hst
    rw [h.retry s t hst]
  · intro s
    cases hnext : i.onReply s.config.retry reply with
    | finished result => exact h.endProbe result
    | retry delay notice next =>
      have hrequest : Q next.request := by
        rw [Invocation.request_of_onReply hnext]
        exact hi
      refine (respects_forM h.report notice).bind fun _ => ?_
      split
      · exact hagain next hrequest
      · exact h.setProbe delay hrequest

theorem sendProbe (h : Probing Q R) (left : Nat) {i : Invocation} (hi : Q i.request) :
    Respects R (sendProbe left i) := by
  induction left generalizing i with
  | zero => exact h.endProbe _
  | succ left ih =>
    unfold Simulation.sendProbe
    refine (h.send i.request hi).bind fun answer => ?_
    split
    · exact h.receiveProbe (fun _ => ih) hi answer.reply
    · exact h.setProbe answer.delay hi

theorem wakeWatchdog (h : Probing Q R) {w : Watchdog}
    (hw : ∀ p ∈ w.probe, Q p.invocation.request) : Respects R (wakeWatchdog w) := by
  apply respects_get_bind
  · intro s t hst
    have hlimit : s.attemptLimit = t.attemptLimit := by
      unfold attemptLimit
      rw [h.script s t hst]
    rw [hlimit, h.interval s t hst, h.lastUpdate s t hst, h.clock s t hst]
  · intro s
    have hagain : ∀ i : Invocation, Q i.request →
        Respects R (Simulation.sendProbe s.attemptLimit i) := fun _ => h.sendProbe _
    cases hprobe : w.probe with
    | none =>
      dsimp only
      split
      · exact hagain _ h.getState
      · exact h.restWatchdog
    | some pending =>
      cases pending with
      | reply i reply =>
        have hi : Q i.request := hw _ hprobe
        exact h.receiveProbe hagain hi reply
      | retry i =>
        have hi : Q i.request := hw _ hprobe
        exact hagain i hi

end Probing

namespace Ambient

theorem runBackground (h : Ambient R) (count : Nat) (limit : Instant) :
    Respects R (runBackground count limit) := by
  induction count with
  | zero => exact h.runUntil limit
  | succ count ih =>
    intro s t hst
    unfold Simulation.runBackground
    rw [exec_bind, exec_bind, exec_get, exec_get]
    dsimp only
    rw [← h.watchdog s t hst]
    cases hwatchdog : s.watchdog with
    | none => exact h.runUntil limit s t hst
    | some w =>
      have hwake := h.wake s t w hst hwatchdog
      dsimp only
      by_cases hdue : w.timer.due < limit
      · rw [if_pos hdue]
        have hall := (h.runUntil w.timer.due).bind fun _ =>
          (h.moveClock w.timer.due).bind fun _ => hwake.bind fun _ => ih
        exact hall s t hst
      · rw [if_neg hdue]
        exact h.runUntil limit s t hst

theorem passUntil (h : Ambient R) (limit : Instant) : Respects R (passUntil limit) := by
  apply respects_get_bind
  · intro s t hst
    rw [h.clock s t hst]
  · exact fun s => h.runBackground (limit - s.clock.now) limit

end Ambient

namespace Settling

theorem settle (h : Settling R) : Respects R settle := by
  apply respects_get_bind
  · intro s t hst
    rw [h.clock s t hst]
  · exact fun s => (h.passUntil _).bind fun _ => h.drain

theorem waitFor (h : Settling R) (delay : Duration) : Respects R (waitFor delay) := by
  unfold Simulation.waitFor
  split
  · exact respects_pure ()
  · apply respects_get_bind
    · intro s t hst
      rw [h.clock s t hst]
    · exact fun s => h.settle.bind fun _ => (h.passUntil _).bind fun _ => h.moveClock _

/-- Where timers run alike, so does waiting for the workers. -/
theorem awaitWorkers (h : Settling R)
    (htimer : ∀ s t, R s t → s.dispatcher.nextTimer? = t.dispatcher.nextTimer?) (count : Nat) :
    Respects R (awaitWorkers count) := by
  induction count with
  | zero => exact respects_pure ()
  | succ count ih =>
    unfold Simulation.awaitWorkers
    refine h.settle.bind fun _ => ?_
    apply respects_get_bind
    · intro s t hst
      rw [htimer s t hst]
    · intro s
      cases s.dispatcher.nextTimer? with
      | none => exact respects_pure ()
      | some timer => exact (h.passUntil _).bind fun _ => (h.moveClock _).bind fun _ => ih

end Settling

/-! ## Programs -/

/-- Relations that invocations of such requests respect, whatever a wait consists of. -/
structure Inquiring (Q : Request → Prop) (R : Simulation → Simulation → Prop) : Prop where
  waitFor : ∀ delay, Respects R (waitFor delay)
  retry : ∀ s t, R s t → s.config.retry = t.config.retry
  script : ∀ s t, R s t → s.script = t.script
  report : ∀ notice, Respects R (report notice)
  send : ∀ request, Q request → Respects R (send request)

/-- Relations that programs respect, too, which take down at no point that an update has been
received. -/
structure Executing (Q : Request → Prop) (R : Simulation → Simulation → Prop) : Prop
    extends Inquiring Q R where
  enqueue : ∀ envelope, Respects R (onDispatcher fun d => ((), d.enqueue envelope))
  listRecords : Respects R listRecords
  storeRecord : ∀ record, Respects R (storeRecord record)

namespace Inquiring

theorem attempt (h : Inquiring Q R) (left : Nat) {i : Invocation} (hi : Q i.request) :
    Respects R (attempt left i) := by
  induction left generalizing i with
  | zero => exact respects_pure _
  | succ left ih =>
    unfold Simulation.attempt
    refine (h.send i.request hi).bind fun answer => ?_
    refine (h.waitFor answer.delay).bind fun _ => ?_
    apply respects_get_bind
    · intro s t hst
      rw [h.retry s t hst]
    · intro s
      cases hnext : i.onReply s.config.retry answer.reply with
      | finished result => exact respects_pure result
      | retry delay notice next =>
        refine (respects_forM h.report notice).bind fun _ => ?_
        refine (h.waitFor delay).bind fun _ => ?_
        apply ih
        rw [Invocation.request_of_onReply hnext]
        exact hi

theorem invoke (h : Inquiring Q R) {request : Request} (hrequest : Q request) :
    Respects R (invoke request) := by
  apply respects_get_bind
  · intro s t hst
    unfold attemptLimit
    rw [h.script s t hst]
  · exact fun s => h.attempt s.attemptLimit hrequest

end Inquiring

namespace Asking

theorem inquiring (h : Asking Q R) : Inquiring Q R where
  waitFor := h.toSettling.waitFor
  retry := h.retry
  script := h.script
  report := h.report
  send := h.send

theorem invoke (h : Asking Q R) {request : Request} (hrequest : Q request) :
    Respects R (invoke request) :=
  h.inquiring.invoke hrequest

end Asking

/-- A program respects what its single steps respect. -/
theorem Executing.perform (h : Executing Q R) {p : Program α} (hp : p.Asks Q) :
    Respects R (perform p) := by
  induction p with
  | done result => exact respects_pure result
  | invoke request next ih =>
    exact (h.invoke hp.1).bind fun reply => ih reply (hp.2 reply)
  | resolve peer next ih =>
    apply respects_get_bind
    · intro s t hst
      rw [h.script s t hst]
    · exact fun s => ih (s.script.resolve peer) (hp _)
  | listRecords next ih => exact h.listRecords.bind fun answer => ih answer (hp answer)
  | storeRecord record next ih => exact (h.storeRecord record).bind fun answer => ih answer (hp answer)
  | enqueue envelope next ih => exact (h.enqueue envelope).bind fun _ => ih hp
  | report notice next ih => exact (h.report notice).bind fun _ => ih hp
  | touch next ih => exact absurd hp id

namespace Carrying

theorem asking (h : Carrying Q R) : Asking Q R where
  toSettling := h.toSettling
  retry s t hst := by
    obtain ⟨workers, hconfig⟩ := h.config s t hst
    rw [hconfig]
  script := h.script
  report := h.report
  send := h.send

theorem invoke (h : Carrying Q R) {request : Request} (hrequest : Q request) :
    Respects R (invoke request) :=
  h.asking.invoke hrequest

/-- A program respects what its single steps respect. -/
theorem perform (h : Carrying Q R) {p : Program α} (hp : p.Invokes Q) : Respects R (perform p) := by
  induction p with
  | done result => exact respects_pure result
  | invoke request next ih =>
    exact (h.invoke hp.1).bind fun reply => ih reply (hp.2 reply)
  | resolve peer next ih =>
    apply respects_get_bind
    · intro s t hst
      rw [h.script s t hst]
    · exact fun s => ih (s.script.resolve peer) (hp _)
  | listRecords next ih => exact h.listRecords.bind fun answer => ih answer (hp answer)
  | storeRecord record next ih =>
    exact (h.storeRecord record).bind fun answer => ih answer (hp answer)
  | enqueue envelope next ih => exact (h.enqueue envelope).bind fun _ => ih hp
  | report notice next ih => exact (h.report notice).bind fun _ => ih hp
  | touch next ih => exact h.touch.bind fun _ => ih hp

end Carrying

end Simulation

end UpdatePipeline
