import UpdatePipeline.Proofs.Dispatcher.Delivering
import UpdatePipeline.Proofs.Simulation.Courses
import UpdatePipeline.Proofs.Simulation.Session
set_option autoImplicit false

/-!
# The books of a client

What a client has done since some moment can be read off its programs' traces, and off what
could be seen.  The two agree (`Simulation.Ledger`): the attempts are those of the traces, apart
from the watchdog's, and they got the server's replies in order; the store holds what the
traces leave in it.  As long as no callback takes time the same goes for the envelopes: those
that the traces queued are delivered in order, or wait (`Simulation.Underway`).
-/

namespace UpdatePipeline

open Delivery (calls)
open Dispatcher (Delivering Phase)
open Program (Trace)
open Schema (Request)

/-! ## Replies in order -/

namespace Script

/-- What comes of so many attempts: the replies in order, and then nobody answers any more. -/
def answers (s : Script) (count : Nat) : List Reply :=
  (List.range count).map fun n => (s.replies[n]?.map (·.reply)).getD (.error .dropped)

/-- These attempts have been made, and got what the script had for them at the beginning. -/
structure Answering (begun : Script) (sent : List (Request × Reply)) (s : Script) : Prop where
  inOrder : begun.onlyFitting = false
  left : s = { begun with replies := begun.replies.drop sent.length }
  answered : sent.map (·.2) = begun.answers sent.length

theorem next_of_inOrder {s : Script} (h : s.onlyFitting = false) (request : Request) :
    s.next request = (s.replies.head?.getD silence, { s with replies := s.replies.tail }) := by
  obtain ⟨replies, onlyFitting, resolve, failsWrite, failsListing⟩ := s
  obtain rfl : onlyFitting = false := h
  cases replies with
  | nil => rfl
  | cons r rest => rfl

theorem Answering.next {begun s : Script} {sent : List (Request × Reply)}
    (h : Answering begun sent s) (request : Request) :
    Answering begun (sent ++ [(request, (s.next request).1.reply)]) (s.next request).2 := by
  obtain ⟨inOrder, rfl, answered⟩ := h
  have hnext := next_of_inOrder (s := { begun with replies := begun.replies.drop sent.length })
    inOrder request
  rw [hnext]
  refine ⟨inOrder, ?_, ?_⟩
  · rw [List.length_append]
    dsimp only
    rw [List.tail_drop]
    rfl
  · have hreply : (begun.replies[sent.length]?.getD silence).reply =
        (begun.replies[sent.length]?.map (·.reply)).getD (.error .dropped) := by
      cases begun.replies[sent.length]? with
      | none => rfl
      | some r => rfl
    rw [List.map_append, answered, List.length_append]
    unfold answers
    rw [List.length_singleton, List.range_succ, List.map_append]
    dsimp only
    rw [List.head?_drop, List.map_singleton, List.map_singleton, hreply]

end Script

/-! ## What was seen -/

namespace Occurrence

/-- The attempt that was sent, and the reply to it. -/
def attempt? : Occurrence → Option (Request × Reply)
  | .sent request reply => some (request, reply)
  | _ => none

/-- The callback that was called, and with what. -/
def call? : Occurrence → Option (HandlerId × Argument)
  | .called handler argument => some (handler, argument)
  | _ => none

end Occurrence

/-- The attempts among what was seen. -/
def Observation.sent (seen : List Observation) : List (Request × Reply) :=
  seen.filterMap (·.occurrence.attempt?)

/-- The calls among what was seen. -/
def Observation.called (seen : List Observation) : List (HandlerId × Argument) :=
  seen.filterMap (·.occurrence.call?)

open Observation (sent called)

/-- What can be seen of a dispatcher are its calls, and no attempts. -/
theorem Observation.sent_ofEvents (trace : Dispatcher.Trace) :
    sent (trace.map fun (instant, event) => ⟨instant, .ofEvent event⟩) = [] := by
  unfold sent
  rw [List.filterMap_map, List.filterMap_eq_nil_iff]
  rintro ⟨instant, event⟩ -
  cases event with
  | called handler argument => rfl
  | reported notice => rfl

theorem Observation.called_ofEvents (trace : Dispatcher.Trace) :
    called (trace.map fun (instant, event) => ⟨instant, .ofEvent event⟩) =
      calls (trace.map (·.2)) := by
  unfold called calls
  rw [List.filterMap_map, List.filterMap_map]
  congr 1
  funext ⟨instant, event⟩
  cases event with
  | called handler argument => rfl
  | reported notice => rfl

theorem Dispatcher.map_stamp (t : Instant) (events : List Delivery.Event) :
    (stamp t events).map (·.2) = events := by
  rw [stamp, List.map_map]
  exact List.map_id _

namespace Simulation

/-- All that was seen, in order: what had been seen before, and what has been put down. -/
def seenAfter (earlier : List Observation) (s : Simulation) : List Observation :=
  earlier ++ s.observations.reverse

variable {α : Type} {begun s : Simulation} {phase : Phase} {past : Trace}
  {pending : List (Request × Reply)} {earlier : List Observation}

theorem seenAfter_observe (earlier : List Observation) (o : Occurrence) (s : Simulation) :
    seenAfter earlier (exec (observe o) s).2 = seenAfter earlier s ++ [⟨s.clock.now, o⟩] := by
  show earlier ++ (⟨s.clock.now, o⟩ :: s.observations).reverse = _
  rw [List.reverse_cons, ← List.append_assoc]
  rfl

/-- Where nothing is put down nothing more is seen. -/
theorem seenAfter_of_observations_eq {t : Simulation} (earlier : List Observation)
    (h : t.observations = s.observations) : seenAfter earlier t = seenAfter earlier s ++ [] := by
  rw [seenAfter, h, List.append_nil, ← seenAfter]

/-- What is taken away has been seen. -/
theorem seenAfter_takeObservations (earlier : List Observation) (s : Simulation) :
    seenAfter (seenAfter earlier s) (exec takeObservations s).2 = seenAfter earlier s :=
  List.append_nil _

theorem seenAfter_runDispatcher (earlier : List Observation)
    (f : Dispatcher → Clock → Dispatcher.Trace × Dispatcher × Clock) (s : Simulation) :
    seenAfter earlier (exec (runDispatcher f) s).2 =
      seenAfter earlier s ++
        (f s.dispatcher s.clock).1.map fun (instant, event) => ⟨instant, .ofEvent event⟩ := by
  show earlier ++ (List.reverse _ ++ s.observations).reverse = _
  rw [List.reverse_append, List.reverse_reverse, ← List.append_assoc]
  rfl

theorem called_runDispatcher (earlier : List Observation)
    (f : Dispatcher → Clock → Dispatcher.Trace × Dispatcher × Clock) (s : Simulation) :
    called (seenAfter earlier (exec (runDispatcher f) s).2) =
      called (seenAfter earlier s) ++ calls ((f s.dispatcher s.clock).1.map (·.2)) := by
  rw [seenAfter_runDispatcher, called, List.filterMap_append, ← called, ← called,
    Observation.called_ofEvents]

/-! ## The ledger -/

/-- What a client's programs have done since then, and the attempts of an invocation that is
under way, agree with what was seen and with what is stored. -/
structure Ledger (begun : Simulation) (past : Trace) (pending : List (Request × Reply))
    (earlier : List Observation) (s : Simulation) : Prop where
  config : s.config = begun.config
  records : s.records = past.applyTo begun.records
  answering : begun.script.Answering (sent (seenAfter earlier s)) s.script
  /-- The watchdog asks for the state, and only the watchdog does. -/
  attempts : (sent (seenAfter earlier s)).filter (·.1 ≠ .getState) = past.attempts ++ pending
  probes : ∀ w ∈ s.watchdog, ∀ p ∈ w.probe, p.invocation.request = .getState

namespace Ledger

/-- Whatever is seen apart from attempts changes nothing. -/
theorem of_seen {t : Simulation} (h : Ledger begun past pending earlier s)
    {seen : List Observation} (hseen : seenAfter earlier t = seenAfter earlier s ++ seen)
    (hnothing : sent seen = [])
    (ht : t.config = s.config ∧ t.records = s.records ∧ t.script = s.script ∧
      t.watchdog = s.watchdog) : Ledger begun past pending earlier t := by
  obtain ⟨hconfig, hrecords, hscript, hwatchdog⟩ := ht
  have hsent : sent (seenAfter earlier t) = sent (seenAfter earlier s) := by
    rw [hseen, sent, List.filterMap_append, ← sent, ← sent, hnothing, List.append_nil]
  constructor
  case config => exact hconfig.trans h.config
  case records => exact hrecords.trans h.records
  case answering =>
    rw [hsent, hscript]
    exact h.answering
  case attempts =>
    rw [hsent]
    exact h.attempts
  case probes =>
    rw [hwatchdog]
    exact h.probes

theorem congr {t : Simulation} (h : Ledger begun past pending earlier s)
    (ht : t.config = s.config ∧ t.records = s.records ∧ t.script = s.script ∧
      t.watchdog = s.watchdog) (hobservations : t.observations = s.observations) :
    Ledger begun past pending earlier t :=
  h.of_seen (seenAfter_of_observations_eq earlier hobservations) rfl ht

theorem report (h : Ledger begun past pending earlier s) (notice : Notice) :
    Ledger begun past pending earlier (exec (report notice) s).2 :=
  h.of_seen (seenAfter_observe earlier _ s) rfl ⟨rfl, rfl, rfl, rfl⟩

theorem runDispatcher (h : Ledger begun past pending earlier s)
    (f : Dispatcher → Clock → Dispatcher.Trace × Dispatcher × Clock) :
    Ledger begun past pending earlier (exec (runDispatcher f) s).2 :=
  h.of_seen (seenAfter_runDispatcher earlier f s) (Observation.sent_ofEvents _)
    ⟨rfl, rfl, rfl, rfl⟩

/-- An attempt of the watchdog counts, but is none of the programs'. -/
theorem send (h : Ledger begun past pending earlier s) (request : Request) :
    Ledger begun past
      (pending ++ [(request, (exec (send request) s).1.reply)].filter (·.1 ≠ .getState)) earlier
      (exec (send request) s).2 := by
  have hsent : sent (seenAfter earlier (exec (Simulation.send request) s).2) =
      sent (seenAfter earlier s) ++ [(request, (exec (Simulation.send request) s).1.reply)] := by
    have hseen := seenAfter_observe earlier
      (.sent request (exec (Simulation.send request) s).1.reply)
      { s with script := (s.script.next request).2 }
    exact (congrArg sent hseen).trans List.filterMap_append
  constructor
  case config => exact h.config
  case records => exact h.records
  case answering =>
    rw [hsent]
    exact h.answering.next request
  case attempts => rw [hsent, List.filter_append, h.attempts, List.append_assoc]
  case probes => exact h.probes

theorem send_probe (h : Ledger begun past pending earlier s) :
    Ledger begun past pending earlier (exec (Simulation.send .getState) s).2 := by
  have hsent := h.send .getState
  rwa [List.filter_cons_of_neg (by simp), List.filter_nil, List.append_nil] at hsent

theorem send_own (h : Ledger begun past pending earlier s) {request : Request}
    (hrequest : Program.IsForDifference request) :
    Ledger begun past (pending ++ [(request, (exec (Simulation.send request) s).1.reply)]) earlier
      (exec (Simulation.send request) s).2 := by
  have hown : request ≠ .getState := by
    rintro rfl
    exact hrequest
  have hsent := h.send request
  rwa [List.filter_cons_of_pos (by simpa using hown), List.filter_nil] at hsent

theorem setWatchdog (h : Ledger begun past pending earlier s) (delay : Duration)
    {probe : Option Pending} (hprobe : ∀ p ∈ probe, p.invocation.request = .getState) :
    Ledger begun past pending earlier (exec (setWatchdog delay probe) s).2 := by
  refine { h with probes := ?_ }
  intro w hw
  obtain rfl := Option.mem_some.1 hw
  exact hprobe

/-- The attempts of an invocation that is over are those of its step. -/
theorem invoked {request : Request} {attempts : List Reply}
    (h : Ledger begun past (attempts.map (request, ·)) earlier s) (reply : Reply) :
    Ledger begun (past ++ [.invoked request attempts reply]) [] earlier s := by
  refine { h with records := ?_, attempts := ?_ }
  · rw [h.records, Trace.applyTo_append]
    rfl
  · rw [h.attempts, Trace.attempts_concat, List.append_nil]
    rfl

/-- Steps that neither invoke anything nor store anything change nothing. -/
theorem step (h : Ledger begun past [] earlier s) {e : Program.Event} (hattempts : e.attempts = [])
    (hrecords : ∀ m, e.applyTo m = m) : Ledger begun (past ++ [e]) [] earlier s := by
  refine { h with records := ?_, attempts := ?_ }
  · rw [h.records, Trace.applyTo_append]
    exact (hrecords _).symm
  · rw [h.attempts, Trace.attempts_concat, hattempts, List.append_nil, List.append_nil]

theorem storeRecord (h : Ledger begun past [] earlier s) (record : StateRecord) :
    Ledger begun (past ++ [.stored record (exec (storeRecord record) s).1]) [] earlier
      (exec (storeRecord record) s).2 := by
  have hattempts : ∀ answer, Trace.attempts (past ++ [.stored record answer]) = past.attempts :=
    fun answer => (Trace.attempts_concat past _).trans (List.append_nil _)
  unfold Simulation.storeRecord
  rw [exec_modifyGet]
  dsimp only
  split
  · refine { h with records := ?_, attempts := ?_ }
    · rw [Trace.applyTo_append]
      exact h.records
    · rw [hattempts]
      exact h.attempts
  · refine { h with records := ?_, attempts := ?_ }
    · rw [Trace.applyTo_append]
      exact congrArg (·.set record) h.records
    · rw [hattempts]
      exact h.attempts

theorem takeObservations (h : Ledger begun past pending earlier s) :
    Ledger begun past pending (seenAfter earlier s) (exec takeObservations s).2 := by
  constructor
  case config => exact h.config
  case records => exact h.records
  case answering =>
    rw [seenAfter_takeObservations]
    exact h.answering
  case attempts =>
    rw [seenAfter_takeObservations]
    exact h.attempts
  case probes => exact h.probes

end Ledger

/-! ## The ledger and the queue -/

/-- The ledger is right, and what the programs have queued is delivered or waits, for workers
that are never busy. -/
structure Underway (begun : Simulation) (phase : Phase) (past : Trace)
    (pending : List (Request × Reply)) (earlier : List Observation) (s : Simulation) : Prop
    extends Ledger begun past pending earlier s where
  delivering : ∃ waiting,
    Delivering begun.dispatcher phase past.envelopes waiting (called (seenAfter earlier s))
      s.dispatcher

namespace Underway

/-- The books begin empty. -/
theorem begin (hinOrder : s.script.onlyFitting = false) (hunseen : s.observations = [])
    (hunwatched : s.watchdog = none) (hphase : s.dispatcher.InPhase phase []) :
    Underway s phase [] [] [] s := by
  have hnothing : seenAfter [] s = [] := by rw [seenAfter, hunseen]; rfl
  constructor
  case delivering =>
    rw [hnothing]
    exact ⟨[], Delivering.begin hphase⟩
  constructor
  case config => rfl
  case records => rfl
  case answering =>
    rw [hnothing]
    exact ⟨hinOrder, rfl, rfl⟩
  case attempts =>
    rw [hnothing]
    rfl
  case probes =>
    rw [hunwatched]
    exact fun _ hw => (Option.not_mem_none _ hw).elim

/-- Only the dispatcher and what was seen of calls matter to the queue. -/
theorem of_ledger {t : Simulation} (h : Underway begun phase past pending earlier s)
    {past' : Trace} {pending' : List (Request × Reply)}
    (ht : Ledger begun past' pending' earlier t) (hpast : past'.envelopes = past.envelopes)
    {seen : List Observation} (hseen : seenAfter earlier t = seenAfter earlier s ++ seen)
    (hnothing : called seen = []) (hdispatcher : t.dispatcher = s.dispatcher) :
    Underway begun phase past' pending' earlier t := by
  refine { ht with delivering := ?_ }
  rw [hpast, hdispatcher, hseen, called, List.filterMap_append, ← called, ← called, hnothing,
    List.append_nil]
  exact h.delivering

theorem congr {t : Simulation} (h : Underway begun phase past pending earlier s)
    (ht : t.config = s.config ∧ t.records = s.records ∧ t.script = s.script ∧
      t.watchdog = s.watchdog) (hobservations : t.observations = s.observations)
    (hdispatcher : t.dispatcher = s.dispatcher) : Underway begun phase past pending earlier t :=
  h.of_ledger (h.toLedger.congr ht hobservations) rfl
    (seenAfter_of_observations_eq earlier hobservations) rfl hdispatcher

theorem report (h : Underway begun phase past pending earlier s) (notice : Notice) :
    Underway begun phase past pending earlier (exec (report notice) s).2 :=
  h.of_ledger (h.toLedger.report notice) rfl (seenAfter_observe earlier _ s) rfl rfl

theorem send_probe (h : Underway begun phase past pending earlier s) :
    Underway begun phase past pending earlier (exec (send .getState) s).2 :=
  h.of_ledger h.toLedger.send_probe rfl
    (seenAfter_observe earlier _ { s with script := (s.script.next .getState).2 }) rfl rfl

theorem send_own (h : Underway begun phase past pending earlier s) {request : Request}
    (hrequest : Program.IsForDifference request) :
    Underway begun phase past (pending ++ [(request, (exec (send request) s).1.reply)]) earlier
      (exec (send request) s).2 :=
  h.of_ledger (h.toLedger.send_own hrequest) rfl
    (seenAfter_observe earlier _ { s with script := (s.script.next request).2 }) rfl rfl

theorem setWatchdog (h : Underway begun phase past pending earlier s) (delay : Duration)
    {probe : Option Pending} (hprobe : ∀ p ∈ probe, p.invocation.request = .getState) :
    Underway begun phase past pending earlier (exec (setWatchdog delay probe) s).2 :=
  h.of_ledger (h.toLedger.setWatchdog delay hprobe) rfl (List.append_nil _).symm rfl rfl

theorem restWatchdog (h : Underway begun phase past pending earlier s) :
    Underway begun phase past pending earlier (exec restWatchdog s).2 := by
  have hset : exec Simulation.restWatchdog s =
      exec (Simulation.setWatchdog s.config.watchdogInterval none) s := rfl
  rw [hset]
  exact h.setWatchdog _ fun _ hp => (Option.not_mem_none _ hp).elim

/-- What was seen may be taken away, if it is kept elsewhere. -/
theorem takeObservations (h : Underway begun phase past pending earlier s) :
    Underway begun phase past pending (seenAfter earlier s) (exec takeObservations s).2 := by
  refine { h.toLedger.takeObservations with delivering := ?_ }
  rw [seenAfter_takeObservations]
  exact h.delivering

/-- Callbacks that take no time do not end later. -/
theorem exec_runUntil (h : Underway begun phase past pending earlier s) (limit : Instant) :
    exec (runDispatcher (Dispatcher.runUntil limit)) s = ((), s) := by
  obtain ⟨waiting, hdelivering⟩ := h.delivering
  unfold Simulation.runDispatcher
  rw [exec_modify]
  dsimp only
  rw [Dispatcher.runUntil_of_busy hdelivering.inPhase.busy]
  rfl

theorem probing : Probing (· = .getState) (Same (Underway begun phase past pending earlier)) := by
  refine .of_kept rfl (fun notice _ hs => hs.report notice) ?_
    fun delay _ hprobe _ hs => hs.setWatchdog delay hprobe
  rintro _ rfl _ hs
  exact hs.send_probe

/-- While time passes the books stay as they are. -/
theorem ambient : Ambient (Same (Underway begun phase past pending earlier)) where
  clock _ _ hst := hst.congr Simulation.clock
  watchdog _ _ hst := hst.congr Simulation.watchdog
  moveClock _ := respects_same_iff.2 fun _ hs => hs.congr ⟨rfl, rfl, rfl, rfl⟩ rfl rfl
  runUntil limit := respects_same_iff.2 fun _ hs => by
    rw [hs.exec_runUntil limit]
    exact hs
  wake := by
    rintro s t w ⟨-, hs⟩ hw
    exact probing.wakeWatchdog (hs.probes w hw)

/-- Workers that are there deliver what is queued. -/
theorem drainQueue (h : Underway begun phase past pending earlier s)
    (hidle : 0 < s.dispatcher.idle) :
    Ledger begun past pending earlier (exec drainQueue s).2 ∧
      Delivering begun.dispatcher phase.drained past.envelopes []
        (called (seenAfter earlier (exec drainQueue s).2)) (exec drainQueue s).2.dispatcher := by
  obtain ⟨waiting, hdelivering⟩ := h.delivering
  unfold Simulation.drainQueue
  refine ⟨h.toLedger.runDispatcher _, ?_⟩
  rw [called_runDispatcher, Dispatcher.map_stamp]
  exact hdelivering.drain hidle s.clock

/-- Idle workers have always taken what was queued. -/
theorem settling : Settling (Same (Underway begun .present past pending earlier)) where
  toAmbient := ambient
  drain := respects_same_iff.2 fun s hs => by
    obtain ⟨waiting, hdelivering⟩ := hs.delivering
    have hidle : 0 < s.dispatcher.idle := by
      rw [hdelivering.inPhase.idle]
      exact s.dispatcher.workers_pos
    obtain ⟨hledger, hdelivered⟩ := hs.drainQueue hidle
    exact { hledger with delivering := ⟨_, hdelivered⟩ }

/-! ## Programs -/

/-- The attempts of an invocation are put down one after the other. -/
theorem attempt (h : Underway begun .present past pending earlier s) (left : Nat) {i : Invocation}
    (hi : Program.IsForDifference i.request) :
    Underway begun .present past (pending ++ (attempts left i s).map (i.request, ·)) earlier
      (exec (attempt left i) s).2 := by
  induction left generalizing pending i s with
  | zero =>
    rw [attempts, List.map_nil, List.append_nil]
    exact h
  | succ left ih =>
    have hsent := h.send_own hi
    have harrived :=
      respects_same_iff.1 (settling.waitFor (exec (send i.request) s).1.delay) _ hsent
    rw [attempts_succ, exec_attempt_succ]
    dsimp only
    cases hnext : i.onReply _ _ with
    | finished result => exact harrived
    | retry delay notice next =>
      have hreported := respects_same_iff.1 (respects_forM
        (fun notice => respects_same_iff.2 fun _ hs => hs.report notice) notice) _ harrived
      have hwaited := respects_same_iff.1 (settling.waitFor delay) _ hreported
      have hsame := Invocation.request_of_onReply hnext
      have hlater := ih hwaited (hsame ▸ hi)
      rw [hsame, List.append_assoc] at hlater
      exact hlater

/-- An invocation that is over is one more step. -/
theorem invoked {request : Request} {attempts : List Reply}
    (h : Underway begun phase past (attempts.map (request, ·)) earlier s) (reply : Reply) :
    Underway begun phase (past ++ [.invoked request attempts reply]) [] earlier s :=
  h.of_ledger (h.toLedger.invoked reply) (Trace.envelopes_concat_of_none past rfl)
    (List.append_nil _).symm rfl rfl

theorem invoke (h : Underway begun .present past [] earlier s) {request : Request}
    (hrequest : Program.IsForDifference request) :
    Underway begun .present (past ++ [Simulation.invoked request s]) [] earlier
      (exec (invoke request) s).2 := by
  have hattempts := h.attempt s.attemptLimit (i := { request }) hrequest
  rw [List.nil_append, ← exec_invoke] at hattempts
  rw [Simulation.invoked]
  exact hattempts.invoked _

/-- Steps in which nothing is invoked, queued or stored change nothing. -/
theorem step (h : Underway begun phase past [] earlier s) {e : Program.Event}
    (hattempts : e.attempts = []) (henvelope : e.envelope? = none)
    (hrecords : ∀ m, e.applyTo m = m) : Underway begun phase (past ++ [e]) [] earlier s :=
  h.of_ledger (h.toLedger.step hattempts hrecords)
    (Trace.envelopes_concat_of_none past henvelope) (List.append_nil _).symm rfl rfl

theorem storeRecord (h : Underway begun phase past [] earlier s) (record : StateRecord) :
    Underway begun phase (past ++ [.stored record (exec (storeRecord record) s).1]) [] earlier
      (exec (storeRecord record) s).2 := by
  have hframe : (exec (Simulation.storeRecord record) s).2.observations = s.observations ∧
      (exec (Simulation.storeRecord record) s).2.dispatcher = s.dispatcher := by
    unfold Simulation.storeRecord
    rw [exec_modifyGet]
    dsimp only
    split
    · exact ⟨rfl, rfl⟩
    · exact ⟨rfl, rfl⟩
  exact h.of_ledger (h.toLedger.storeRecord record) (Trace.envelopes_concat_of_none past rfl)
    (seenAfter_of_observations_eq earlier hframe.1) rfl hframe.2

theorem enqueue (h : Underway begun phase past [] earlier s) (hphase : phase.isSteady)
    (envelope : Envelope) :
    Underway begun phase (past ++ [.enqueued envelope]) [] earlier
      (exec (onDispatcher fun d => ((), d.enqueue envelope)) s).2 := by
  obtain ⟨waiting, hdelivering⟩ := h.delivering
  have hledger : Ledger begun (past ++ [.enqueued envelope]) [] earlier
      (exec (onDispatcher fun d => ((), d.enqueue envelope)) s).2 :=
    (h.toLedger.step rfl fun _ => rfl).congr ⟨rfl, rfl, rfl, rfl⟩ rfl
  have hpast : Trace.envelopes (past ++ [.enqueued envelope]) = past.envelopes ++ [envelope] :=
    Trace.envelopes_append _ _
  refine { hledger with delivering := ⟨waiting ++ [envelope], ?_⟩ }
  rw [hpast]
  exact hdelivering.enqueue hphase envelope

/-- A program's trace is put down behind what is past. -/
theorem perform {p : Program α} (hp : p.Invokes Program.IsForDifference)
    (h : Underway begun .present past [] earlier s) :
    Underway begun .present (past ++ trace p s) [] earlier (exec (perform p) s).2 := by
  induction p generalizing past s with
  | done result =>
    rw [trace, List.append_nil]
    exact h
  | invoke request next ih =>
    rw [exec_perform_invoke, trace_invoke, List.append_cons]
    exact ih _ (hp.2 _) (h.invoke hp.1)
  | resolve peer next ih =>
    rw [exec_perform_resolve, trace_resolve, List.append_cons]
    exact ih _ (hp _) (h.step rfl rfl fun _ => rfl)
  | listRecords next ih =>
    rw [trace, List.append_cons]
    exact ih _ (hp _) ((h.step rfl rfl fun _ => rfl).congr ⟨rfl, rfl, rfl, rfl⟩ rfl rfl)
  | storeRecord record next ih =>
    rw [exec_perform_storeRecord, trace_storeRecord, List.append_cons]
    exact ih _ (hp _) (h.storeRecord record)
  | enqueue envelope next ih =>
    rw [trace, List.append_cons]
    exact ih hp (h.enqueue rfl envelope)
  | report notice next ih =>
    rw [trace, List.append_cons]
    exact ih hp ((h.step rfl rfl fun _ => rfl).report notice)
  | touch next ih =>
    rw [trace, List.append_cons]
    exact ih hp ((h.step rfl rfl fun _ => rfl).congr ⟨rfl, rfl, rfl, rfl⟩ rfl rfl)

end Underway

/-! ## From start to stop -/

/-- What catching up does. -/
def catchingUp (s : Simulation) : Trace :=
  trace Program.touched s ++
    if s.config.skipUpdates then []
    else trace (Recovery.recoverGaps s.config) { s with lastUpdate := s.clock.now }

/-- What the program does that a call carries out. -/
def Call.trace (s : Simulation) : Call → Trace
  | .start => catchingUp (exec startWorkers s).2
  | .recover => Simulation.trace (Recovery.recoverGaps s.config) s
  | .push p => Simulation.trace (Intake.take s.config p) s
  | _ => []

/-- A stop that is over: the ledger is right, and all that was queued has been delivered. -/
structure Over (begun : Simulation) (past : Trace) (earlier : List Observation) (s : Simulation) :
    Prop extends Ledger begun past [] earlier s where
  queue : s.dispatcher.queue = []
  delivered : called (seenAfter earlier s) =
    calls (begun.dispatcher.registry.serve begun.dispatcher.caches past.envelopes).1

theorem Over.takeObservations (h : Over begun past earlier s) :
    Over begun past (seenAfter earlier s) (exec takeObservations s).2 := by
  refine { h.toLedger.takeObservations with queue := h.queue, delivered := ?_ }
  rw [seenAfter_takeObservations]
  exact h.delivered

namespace Underway

theorem startWorkers (h : Underway begun .absent past [] earlier s)
    (hkept : s.dispatcher.isDropped = false) :
    Underway begun .present past [] earlier (exec startWorkers s).2 := by
  obtain ⟨waiting, hdelivering⟩ := h.delivering
  have hreported : calls s.dispatcher.start.1 = [] := by
    rw [(hdelivering.inPhase.start hkept).1]
    rfl
  unfold Simulation.startWorkers
  refine { h.toLedger.runDispatcher _ with delivering := ⟨waiting, ?_⟩ }
  rw [called_runDispatcher, Dispatcher.map_stamp, hreported, List.append_nil]
  exact hdelivering.start hkept

theorem catchUp (h : Underway begun .present past [] earlier s) :
    Underway begun .present (past ++ catchingUp s) [] earlier (exec catchUp s).2 := by
  have htouched := h.perform Program.invokes_touched
  rw [exec_catchUp, catchingUp, ← List.append_assoc]
  split
  · rw [List.append_nil]
    exact htouched
  · exact htouched.perform (Recovery.invokes_recoverGaps s.config)

/-- A start carries out what catches up. -/
theorem start (h : Underway begun .absent past [] earlier s)
    (hkept : s.dispatcher.isDropped = false) :
    Underway begun .present (past ++ Call.trace s .start) [] earlier (exec start s).2 := by
  have hcaught := (h.startWorkers hkept).catchUp
  rw [exec_start, exec_watch]
  dsimp only
  split
  · exact hcaught.restWatchdog
  · exact hcaught

/-- A push is taken in by a program. -/
theorem push (h : Underway begun .present past [] earlier s) (p : Schema.Push) :
    Underway begun .present (past ++ Call.trace s (.push p)) [] earlier (exec (push p) s).2 :=
  h.perform (Intake.invokes_take s.config p)

/-- Workers that are about to leave deliver what waits before they do. -/
theorem settle (h : Underway begun .leaving past [] earlier s) :
    Ledger begun past [] earlier (exec settle s).2 ∧
      Delivering begun.dispatcher .left past.envelopes []
        (called (seenAfter earlier (exec settle s).2)) (exec settle s).2.dispatcher := by
  have hpassed := respects_same_iff.1 (ambient.passUntil (s.clock.now + 1)) s h
  obtain ⟨waiting, hdelivering⟩ := hpassed.delivering
  have hidle : 0 < (exec (passUntil (s.clock.now + 1)) s).2.dispatcher.idle := by
    rw [hdelivering.inPhase.idle]
    exact Dispatcher.workers_pos _
  rw [exec_settle]
  exact hpassed.drainQueue hidle

/-- The stop is completed once the workers have left. -/
theorem finishStop (hledger : Ledger begun past [] earlier s)
    (h : Delivering begun.dispatcher .left past.envelopes [] (called (seenAfter earlier s))
      s.dispatcher) :
    Over begun past earlier (exec (runDispatcher fun d clock =>
      (Dispatcher.stamp clock.now d.finishStop.1, d.finishStop.2, clock)) s).2 where
  toLedger := hledger.runDispatcher _
  queue := h.inPhase.queue
  delivered := by
    rw [called_runDispatcher, Dispatcher.map_stamp, h.called_eq]
    exact List.append_nil _

/-- Before a stop is over everything that was queued is delivered. -/
theorem stop (h : Underway begun .present past [] earlier s) :
    Over begun past earlier (exec stop s).2 := by
  obtain ⟨waiting, hdelivering⟩ := h.delivering
  let leaving : Simulation := { s with watchdog := none, dispatcher := s.dispatcher.beginStop }
  have hleaving : Underway begun .leaving past [] earlier leaving :=
    { h with
      probes := fun _ hw => (Option.not_mem_none _ hw).elim
      delivering := ⟨waiting, hdelivering.beginStop⟩ }
  obtain ⟨hledger, hdelivered⟩ := hleaving.settle
  have hawaited : exec (awaitWorkers s.dispatcher.beginStop.load) leaving =
      ((), (exec Simulation.settle leaving).2) :=
    exec_awaitWorkers_of_rest hdelivering.beginStop.inPhase.load_pos
      (Dispatcher.nextTimer?_of_busy hdelivered.inPhase.busy)
  have hrunning : s.dispatcher.isRunning := hdelivering.inPhase.isRunning rfl
  rw [exec_stop, exec_stopWorkers_of_isRunning (s := { s with watchdog := none }) hrunning]
  dsimp only
  rw [hawaited]
  exact finishStop hledger hdelivered

end Underway

end Simulation

end UpdatePipeline
