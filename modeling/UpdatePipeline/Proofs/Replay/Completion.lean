import UpdatePipeline.Proofs.Replay.Writing
set_option autoImplicit false

/-!
# Replays come to their end

Whatever a transcript holds, its replay comes to a normal end (`Replay.play_completes`).  The
store never fails, so neither does the start; the policy gives up where nobody answers, so each
invocation ends; and no handler takes time, so the stop leaves nothing in the queue.  What the
report says then agrees with what the client's programs did (`Simulation.Over`).
-/

namespace UpdatePipeline.Replay

open Delivery (calls)
open Observation (sent called)
open Program (Trace Runs)
open Recovery (GapRecovery)
open Simulation (Watched exec watched watchAll)

/-! ## The handlers -/

/-- The dispatcher with these handlers. -/
def register (handlers : List (Handler × Int32)) (d : Dispatcher) : Dispatcher :=
  handlers.foldl (fun d h => (d.addHandler h.1 h.2).2) d

theorem exec_registerAll (handlers : List (Handler × Int32)) (s : Simulation) :
    exec (registerAll handlers) s =
      ((), { s with dispatcher := register handlers s.dispatcher }) := by
  induction handlers generalizing s with
  | nil => rfl
  | cons h rest ih => exact ih { s with dispatcher := (s.dispatcher.addHandler h.1 h.2).2 }

theorem handler_mem_addHandler {d : Dispatcher} {added handler : Handler} {group : Int32} :
    handler ∈ (d.addHandler added group).2.registry.toList.map (·.handler) ↔
      handler = added ∨ handler ∈ d.registry.toList.map (·.handler) := by
  simp only [Dispatcher.addHandler, List.mem_map, Registry.mem_toList_add]
  constructor
  · rintro ⟨x, rfl | hold, rfl⟩
    · exact .inl rfl
    · exact .inr ⟨x, hold, rfl⟩
  · rintro (rfl | ⟨x, hold, rfl⟩)
    · exact ⟨_, .inl rfl, rfl⟩
    · exact ⟨x, .inr hold, rfl⟩

/-- What is registered is what was before, and these handlers. -/
theorem handler_mem_register {handlers : List (Handler × Int32)} {d : Dispatcher}
    {handler : Handler} :
    handler ∈ (register handlers d).registry.toList.map (·.handler) ↔
      handler ∈ d.registry.toList.map (·.handler) ∨ handler ∈ handlers.map (·.1) := by
  induction handlers generalizing d with
  | nil => simp [register]
  | cons h rest ih =>
    have hlater := ih (d := (d.addHandler h.1 h.2).2)
    rw [handler_mem_addHandler] at hlater
    rw [List.map_cons, List.mem_cons]
    exact hlater.trans (or_assoc.trans or_left_comm)

theorem inPhase_register {handlers : List (Handler × Int32)} {d : Dispatcher}
    {phase : Dispatcher.Phase} {waiting : List Envelope} (h : d.InPhase phase waiting)
    (hinstant : ∀ x ∈ handlers, x.1.IsInstant) : (register handlers d).InPhase phase waiting := by
  induction handlers generalizing d with
  | nil => exact h
  | cons x rest ih =>
    obtain ⟨hx, hrest⟩ := List.forall_mem_cons.1 hinstant
    exact ih (h.addHandler hx x.2) hrest

/-- The callbacks of a replay take no time, and end the delivery. -/
theorem handlers_plain : ∀ x ∈ handlers, x.1.IsInstant ∧ x.1.IsFinal := by
  have hclaimant : ∀ kind filter,
      (claimant kind filter).IsInstant ∧ (claimant kind filter).IsFinal :=
    fun _ _ => ⟨fun _ => rfl, fun _ => rfl⟩
  have hraw : (Handler.raw fun _ => {}).IsInstant ∧ (Handler.raw fun _ => {}).IsFinal :=
    ⟨fun _ => rfl, fun _ => rfl⟩
  simp [handlers, hclaimant, hraw]

/-! ## The books of a replay -/

namespace Staging

variable (t : Staging)

/-- All calls, in order. -/
def history : List Watched := t.started.1 :: (t.pushed.1 ++ [t.stopped.1])

/-- Everything that the client's programs do. -/
def trace : Trace := t.history.flatMap (·.trace)

/-- Everything that can be seen before the table is written. -/
def seen : List Observation := t.history.flatMap (·.seen)

theorem client_eq :
    t.client = { t.simulation with dispatcher := register handlers t.simulation.dispatcher } := by
  rw [client, exec_registerAll]

theorem registered (handler : Handler) :
    handler ∈ t.client.dispatcher.registry.toList.map (·.handler) ↔
      handler ∈ handlers.map (·.1) := by
  rw [client_eq]
  exact handler_mem_register.trans (or_iff_right List.not_mem_nil)

/-- Every callback of the client ends the delivery. -/
theorem isFinal : ∀ x ∈ t.client.dispatcher.registry.toList, x.handler.IsFinal := by
  intro x hx
  obtain ⟨h, hh, hsame⟩ := List.mem_map.1 ((t.registered x.handler).1 (List.mem_map_of_mem hx))
  rw [← hsame]
  exact (handlers_plain h hh).2

/-- One of its handlers takes every envelope. -/
theorem isRaw : ∃ x ∈ t.client.dispatcher.registry.toList, x.handler.isRaw := by
  have hlast : Handler.raw (fun _ => {}) ∈ handlers.map (·.1) := by simp [handlers]
  obtain ⟨x, hx, hsame⟩ := List.mem_map.1 ((t.registered _).2 hlast)
  exact ⟨x, hx, by rw [hsame]; rfl⟩

theorem begin_client : Simulation.Underway t.client .absent [] [] [] t.client := by
  have hphase : (register handlers t.simulation.dispatcher).InPhase .absent [] :=
    inPhase_register (Dispatcher.inPhase_ofWorkers _ _) fun x hx => (handlers_plain x hx).1
  rw [client_eq]
  exact .begin rfl rfl rfl hphase

theorem isKept : t.client.dispatcher.isDropped = false := by
  rw [client_eq]
  rfl

theorem underway_started :
    Simulation.Underway t.client .present t.started.1.trace [] t.started.1.seen t.started.2 := by
  have hstarted := t.begin_client.watched_start t.isKept
  rw [List.nil_append, List.nil_append] at hstarted
  rw [started]
  exact hstarted

/-- When all calls are over the books are right, and everything queued is delivered. -/
theorem books : Simulation.Over t.client t.trace t.seen t.stopped.2 := by
  have hstopped := (t.underway_started.watchAll t.pushes).watched_stop
  have htrace : t.trace = t.started.1.trace ++ t.pushed.1.flatMap (·.trace) := by
    have hstop : t.stopped.1.trace = [] := rfl
    simp [trace, history, hstop]
  have hseen : t.seen =
      t.started.1.seen ++ t.pushed.1.flatMap (·.seen) ++ t.stopped.1.seen := by
    simp [seen, history]
  rw [htrace, hseen]
  exact hstopped

theorem seenAfter_stopped : Simulation.seenAfter t.seen t.stopped.2 = t.seen := List.append_nil _

/-- The start catches up with the transcript's scopes, and does not fail. -/
theorem recovered_start : ∃ recovery visits stats, t.started.1.trace = .touched :: recovery ∧
    GapRecovery (.forProcessors t.processors) (Records.ofList t.states) visits recovery (.ok stats) ∧
    visits.map (·.record) = (Records.ofList t.states).values ∧
    t.started.1.answer = .outcome (.ok ()) := by
  have hstart := Simulation.recovered_start (s := t.client)
  rw [client_eq] at hstart
  rw [started, client_eq]
  exact hstart (RetryPolicy.endsInSilence_autoSleep {}) rfl (fun _ => rfl) (fun _ => rfl)
    (Records.isKeyed_ofList t.states)

theorem start_client : (exec Simulation.start t.client).1 = .ok () := by
  obtain ⟨-, -, -, -, -, -, hanswer⟩ := t.recovered_start
  rw [started, Simulation.answer_watched_start] at hanswer
  exact Simulation.Answer.outcome.inj hanswer

theorem records_stopped : t.stopped.2.records = t.trace.applyTo (Records.ofList t.states) := by
  have hclient : t.client.records = Records.ofList t.states := by
    rw [client_eq]
    rfl
  rw [← hclient]
  exact t.books.records

/-- The attempts get the transcript's replies in order. -/
theorem answered : (sent t.seen).map (·.2) = (List.range (sent t.seen).length).map fun n =>
    (t.replies[n]?.map (·.result)).getD (.error .dropped) := by
  have hanswered := t.books.answering.answered
  have hclient : t.client.script = t.script := by
    rw [client_eq]
    rfl
  rw [seenAfter_stopped, hclient] at hanswered
  rw [hanswered, Script.answers]
  refine List.map_congr_left fun n _ => ?_
  show (Option.map _ (List.map _ t.replies)[n]?).getD _ = _
  rw [List.getElem?_map, Option.map_map]
  rfl

end Staging

/-! ## Normal ends -/

/-- A replay that comes to a normal end. -/
structure Completes (path : String) (t : Staging) : Prop where
  /-- The command replays whatever text spells the transcript. -/
  command : ∀ text, Transcript.ofText? text = some t.toTranscript →
    run (.file path text) t.processors = t.play path
  /-- It does not fail, and its report shows what was seen of all calls and then what is stored. -/
  report : ∃ entries, exec ((replay path t.toTranscript).run []) t.simulation =
      ((none, entries), t.stopped.2) ∧ t.play path = ⟨entries, 0⟩ ∧ entries.map (·.line) = t.report path
  /-- The start recovers the stored scopes, each once and in ascending order, and returns. -/
  recovered : ∃ recovery visits stats, t.started.1.trace = .touched :: recovery ∧
    GapRecovery (.forProcessors t.processors) (Records.ofList t.states) visits recovery (.ok stats) ∧
    visits.map (·.record) = (Records.ofList t.states).values ∧
    (∀ r ∈ t.states, ∃ v ∈ visits, v.record.scope = r.scope) ∧
    t.started.1.answer = .outcome (.ok ())
  /-- The pushes are taken in one after the other, also those behind one that failed. -/
  handled : List.Forall₂ (fun push w => w.call = .push push ∧ ∃ result, w.answer = .outcome result ∧
    Runs (RetryPolicy.autoSleep {}) (Intake.take (.forProcessors t.processors) push) w.trace result) t.pushes t.pushed.1
  /-- Each attempt gets the next reply; behind the last one all fail as dropped. -/
  answered : (sent t.seen).map (·.2) = (List.range (sent t.seen).length).map fun n =>
    (t.replies[n]?.map (·.result)).getD (.error .dropped)
  /-- The attempts are those of recovery and pushes, apart from what the watchdog asks. -/
  attempts : (sent t.seen).filter (·.1 ≠ .getState) = t.trace.attempts
  /-- What recovery and pushes have queued is delivered, in order and one call for each. -/
  delivered : List.Forall₂ (fun envelope call => call.2.IsOf envelope) t.trace.envelopes
    (called t.seen)
  served : called t.seen = calls (t.client.dispatcher.registry.serve t.client.dispatcher.caches
    t.trace.envelopes).1
  queue : t.stopped.2.dispatcher.queue = []
  /-- What is stored at the end is what recovery and pushes left. -/
  stored : t.stopped.2.records = t.trace.applyTo (Records.ofList t.states)
  /-- The table lists scopes in ascending order, each once, and those of the transcript among
  them. -/
  ascending : (t.stopped.2.records.values.map (·.scope)).Pairwise (· < ·)
  complete : ∀ r ∈ t.states, r.scope ∈ t.stopped.2.records.values.map (·.scope)

end UpdatePipeline.Replay
