import UpdatePipeline.Proofs.Recovery.Gaps
import UpdatePipeline.Proofs.Simulation.Keeping
import UpdatePipeline.Proofs.Simulation.Underway
set_option autoImplicit false

/-!
# Calls under observation

After each call what was seen of it can be taken away (`Simulation.watched`).  However many
pushes are handed over so, the books stay right (`Simulation.Underway.watchAll`), and if the
policy gives up where nobody answers each of them is taken in by a run of its program
(`Simulation.runs_watchAll`).
-/

namespace UpdatePipeline

open Program (Trace Runs)
open Schema (Push)

namespace Simulation

/-! ## Watched calls -/

/-- What a call did and returned, and what was seen of it. -/
structure Watched where
  call : Call
  trace : Trace
  answer : Answer
  seen : List Observation

/-- Carries a call out and takes away what could be seen. -/
def watched (c : Call) (s : Simulation) : Watched × Simulation :=
  let (answer, after) := exec c.carryOut s
  let (seen, rest) := exec takeObservations after
  ({ call := c, trace := c.trace s, answer, seen }, rest)

/-- Carries calls out one after the other, each of them watched. -/
def watchAll : List Call → Simulation → List Watched × Simulation
  | [], s => ([], s)
  | c :: rest, s =>
    let (first, s) := watched c s
    let (later, s) := watchAll rest s
    (first :: later, s)

variable {begun s : Simulation} {past : Trace} {earlier : List Observation}

theorem answer_watched_start (s : Simulation) :
    (watched .start s).1.answer = .outcome (exec start s).1 := rfl

/-! ## The books -/

theorem Underway.watched_start {past : Trace} (h : Underway begun .absent past [] earlier s)
    (hkept : s.dispatcher.isDropped = false) :
    Underway begun .present (past ++ (watched .start s).1.trace) []
      (earlier ++ (watched .start s).1.seen) (watched .start s).2 :=
  (h.start hkept).takeObservations

theorem Underway.watched_push (h : Underway begun .present past [] earlier s) (p : Push) :
    Underway begun .present (past ++ (watched (.push p) s).1.trace) []
      (earlier ++ (watched (.push p) s).1.seen) (watched (.push p) s).2 :=
  (h.push p).takeObservations

theorem Underway.watchAll (h : Underway begun .present past [] earlier s) (pushes : List Push) :
    Underway begun .present
      (past ++ (watchAll (pushes.map .push) s).1.flatMap (·.trace)) []
      (earlier ++ (watchAll (pushes.map .push) s).1.flatMap (·.seen))
      (watchAll (pushes.map .push) s).2 := by
  induction pushes generalizing past earlier s with
  | nil =>
    show Underway begun .present (past ++ []) [] (earlier ++ []) s
    rw [List.append_nil, List.append_nil]
    exact h
  | cons p rest ih =>
    have hlater := ih (h.watched_push p)
    rw [List.append_assoc, List.append_assoc] at hlater
    exact hlater

theorem Underway.watched_stop (h : Underway begun .present past [] earlier s) :
    Over begun past (earlier ++ (watched .stop s).1.seen) (watched .stop s).2 :=
  h.stop.takeObservations

/-! ## Runs -/

/-- Each push is taken in by a run of its program, and the result is the answer. -/
theorem Underway.runs_watchAll (h : Underway begun .present past [] earlier s)
    (hsilence : begun.config.retry.EndsInSilence) (pushes : List Push) :
    List.Forall₂ (fun p w => w.call = .push p ∧ ∃ result, w.answer = .outcome result ∧
        Runs begun.config.retry (Intake.take begun.config p) w.trace result)
      pushes (Simulation.watchAll (pushes.map .push) s).1 := by
  induction pushes generalizing past earlier s with
  | nil => exact .nil
  | cons p rest ih =>
    have hrun := runs_trace hsilence (Intake.take s.config p) (congrArg Config.retry h.config)
    have hfirst : (watched (.push p) s).1.call = .push p ∧
        ∃ result, (watched (.push p) s).1.answer = .outcome result ∧ Runs begun.config.retry
          (Intake.take begun.config p) (watched (.push p) s).1.trace result :=
      ⟨rfl, _, rfl, h.config ▸ hrun⟩
    exact .cons hfirst (ih (h.watched_push p))

/-- If the store does not fail a start catches up with every scope, and does not fail either. -/
theorem recovered_start (hsilence : s.config.retry.EndsInSilence)
    (hskips : s.config.skipUpdates = false) (hlistings : ∀ n, s.script.failsListing n = false)
    (hwrites : ∀ n, s.script.failsWrite n = false) (hkeyed : s.records.IsKeyed) :
    ∃ recovery visits stats, (watched .start s).1.trace = .touched :: recovery ∧
      Recovery.GapRecovery s.config s.records visits recovery (.ok stats) ∧
      visits.map (·.record) = s.records.values ∧
      (watched .start s).1.answer = .outcome (.ok ()) := by
  let ready : Simulation :=
    { (exec startWorkers s).2 with lastUpdate := (exec startWorkers s).2.clock.now }
  let recovery := Simulation.trace (Recovery.recoverGaps s.config) ready
  have hlisted : recovery.head? = some (.listed (.ok s.records.values)) := by
    have hlisting : (exec listRecords ready).1 = .ok s.records.values := by
      show (if s.script.failsListing (s.listings + 1) then _ else _) = _
      rw [hlistings]
      rfl
    rw [← hlisting]
    rfl
  have hrun : Runs s.config.retry (Recovery.recoverGaps s.config) recovery
      (exec (perform (Recovery.recoverGaps s.config)) ready).1 := runs_trace hsilence _ rfl
  obtain ⟨visits, hgaps⟩ := Recovery.gapRecovery_of_runs hkeyed hrun hlisted
  have hok := isOk_of_mem_writes (s := ready) hwrites (Recovery.recoverGaps s.config)
  obtain ⟨hall, stats, hresult⟩ := hgaps.whole hok
  have hkeeps : ¬ (exec startWorkers s).2.config.skipUpdates = true := by
    show ¬ s.config.skipUpdates = true
    rw [hskips]
    exact Bool.false_ne_true
  have hcaughtUp : exec catchUp (exec startWorkers s).2 = exec ((·.map fun _ => ()) <$>
      perform (Recovery.recoverGaps s.config)) ready := by
    rw [exec_catchUp, if_neg hkeeps]
    rfl
  refine ⟨recovery, visits, stats, ?_, hresult ▸ hgaps, hall, ?_⟩
  · show catchingUp (exec startWorkers s).2 = _
    rw [catchingUp, if_neg hkeeps]
    rfl
  · have hanswer : (exec start s).1 = .ok () := by
      rw [exec_start, exec_watch, hcaughtUp, exec_map, hresult]
      rfl
    exact congrArg Answer.outcome hanswer

end Simulation

end UpdatePipeline
