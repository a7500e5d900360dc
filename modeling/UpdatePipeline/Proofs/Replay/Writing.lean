import UpdatePipeline.Proofs.Simulation.Watched
import UpdatePipeline.Replay.Run
set_option autoImplicit false

/-!
# What a replay writes

The parts of a replay add to its report and leave what is there (`Replay.Writes`).  A replay
watches a client from its start over the pushes to its stop, and unless the start fails its
report shows what was seen of each call, and then what is stored (`Replay.play_of_started`).
-/

namespace UpdatePipeline.Replay

open Simulation (Watched exec watched watchAll)

/-! ## Adding to the report -/

/-- This part of a replay comes to a result and adds these lines. -/
def Writes {α : Type} (m : ReplayM α) (s : Simulation) (result : α) (lines : List Line)
    (after : Simulation) : Prop :=
  ∀ entries, ∃ more : List Entry,
    exec (m.run entries) s = ((result, entries ++ more), after) ∧ more.map (·.line) = lines

variable {α β : Type} {s after : Simulation} {lines : List Line}

theorem writes_pure (a : α) (s : Simulation) : Writes (pure a) s a [] s := by
  intro entries
  refine ⟨[], ?_, rfl⟩
  rw [List.append_nil]
  rfl

theorem Writes.bind {m : ReplayM α} {f : α → ReplayM β} {a : α} {b : β} {later : List Line}
    {rest : Simulation} (hm : Writes m s a lines after) (hf : Writes (f a) after b later rest) :
    Writes (m >>= f) s b (lines ++ later) rest := by
  intro entries
  obtain ⟨more, hfirst, rfl⟩ := hm entries
  obtain ⟨more', hsecond, rfl⟩ := hf (entries ++ more)
  refine ⟨more ++ more', ?_, List.map_append⟩
  rw [← List.append_assoc, ← hsecond]
  show exec ((f (exec (m.run entries) s).1.1).run (exec (m.run entries) s).1.2)
    (exec (m.run entries) s).2 = _
  rw [hfirst]

theorem writes_write (line : Line) (s : Simulation) : Writes (write line) s () [line] s :=
  fun _ => ⟨[⟨s.clock.now, line⟩], rfl, rfl⟩

theorem Writes.after_write {f : Unit → ReplayM β} {b : β} {rest : Simulation} (line : Line)
    (hf : Writes (f ()) s b lines rest) : Writes (write line >>= f) s b (line :: lines) rest :=
  (writes_write line s).bind hf

/-- What the client does unwatched is not written down. -/
theorem Writes.after_lift {m : SimulationM α} {f : α → ReplayM β} {b : β} {rest : Simulation}
    (hf : Writes (f (exec m s).1) (exec m s).2 b lines rest) :
    Writes ((m : ReplayM α) >>= f) s b lines rest := by
  have hm : Writes (m : ReplayM α) s (exec m s).1 [] (exec m s).2 := by
    intro entries
    refine ⟨[], ?_, rfl⟩
    rw [List.append_nil]
    rfl
  exact hm.bind hf

theorem writes_watch (m : SimulationM α) (s : Simulation) :
    Writes (watch m) s (exec m s).1
      ((exec m s).2.observations.reverse.filterMap fun o => lineOf? o.occurrence)
      (exec Simulation.takeObservations (exec m s).2).2 := by
  intro entries
  refine ⟨_, rfl, ?_⟩
  rw [List.map_filterMap]
  refine List.filterMap_congr fun o _ => ?_
  cases lineOf? o.occurrence with
  | none => rfl
  | some line => rfl

/-! ## The parts of a replay -/

/-- The line about a call that failed, if it is a push. -/
def failureLine? : Simulation.Call → Simulation.Answer → Option Line
  | .push _, .outcome (.error e) => some (.failure ("  ✗ push failed: " ++ e.message))
  | _, _ => none

/-- The lines about a call: what was seen of it, and that it failed. -/
def linesOf (w : Watched) : List Line :=
  (w.seen.filterMap fun o => lineOf? o.occurrence) ++ (failureLine? w.call w.answer).toList

/-- Hands over one push. -/
def replayPush (p : Schema.Push) : ReplayM Unit := do
  match ← watch (Simulation.push p) with
  | .ok () => pure ()
  | .error e => write (.failure ("  ✗ push failed: " ++ e.message))

theorem replayPushes_cons (p : Schema.Push) (rest : List Schema.Push) :
    replayPushes (p :: rest) = (do replayPush p; replayPushes rest) := by
  rw [replayPushes, replayPush, LawfulMonad.bind_assoc]
  refine bind_congr fun result => ?_
  cases result with
  | ok u => rfl
  | error e => rfl

theorem writes_replayPush (p : Schema.Push) (s : Simulation) :
    Writes (replayPush p) s () (linesOf (watched (.push p) s).1) (watched (.push p) s).2 := by
  refine (writes_watch (Simulation.push p) s).bind ?_
  show Writes _ _ () (failureLine? (.push p) (.outcome (exec (Simulation.push p) s).1)).toList _
  cases (exec (Simulation.push p) s).1 with
  | ok u => exact writes_pure () _
  | error e => exact writes_write _ _

/-- Pushes are handed over one after the other, whatever became of those before. -/
theorem writes_replayPushes (pushes : List Schema.Push) (s : Simulation) :
    Writes (replayPushes pushes) s () ((watchAll (pushes.map .push) s).1.flatMap linesOf)
      (watchAll (pushes.map .push) s).2 := by
  induction pushes generalizing s with
  | nil => exact writes_pure () s
  | cons p rest ih =>
    rw [replayPushes_cons]
    exact (writes_replayPush p s).bind (ih (watched (.push p) s).2)

theorem writes_start (s : Simulation) :
    Writes (watch Simulation.start) s (exec Simulation.start s).1 (linesOf (watched .start s).1)
      (watched .start s).2 := by
  have hlines : linesOf (watched .start s).1 =
      (exec Simulation.start s).2.observations.reverse.filterMap fun o => lineOf? o.occurrence :=
    List.append_nil _
  rw [hlines]
  exact writes_watch Simulation.start s

theorem writes_stop (s : Simulation) :
    Writes (watch Simulation.stop) s () (linesOf (watched .stop s).1) (watched .stop s).2 := by
  have hlines : linesOf (watched .stop s).1 =
      (exec Simulation.stop s).2.observations.reverse.filterMap fun o => lineOf? o.occurrence :=
    List.append_nil _
  rw [hlines]
  exact writes_watch Simulation.stop s

/-- The table is written line by line. -/
theorem writes_forM {γ : Type} (f : γ → Line) (items : List γ) (s : Simulation) :
    Writes (items.forM fun item => write (f item)) s () (items.map f) s := by
  induction items with
  | nil => exact writes_pure () s
  | cons item rest ih => exact (writes_write (f item) s).bind ih

/-! ## The whole replay -/

namespace Staging

variable (t : Staging)

/-- The client with its handlers, before its start. -/
def client : Simulation := (exec (registerAll handlers) t.simulation).2

/-- What the start comes to. -/
def started : Watched × Simulation := watched .start t.client

/-- What the pushes come to. -/
def pushed : List Watched × Simulation := watchAll (t.pushes.map .push) t.started.2

/-- What the stop comes to. -/
def stopped : Watched × Simulation := watched .stop t.pushed.2

/-- The last lines of a report: what is stored. -/
def table : List Line := t.stopped.2.records.values.map fun r => .output (recordText r)

/-- The report of a replay whose start does not fail. -/
def report (path : String) : List Line :=
  .output (headText path t.toTranscript) :: .output "🔁 Recovering gaps…" :: (linesOf t.started.1 ++
    .output "📨 Replaying pushes…" :: (t.pushed.1.flatMap linesOf ++ (linesOf t.stopped.1 ++
      .output "" :: .tableHead :: t.table)))

end Staging

variable (t : Staging)

theorem writes_replayRest :
    Writes (replayRest t.toTranscript) t.started.2 ()
      (.output "📨 Replaying pushes…" :: (t.pushed.1.flatMap linesOf ++ (linesOf t.stopped.1 ++
        .output "" :: .tableHead :: t.table))) t.stopped.2 := by
  refine .after_write _ ?_
  refine (writes_replayPushes t.pushes t.started.2).bind ?_
  refine (writes_stop t.pushed.2).bind ?_
  refine .after_write _ (.after_write _ (.after_lift ?_))
  exact writes_forM (fun r => .output (recordText r)) t.stopped.2.records.values t.stopped.2

theorem writes_replay (path : String) (hstart : (exec Simulation.start t.client).1 = .ok ()) :
    Writes (replay path t.toTranscript) t.simulation none (t.report path) t.stopped.2 := by
  have hstarted : Writes (watch Simulation.start) t.client (.ok ()) (linesOf t.started.1)
      t.started.2 := by
    rw [← hstart]
    exact writes_start t.client
  have hended := (writes_replayRest t).bind (f := fun _ => pure (none : Option InvocationError))
    (writes_pure none t.stopped.2)
  rw [List.append_nil] at hended
  rw [Staging.report, replay]
  refine .after_write _ (.after_lift (.after_write _ ?_))
  exact hstarted.bind hended

/-- A replay whose start does not fail stops the client, and ends with its whole report and
without an error. -/
theorem play_of_started (path : String) (hstart : (exec Simulation.start t.client).1 = .ok ()) :
    ∃ entries, exec ((replay path t.toTranscript).run []) t.simulation = ((none, entries), t.stopped.2) ∧
      t.play path = ⟨entries, 0⟩ ∧ entries.map (·.line) = t.report path := by
  obtain ⟨entries, hreplay, hlines⟩ := writes_replay t path hstart []
  have hrun : ((replay path t.toTranscript).run []).run t.simulation = ((none, entries), t.stopped.2) := hreplay
  refine ⟨entries, hreplay, ?_, hlines⟩
  rw [Staging.play, hrun]

end UpdatePipeline.Replay
