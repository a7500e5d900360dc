import UpdatePipeline.Proofs.Program.Unwritten
import UpdatePipeline.Proofs.Simulation.Session
import UpdatePipeline.Proofs.Simulation.Traces
set_option autoImplicit false

/-!
# Positions kept and not kept

What a client has to do with its store (`Simulation.Keeping`) nothing changes but the steps of
its programs that list it or write to it (`Simulation.keeping_perform`).  And nothing else
depends on it: two simulations that are the same but for that (`Simulation.Beside`) stay so
under everything that goes on while time passes, and return the same.
-/

namespace UpdatePipeline

open Schema (Request Push)

theorem Script.failsWrite_next (s : Script) (request : Request) :
    (s.next request).2.failsWrite = s.failsWrite := by
  unfold next
  dsimp only
  split
  · rfl
  · rfl

/-! ## A client and its store -/

namespace Simulation

/-- What a client has to do with its store. -/
structure Keeping where
  skipUpdates : Bool
  records : Records
  writes : Nat
  listings : Nat

/-- What this client has to do with its store. -/
def keeping (s : Simulation) : Keeping where
  skipUpdates := s.config.skipUpdates
  records := s.records
  writes := s.writes
  listings := s.listings

/-- The same simulation, but for what the client has to do with its store. -/
def withKeeping (s : Simulation) (k : Keeping) : Simulation :=
  { s with
    config := { s.config with skipUpdates := k.skipUpdates }
    records := k.records
    writes := k.writes
    listings := k.listings }

@[simp] theorem keeping_withKeeping (s : Simulation) (k : Keeping) :
    (s.withKeeping k).keeping = k := rfl

@[simp] theorem withKeeping_keeping (s : Simulation) : s.withKeeping s.keeping = s := rfl

/-- The first is the second but for what it has to do with its store, which is this; and of the
writes the same are to fail. -/
structure Beside (k : Keeping) (fails : Nat → Bool) (s t : Simulation) : Prop where
  same : s = t.withKeeping k
  fails : t.script.failsWrite = fails

variable {α : Type} {k : Keeping} {fails : Nat → Bool} {s t : Simulation}

theorem Beside.refl (s : Simulation) : Beside s.keeping s.script.failsWrite s s := ⟨rfl, rfl⟩

/-! ## What goes on beside the store -/

/-- A step that neither reads nor changes what the client has to do with its store. -/
theorem respects_beside {m : SimulationM α}
    (hsame : ∀ s k, exec m (s.withKeeping k) = ((exec m s).1, (exec m s).2.withKeeping k))
    (hfails : ∀ s, (exec m s).2.script.failsWrite = s.script.failsWrite) :
    Respects (Beside k fails) m := by
  rintro _ t ⟨rfl, hbefore⟩
  rw [hsame]
  exact ⟨rfl, rfl, (hfails t).trans hbefore⟩

theorem probing_beside : Probing (fun _ => True) (Beside k fails) where
  getState := trivial
  clock := by rintro _ t ⟨rfl, -⟩; rfl
  lastUpdate := by rintro _ t ⟨rfl, -⟩; rfl
  interval := by rintro _ t ⟨rfl, -⟩; rfl
  retry := by rintro _ t ⟨rfl, -⟩; rfl
  script := by rintro _ t ⟨rfl, -⟩; rfl
  report _ := respects_beside (fun _ _ => rfl) fun _ => rfl
  send request _ := respects_beside (fun _ _ => rfl) fun s => s.script.failsWrite_next request
  set _ _ _ := respects_beside (fun _ _ => rfl) fun _ => rfl

theorem asking_beside : Asking (fun _ => True) (Beside k fails) where
  clock := probing_beside.clock
  watchdog := by rintro _ t ⟨rfl, -⟩; rfl
  moveClock _ := respects_beside (fun _ _ => rfl) fun _ => rfl
  runUntil _ := respects_beside (fun _ _ => rfl) fun _ => rfl
  wake _ _ _ _ _ := probing_beside.wakeWatchdog fun _ _ => trivial
  drain := respects_beside (fun _ _ => rfl) fun _ => rfl
  retry := probing_beside.retry
  script := probing_beside.script
  report := probing_beside.report
  send := probing_beside.send

theorem respects_invoke_beside (request : Request) : Respects (Beside k fails) (invoke request) :=
  asking_beside.invoke trivial

theorem respects_onDispatcher_beside (f : Dispatcher → α × Dispatcher) :
    Respects (Beside k fails) (onDispatcher f) :=
  respects_beside (fun _ _ => rfl) fun _ => rfl

theorem respects_runDispatcher_beside
    (f : Dispatcher → Clock → Dispatcher.Trace × Dispatcher × Clock) :
    Respects (Beside k fails) (runDispatcher f) :=
  respects_beside (fun _ _ => rfl) fun _ => rfl

theorem respects_touch_beside :
    Respects (Beside k fails) (modify fun s => { s with lastUpdate := s.clock.now }) :=
  respects_beside (fun _ _ => rfl) fun _ => rfl

theorem respects_stop_beside : Respects (Beside k fails) stop := by
  refine Respects.bind (respects_beside (fun _ _ => rfl) fun _ => rfl) fun _ => ?_
  apply respects_get_bind
  · rintro _ t ⟨rfl, -⟩
    rfl
  · intro s
    split
    · refine (respects_onDispatcher_beside _).bind fun _ => ?_
      apply respects_get_bind
      · rintro _ t ⟨rfl, -⟩
        rfl
      · intro s
        refine (asking_beside.awaitWorkers ?_ _).bind fun _ => respects_runDispatcher_beside _
        rintro _ t ⟨rfl, -⟩
        rfl
    · exact respects_pure ()

/-! ## Steps that leave the store alone -/

/-- Steps that do not depend on what the client has to do with its store do not change it. -/
theorem keeping_of_respects {m : SimulationM α} (h : ∀ k fails, Respects (Beside k fails) m)
    (s : Simulation) : (exec m s).2.keeping = s.keeping := by
  have hsame := (h s.keeping s.script.failsWrite s s (.refl s)).2.same
  rw [hsame, keeping_withKeeping]

theorem keeping_invoke (request : Request) (s : Simulation) :
    (exec (invoke request) s).2.keeping = s.keeping :=
  keeping_of_respects (fun _ _ => respects_invoke_beside request) s

/-- What a step of a program changes about it: a listing is one more listing, a write is one
more write, and it is the new record if it succeeds. -/
def Keeping.after (k : Keeping) : Program.Event → Keeping
  | .listed _ => { k with listings := k.listings + 1 }
  | .stored record (.ok ()) =>
    { k with writes := k.writes + 1, records := k.records.set record }
  | .stored _ (.error _) => { k with writes := k.writes + 1 }
  | _ => k

theorem keeping_storeRecord (record : StateRecord) (s : Simulation) :
    (exec (storeRecord record) s).2.keeping =
      s.keeping.after (.stored record (exec (storeRecord record) s).1) := by
  unfold storeRecord
  rw [exec_modifyGet]
  dsimp only
  split
  · rfl
  · rfl

/-- What a client has to do with its store only the listings and writes of its programs
change. -/
theorem keeping_perform (p : Program α) (s : Simulation) :
    (exec (perform p) s).2.keeping = (trace p s).foldl Keeping.after s.keeping := by
  induction p generalizing s with
  | done result => rfl
  | invoke request next ih =>
    rw [exec_perform_invoke, trace_invoke, ih, keeping_invoke]
    rfl
  | resolve peer next ih => exact ih _ s
  | listRecords next ih => exact ih _ _
  | storeRecord record next ih =>
    rw [exec_perform_storeRecord, trace_storeRecord, ih, keeping_storeRecord]
    rfl
  | enqueue envelope next ih => exact ih _
  | report notice next ih => exact ih _
  | touch next ih => exact ih _

theorem failsWrite_invoke (request : Request) (s : Simulation) :
    (exec (invoke request) s).2.script.failsWrite = s.script.failsWrite :=
  (respects_invoke_beside request s s (.refl s)).2.fails

/-- Where the script lets no write fail, no program meets one that does. -/
theorem isOk_of_mem_writes (hunfailing : ∀ n, s.script.failsWrite n = false) (p : Program α) :
    ∀ w ∈ (trace p s).writes, w.2.isOk := by
  induction p generalizing s with
  | done result => exact List.forall_mem_nil _
  | invoke request next ih =>
    rw [trace_invoke]
    exact ih _ (failsWrite_invoke request s ▸ hunfailing)
  | resolve peer next ih => exact ih _ hunfailing
  | listRecords next ih => exact ih _ hunfailing
  | storeRecord record next ih =>
    have hexec : exec (storeRecord record) s =
        (.ok (), { s with writes := s.writes + 1, records := s.records.set record }) := by
      unfold storeRecord
      rw [exec_modifyGet]
      dsimp only
      rw [hunfailing]
      rfl
    rw [trace_storeRecord, hexec]
    exact List.forall_mem_cons.2 ⟨rfl, ih _ hunfailing⟩
  | enqueue envelope next ih => exact ih hunfailing
  | report notice next ih => exact ih hunfailing
  | touch next ih => exact ih hunfailing

theorem skipUpdates_foldl_after (t : Program.Trace) (k : Keeping) :
    (t.foldl Keeping.after k).skipUpdates = k.skipUpdates := by
  induction t generalizing k with
  | nil => rfl
  | cons e rest ih =>
    rw [List.foldl_cons, ih]
    unfold Keeping.after
    split
    all_goals rfl

theorem listings_le_foldl_after (t : Program.Trace) (k : Keeping) :
    k.listings ≤ (t.foldl Keeping.after k).listings := by
  induction t generalizing k with
  | nil => exact Nat.le_refl _
  | cons e rest ih =>
    rw [List.foldl_cons]
    refine Nat.le_trans ?_ (ih _)
    unfold Keeping.after
    split
    · exact Nat.le_succ _
    all_goals exact Nat.le_refl _

/-- A program without its writes leaves everything about the store as it is. -/
theorem keeping_perform_of_unwritten {p q : Program α} (h : p.Unwritten q) (s : Simulation) :
    (exec (perform q) s).2.keeping = s.keeping := by
  induction h generalizing s with
  | done result => rfl
  | invoke _ ih => rw [exec_perform_invoke, ih, keeping_invoke]
  | resolve _ ih => exact ih _ s
  | storeRecord _ ih => exact ih s
  | enqueue _ ih | report _ ih | touch _ ih => exact ih _

end Simulation

end UpdatePipeline
