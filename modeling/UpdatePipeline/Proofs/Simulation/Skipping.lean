import UpdatePipeline.Proofs.Simulation.Keeping
set_option autoImplicit false

/-!
# Clients that keep no positions

A client that keeps no positions comes near its store only when it is told to recover its gaps
(`Simulation.keeping_session_iff`).  Otherwise nobody can tell it from one that keeps them and
whose writes do not fail: what is pushed is answered, asked for and queued alike, and so is
everything seen (`Simulation.Shadows.session`).
-/

namespace UpdatePipeline

open Schema (Request Push)
open Program (Unwritten Trace)

/-! ## Two clients apart from the store -/

/-- Whether a step takes something from the store or puts something into it. -/
def Program.Event.concernsStore : Event → Bool
  | .listed _ | .stored _ _ => true
  | _ => false

/-- The trace without the steps that concern the store. -/
def Program.Trace.withoutStore (t : Trace) : Trace := t.filter fun e => !e.concernsStore

/-- What does not show a listing or a write shows the same of the rest. -/
theorem Program.Trace.filterMap_withoutStore {β : Type} {f : Program.Event → Option β}
    (h : ∀ e, e.concernsStore → f e = none) (t : Trace) :
    t.withoutStore.filterMap f = t.filterMap f := by
  induction t with
  | nil => rfl
  | cons e rest ih =>
    unfold withoutStore at ih ⊢
    cases hstore : e.concernsStore with
    | true => rw [List.filter_cons_of_neg (by simp [hstore]), List.filterMap_cons, h e hstore, ih]
    | false =>
      rw [List.filter_cons_of_pos (by simp [hstore]), List.filterMap_cons, List.filterMap_cons, ih]

theorem Program.Trace.envelopes_withoutStore (t : Trace) :
    t.withoutStore.envelopes = t.envelopes :=
  filterMap_withoutStore (by rintro (_ | _ | _ | _ | _ | _ | _) h <;> first | rfl | cases h) t

theorem Program.Trace.invocations_withoutStore (t : Trace) :
    t.withoutStore.invocations = t.invocations :=
  filterMap_withoutStore (by rintro (_ | _ | _ | _ | _ | _ | _) h <;> first | rfl | cases h) t

namespace Simulation

variable {α : Type} {s t : Simulation}

/-- The second is the first, but keeps no positions, and may have had another store; and of
what the first is still going to write nothing fails. -/
structure Shadows (s t : Simulation) : Prop where
  beside : Beside s.keeping s.script.failsWrite s t
  unfailing : ∀ n, s.writes < n → s.script.failsWrite n = false
  skips : t.config.skipUpdates

theorem Shadows.of_respects {m : SimulationM α} (h : Shadows s t)
    (hm : ∀ k fails, Respects (Beside k fails) m) :
    (exec m s).1 = (exec m t).1 ∧ Shadows (exec m s).2 (exec m t).2 := by
  obtain ⟨hresult, hafter⟩ := hm _ _ s t h.beside
  have hkept : (exec m s).2.keeping = s.keeping := keeping_of_respects hm s
  have hskips : (exec m t).2.keeping = t.keeping := keeping_of_respects hm t
  have hfails : (exec m s).2.script.failsWrite = s.script.failsWrite :=
    (hm _ _ s s (.refl s)).2.fails
  refine ⟨hresult, hkept ▸ hfails ▸ hafter, ?_, ?_⟩
  · rw [hfails, show (exec m s).2.writes = s.writes from congrArg Keeping.writes hkept]
    exact h.unfailing
  · rw [show (exec m t).2.config.skipUpdates = t.config.skipUpdates from
      congrArg Keeping.skipUpdates hskips]
    exact h.skips

/-- A write, which succeeds, makes no difference to the shadow. -/
theorem Shadows.storeRecord (h : Shadows s t) (record : StateRecord) :
    (exec (storeRecord record) s).1 = .ok () ∧ Shadows (exec (storeRecord record) s).2 t := by
  have hexec : exec (Simulation.storeRecord record) s =
      (.ok (), { s with writes := s.writes + 1, records := s.records.set record }) := by
    unfold Simulation.storeRecord
    rw [exec_modifyGet]
    dsimp only
    rw [h.unfailing _ (Nat.lt_succ_self _)]
    rfl
  rw [hexec]
  refine ⟨rfl, ⟨?_, h.beside.fails⟩, ?_, h.skips⟩
  · show _ = t.withKeeping _
    have hsame := h.beside.same
    rw [hsame]
    rfl
  · intro n hn
    exact h.unfailing n (Nat.lt_of_succ_lt hn)

/-- A program does the same in one as without its writes in the other. -/
theorem Shadows.perform {p q : Program α} (h : Shadows s t) (hpq : Unwritten p q) :
    (exec (perform p) s).1 = (exec (perform q) t).1 ∧
      (trace p s).withoutStore = trace q t ∧
      Shadows (exec (perform p) s).2 (exec (perform q) t).2 := by
  induction hpq generalizing s t with
  | done result => exact ⟨rfl, rfl, h⟩
  | @invoke request next next' _ ih =>
    obtain ⟨hreply, hafter⟩ := h.of_respects fun _ _ => respects_invoke_beside request
    obtain ⟨hresult, htrace, hshadows⟩ := ih (exec (invoke request) s).1 hafter
    rw [exec_perform_invoke, exec_perform_invoke, trace_invoke, trace_invoke, ← hreply,
      invoked_congr asking_beside trivial h.beside]
    exact ⟨hresult, congrArg (invoked request t :: ·) htrace, hshadows⟩
  | @resolve peer next next' _ ih =>
    have hscript : s.script = t.script := asking_beside.script _ _ h.beside
    obtain ⟨hresult, htrace, hshadows⟩ := ih (t.script.resolve peer) h
    rw [exec_perform_resolve, exec_perform_resolve, trace_resolve, trace_resolve, hscript]
    exact ⟨hresult, congrArg (_ :: ·) htrace, hshadows⟩
  | @storeRecord record next q _ ih =>
    obtain ⟨hok, hafter⟩ := h.storeRecord record
    rw [exec_perform_storeRecord, trace_storeRecord, hok]
    exact ih hafter
  | @enqueue envelope p q _ ih =>
    obtain ⟨-, hafter⟩ := h.of_respects fun _ _ =>
      respects_onDispatcher_beside fun d => ((), d.enqueue envelope)
    obtain ⟨hresult, htrace, hshadows⟩ := ih hafter
    exact ⟨hresult, congrArg (_ :: ·) htrace, hshadows⟩
  | report _ ih =>
    obtain ⟨-, hafter⟩ := h.of_respects fun _ _ => asking_beside.report _
    obtain ⟨hresult, htrace, hshadows⟩ := ih hafter
    exact ⟨hresult, congrArg (_ :: ·) htrace, hshadows⟩
  | touch _ ih =>
    obtain ⟨-, hafter⟩ := h.of_respects fun _ _ => respects_touch_beside
    obtain ⟨hresult, htrace, hshadows⟩ := ih hafter
    exact ⟨hresult, congrArg (_ :: ·) htrace, hshadows⟩

/-! ## Calls that come near the store -/

/-- Calls that carry out no program and start nothing have nothing to do with the store. -/
theorem respects_carryOut_beside {k : Keeping} {fails : Nat → Bool} {c : Call}
    (hstart : c ≠ .start) (hrecover : c ≠ .recover) (hpush : ∀ p, c ≠ .push p) :
    Respects (Beside k fails) c.carryOut := by
  cases c with
  | start => exact absurd rfl hstart
  | recover => exact absurd rfl hrecover
  | push p => exact absurd rfl (hpush p)
  | stop => exact respects_stop_beside.map _
  | addHandler handler group => exact (respects_onDispatcher_beside _).map _
  | removeHandler id group => exact (respects_onDispatcher_beside _).map _
  | put envelope => exact (respects_onDispatcher_beside _).map _
  | wait delay => exact (asking_beside.waitFor delay).map _
  | settle => exact asking_beside.settle.map _

/-- Without positions to keep there is nothing to catch up with. -/
theorem exec_catchUp_of_skips (hskips : s.config.skipUpdates) :
    exec catchUp s = (.ok (), { s with lastUpdate := s.clock.now }) := by
  rw [exec_catchUp, if_pos hskips]

theorem keeping_start_of_skips (hskips : s.config.skipUpdates) :
    (exec start s).2.keeping = s.keeping := by
  have hstarted : (exec startWorkers s).2.keeping = s.keeping :=
    keeping_of_respects (fun _ _ => respects_runDispatcher_beside _) s
  have hcaught : exec catchUp (exec startWorkers s).2 = (.ok (), _) :=
    exec_catchUp_of_skips (hskips ▸ congrArg Keeping.skipUpdates hstarted)
  rw [exec_start, hcaught]
  refine Eq.trans ?_ hstarted
  rw [exec_watch]
  split
  · exact keeping_of_respects (fun _ _ => probing_beside.restWatchdog) _
  · rfl

/-- Where no positions are kept only a recovery comes near the store. -/
theorem keeping_carryOut_of_skips (hskips : s.config.skipUpdates) {c : Call}
    (hrecover : c ≠ .recover) : (exec c.carryOut s).2.keeping = s.keeping := by
  by_cases hstart : c = .start
  · subst hstart
    exact keeping_start_of_skips hskips
  · by_cases hpush : ∃ p, c = .push p
    · obtain ⟨p, rfl⟩ := hpush
      have hunwritten := Intake.unwritten_take s.config p
      rw [show s.config.skipping = s.config by rw [Config.skipping, ← hskips]] at hunwritten
      exact keeping_perform_of_unwritten hunwritten s
    · exact keeping_of_respects
        (fun _ _ => respects_carryOut_beside hstart hrecover (not_exists.1 hpush)) s

/-- A recovery lists the store, whether positions are kept or not. -/
theorem listings_lt_recover (s : Simulation) : s.listings < (exec recover s).2.listings := by
  rw [exec_recover]
  have hkeeping := keeping_perform (Recovery.recoverGaps s.config) s
  have htrace : ∃ rest, trace (Recovery.recoverGaps s.config) s =
      .listed (exec listRecords s).1 :: rest := ⟨_, rfl⟩
  obtain ⟨rest, hrest⟩ := htrace
  rw [hrest, List.foldl_cons] at hkeeping
  have hlisted := listings_le_foldl_after rest (s.keeping.after (.listed (exec listRecords s).1))
  rw [← hkeeping] at hlisted
  exact hlisted

theorem carryOut_of_skips (hskips : s.config.skipUpdates) (c : Call) :
    (exec c.carryOut s).2.config.skipUpdates ∧ s.listings ≤ (exec c.carryOut s).2.listings := by
  by_cases hrecover : c = .recover
  · subst hrecover
    refine ⟨?_, Nat.le_of_lt (listings_lt_recover s)⟩
    have hkeeping := keeping_perform (Recovery.recoverGaps s.config) s
    have hskipping := skipUpdates_foldl_after (trace (Recovery.recoverGaps s.config) s) s.keeping
    rw [← hkeeping] at hskipping
    exact hskipping.trans hskips
  · have hkeeping := keeping_carryOut_of_skips hskips hrecover
    exact ⟨(congrArg Keeping.skipUpdates hkeeping).trans hskips,
      Nat.le_of_eq (congrArg Keeping.listings hkeeping).symm⟩

theorem listings_le_session (hskips : s.config.skipUpdates) (calls : List Call) :
    s.listings ≤ (exec (session calls) s).2.listings := by
  induction calls generalizing s with
  | nil => exact Nat.le_refl _
  | cons c rest ih =>
    obtain ⟨hafter, hle⟩ := carryOut_of_skips hskips c
    exact Nat.le_trans hle (ih hafter)

/-- Where no positions are kept a session leaves everything about the store as it is, exactly
if no recovery is asked for in it. -/
theorem keeping_session_iff (hskips : s.config.skipUpdates) (calls : List Call) :
    (exec (session calls) s).2.keeping = s.keeping ↔ ∀ c ∈ calls, c ≠ .recover := by
  induction calls generalizing s with
  | nil => exact iff_of_true rfl (List.forall_mem_nil _)
  | cons c rest ih =>
    have hlater := (carryOut_of_skips hskips c).1
    rw [List.forall_mem_cons]
    by_cases hrecover : c = .recover
    · -- the listing of the recovery stays counted
      subst hrecover
      refine iff_of_false (fun hkept => ?_) fun hnone => hnone.1 rfl
      have hlisted := Nat.lt_of_lt_of_le (listings_lt_recover s) (listings_le_session hlater rest)
      exact Nat.ne_of_gt hlisted (congrArg Keeping.listings hkept)
    · have hkeeping := keeping_carryOut_of_skips hskips hrecover
      rw [and_iff_right hrecover, ← ih hlater, ← hkeeping]
      rfl

/-! ## Sessions apart from the store -/

/-- What the pushes among the calls do, one after the other. -/
def pushTraces : List Call → Simulation → List Trace
  | [], _ => []
  | .push p :: rest, s =>
    trace (Intake.take s.config p) s :: pushTraces rest (exec (Call.push p).carryOut s).2
  | c :: rest, s => pushTraces rest (exec c.carryOut s).2

theorem pushTraces_cons {c : Call} (hpush : ∀ p, c ≠ .push p) (rest : List Call)
    (s : Simulation) : pushTraces (c :: rest) s = pushTraces rest (exec c.carryOut s).2 := by
  cases c with
  | push p => exact absurd rfl (hpush p)
  | _ => rfl

/-- The same client, but without positions kept from here on. -/
def skipping (s : Simulation) : Simulation := { s with config := s.config.skipping }

theorem shadows_skipping (hunfailing : ∀ n, s.writes < n → s.script.failsWrite n = false) :
    Shadows s s.skipping :=
  ⟨⟨rfl, rfl⟩, hunfailing, rfl⟩

theorem Shadows.config (h : Shadows s t) : t.config = s.config.skipping := by
  have hsame := h.beside.same
  rw [hsame]
  unfold withKeeping Config.skipping
  dsimp only
  rw [← h.skips]

/-- A push is taken in alike in both. -/
theorem Shadows.push (h : Shadows s t) (p : Push) :
    (exec (Simulation.push p) s).1 = (exec (Simulation.push p) t).1 ∧
      (trace (Intake.take s.config p) s).withoutStore = trace (Intake.take t.config p) t ∧
      Shadows (exec (Simulation.push p) s).2 (exec (Simulation.push p) t).2 := by
  rw [exec_push, exec_push, h.config]
  exact h.perform (Intake.unwritten_take s.config p)

theorem Shadows.session (h : Shadows s t) {calls : List Call}
    (hcalls : ∀ c ∈ calls, c ≠ .start ∧ c ≠ .recover) :
    (exec (Simulation.session calls) s).1 = (exec (Simulation.session calls) t).1 ∧
      (pushTraces calls s).map Trace.withoutStore = pushTraces calls t ∧
      Shadows (exec (Simulation.session calls) s).2 (exec (Simulation.session calls) t).2 := by
  induction calls generalizing s t with
  | nil => exact ⟨rfl, rfl, h⟩
  | cons c rest ih =>
    obtain ⟨⟨hstart, hrecover⟩, hrest⟩ := List.forall_mem_cons.1 hcalls
    have hexec : ∀ u, exec (Simulation.session (c :: rest)) u =
        ((c, (exec c.carryOut u).1) :: (exec (Simulation.session rest) (exec c.carryOut u).2).1,
          (exec (Simulation.session rest) (exec c.carryOut u).2).2) := fun _ => rfl
    rw [hexec, hexec]
    by_cases hpush : ∃ p, c = .push p
    · obtain ⟨p, rfl⟩ := hpush
      obtain ⟨hresult, htrace, hafter⟩ := h.push p
      obtain ⟨hanswers, htraces, hend⟩ := ih hafter hrest
      refine ⟨?_, ?_, hend⟩
      · exact congrArg₂ (fun a later => (Call.push p, Answer.outcome a) :: later) hresult hanswers
      · exact congrArg₂ List.cons htrace htraces
    · have hother : ∀ p, c ≠ .push p := not_exists.1 hpush
      obtain ⟨hresult, hafter⟩ := h.of_respects fun _ _ =>
        respects_carryOut_beside hstart hrecover hother
      obtain ⟨hanswers, htraces, hend⟩ := ih hafter hrest
      refine ⟨?_, ?_, hend⟩
      · exact congrArg₂ (fun a later => (c, a) :: later) hresult hanswers
      · rw [pushTraces_cons hother, pushTraces_cons hother]
        exact htraces

/-- Nothing but their stores tells the two apart that these calls bring to light. -/
structure Indiscernible (calls : List Call) (s t : Simulation) : Prop where
  answers : (exec (session calls) s).1 = (exec (session calls) t).1
  /-- The pushes queue the same envelopes, with the same peers and in the same order. -/
  queued : (pushTraces calls s).map Trace.envelopes = (pushTraces calls t).map Trace.envelopes
  invocations : (pushTraces calls s).map Trace.invocations =
    (pushTraces calls t).map Trace.invocations
  /-- The same is sent, handled and reported, each at the same instant. -/
  seen : (exec (session calls) s).2.observations = (exec (session calls) t).2.observations
  dispatcher : (exec (session calls) s).2.dispatcher = (exec (session calls) t).2.dispatcher

theorem Shadows.indiscernible (h : Shadows s t) {calls : List Call}
    (hcalls : ∀ c ∈ calls, c ≠ .start ∧ c ≠ .recover) : Indiscernible calls s t := by
  obtain ⟨hanswers, htraces, hend⟩ := h.session hcalls
  have hsame := hend.beside.same
  constructor
  case answers => exact hanswers
  case queued =>
    rw [← htraces, List.map_map]
    exact List.map_congr_left fun t _ => t.envelopes_withoutStore.symm
  case invocations =>
    rw [← htraces, List.map_map]
    exact List.map_congr_left fun t _ => t.invocations_withoutStore.symm
  case seen =>
    rw [hsame]
    rfl
  case dispatcher =>
    rw [hsame]
    rfl

/-- Whether positions are kept concerns the store and nothing else.  Where they are not, no call
but a recovery lists the store or changes it; and where no write is going to fail, everything
but starts and recoveries goes the same way as where they are. -/
theorem skipping_concerns_store_only (s : Simulation) (calls : List Call) :
    (s.config.skipUpdates →
      ((exec (session calls) s).2.keeping = s.keeping ↔ ∀ c ∈ calls, c ≠ .recover)) ∧
    ((∀ n, s.writes < n → s.script.failsWrite n = false) →
      (∀ c ∈ calls, c ≠ .start ∧ c ≠ .recover) → Indiscernible calls s s.skipping) :=
  ⟨fun hskips => keeping_session_iff hskips calls,
    fun hunfailing hcalls => (shadows_skipping hunfailing).indiscernible hcalls⟩

/-- A client that has come to position 10 and whom nobody answers. -/
def unansweredAtTen : Simulation :=
  ofConfig { retry := RetryPolicy.never } { resolve := fun _ => .error .dropped }
    (Records.ofList [{ scope := .account, pts := 10 }])

/-- A push of one deletion, which leads to position 11, and a stop. -/
def deletionThenStop : List Call :=
  [.push (.updates { updates := [.deleteMessages [3] 11 1], date := 2 }), .stop]

theorem skipping_concerns_store_only_deletion :
    (exec (session (.start :: deletionThenStop)) unansweredAtTen.skipping).2.keeping =
        unansweredAtTen.skipping.keeping ∧
      Indiscernible deletionThenStop unansweredAtTen unansweredAtTen.skipping ∧
      (pushTraces deletionThenStop unansweredAtTen).map (·.writes.length) = [1] := by
  refine ⟨?_, ?_, rfl⟩
  · refine ((skipping_concerns_store_only unansweredAtTen.skipping _).1 rfl).2 ?_
    rintro c hc rfl
    simp [deletionThenStop] at hc
  · refine (skipping_concerns_store_only unansweredAtTen deletionThenStop).2 (fun _ _ => rfl) ?_
    intro c hc
    constructor
    all_goals
      rintro rfl
      simp [deletionThenStop] at hc

end Simulation

end UpdatePipeline
