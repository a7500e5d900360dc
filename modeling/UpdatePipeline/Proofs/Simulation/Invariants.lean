import UpdatePipeline.Proofs.Dispatcher.Running
import UpdatePipeline.Proofs.Simulation.Respects
set_option autoImplicit false

/-!
# Invariants of a simulation

An invariant says something of the dispatcher, of the watchdog, and of everything that has been
seen since some moment (`Simulation.Invariant`).  If each worker's step keeps it, and the
watchdog, as far as it is there, then so do waits and programs (`Simulation.Lasting.carrying`).
-/

namespace UpdatePipeline

open Schema (Request Push)

namespace Simulation

/-- All that was seen from one state of a simulation to a later one is of this kind. -/
def SeenSince (E : Occurrence → Prop) (earlier : List Observation) (s : Simulation) : Prop :=
  ∃ new, s.observations = new ++ earlier ∧ ∀ o ∈ new, E o.occurrence

theorem SeenSince.refl (E : Occurrence → Prop) (s : Simulation) :
    SeenSince E s.observations s :=
  ⟨[], rfl, fun _ ho => nomatch ho⟩

theorem SeenSince.add {E : Occurrence → Prop} {earlier more : List Observation}
    {s t : Simulation} (h : SeenSince E earlier s) (ht : t.observations = more ++ s.observations)
    (hmore : ∀ o ∈ more, E o.occurrence) : SeenSince E earlier t := by
  obtain ⟨new, hnew, hall⟩ := h
  refine ⟨more ++ new, ?_, ?_⟩
  · rw [ht, hnew, List.append_assoc]
  · intro o ho
    rcases List.mem_append.1 ho with hmem | hmem
    · exact hmore o hmem
    · exact hall o hmem

/-- What holds of the dispatcher, of the watchdog and of everything seen since. -/
structure Invariant (I : Dispatcher → Prop) (W : Option Watchdog → Prop)
    (E : Occurrence → Prop) (earlier : List Observation) (s : Simulation) : Prop where
  dispatcher : I s.dispatcher
  watchdog : W s.watchdog
  seen : SeenSince E earlier s

/-- What an invariant has to be for all that goes on in the background to keep it. -/
structure Resident (I : Dispatcher → Prop) (W : Option Watchdog → Prop)
    (E : Occurrence → Prop) : Prop where
  kept : Dispatcher.Kept (fun d _ => I d) (fun e => E (.ofEvent e))
  reported : ∀ notice, E (.reported notice)
  /-- A watchdog can be at any stage and have anything sent. -/
  probing : ∀ {w : Watchdog}, W (some w) →
    (∀ w', W (some w')) ∧ ∀ request reply, E (.sent request reply)

/-- What it has to be for the client's own calls to keep it, too, as long as they neither start
nor stop anything. -/
structure Lasting (I : Dispatcher → Prop) (W : Option Watchdog → Prop)
    (E : Occurrence → Prop) : Prop extends Resident I W E where
  enqueue : ∀ {d : Dispatcher} (envelope : Envelope), I d → I (d.enqueue envelope)
  addHandler : ∀ {d : Dispatcher} (handler : Handler) (group : Int32),
    I d → I (d.addHandler handler group).2
  removeHandler : ∀ {d : Dispatcher} (id : HandlerId) (group : Int32),
    I d → I (d.removeHandler id group).2
  sent : ∀ request reply, Program.IsForDifference request → E (.sent request reply)

variable {I : Dispatcher → Prop} {W : Option Watchdog → Prop} {E : Occurrence → Prop}
  {earlier : List Observation} {s : Simulation}

namespace Invariant

theorem congr {t : Simulation} (h : Invariant I W E earlier s)
    (ht : t.dispatcher = s.dispatcher ∧ t.watchdog = s.watchdog ∧
      t.observations = s.observations) : Invariant I W E earlier t := by
  obtain ⟨hdispatcher, hwatchdog, hobservations⟩ := ht
  obtain ⟨new, hnew, hall⟩ := h.seen
  exact ⟨hdispatcher ▸ h.dispatcher, hwatchdog ▸ h.watchdog, new, hobservations.trans hnew, hall⟩

theorem observe (h : Invariant I W E earlier s) {o : Occurrence} (ho : E o) :
    Invariant I W E earlier (exec (observe o) s).2 where
  dispatcher := h.dispatcher
  watchdog := h.watchdog
  seen := by
    have hseen : ∀ o' ∈ [(⟨s.clock.now, o⟩ : Observation)], E o'.occurrence := by
      intro o' ho'
      rw [List.mem_singleton.1 ho']
      exact ho
    exact h.seen.add rfl hseen

theorem send (h : Invariant I W E earlier s) {request : Request}
    (hsent : ∀ reply, E (.sent request reply)) :
    Invariant I W E earlier (exec (send request) s).2 := by
  have hscript : Invariant I W E earlier { s with script := (s.script.next request).2 } :=
    h.congr ⟨rfl, rfl, rfl⟩
  exact hscript.observe (hsent _)

/-- Where the dispatcher is operated on, something else may hold of it afterwards. -/
theorem onDispatcher {α : Type} {I' : Dispatcher → Prop} (h : Invariant I W E earlier s)
    {f : Dispatcher → α × Dispatcher} (hf : I' (f s.dispatcher).2) :
    Invariant I' W E earlier (exec (onDispatcher f) s).2 :=
  ⟨hf, h.watchdog, h.seen⟩

theorem runDispatcher {I' : Dispatcher → Prop} (h : Invariant I W E earlier s)
    {f : Dispatcher → Clock → Dispatcher.Trace × Dispatcher × Clock}
    (hf : I' (f s.dispatcher s.clock).2.1)
    (hseen : ∀ e ∈ (f s.dispatcher s.clock).1, E (.ofEvent e.2)) :
    Invariant I' W E earlier (exec (runDispatcher f) s).2 where
  dispatcher := hf
  watchdog := h.watchdog
  seen := by
    refine h.seen.add rfl ?_
    intro o ho
    rw [List.mem_reverse] at ho
    obtain ⟨e, he, rfl⟩ := List.mem_map.1 ho
    exact hseen e he

theorem setWatchdog {W' : Option Watchdog → Prop} (h : Invariant I W E earlier s)
    {delay : Duration} {probe : Option Pending} (hW : W' (some ⟨s.clock.timer delay, probe⟩)) :
    Invariant I W' E earlier (exec (setWatchdog delay probe) s).2 :=
  ⟨h.dispatcher, hW, h.seen⟩

end Invariant

theorem Resident.probing_same (h : Resident I W E) (hset : ∀ w, W (some w))
    (hsent : ∀ request reply, E (.sent request reply)) :
    Probing (fun _ => True) (Same (Invariant I W E earlier)) :=
  .of_kept trivial (fun notice _ hs => hs.observe (h.reported notice))
    (fun request _ _ hs => hs.send (hsent request)) fun _ _ _ _ hs => hs.setWatchdog (hset _)

/-- All that goes on while time passes keeps a resident invariant. -/
theorem Resident.settling (h : Resident I W E) : Settling (Same (Invariant I W E earlier)) where
  clock _ _ hst := hst.congr Simulation.clock
  watchdog _ _ hst := hst.congr Simulation.watchdog
  moveClock _ := respects_same_iff.2 fun _ hs => hs.congr ⟨rfl, rfl, rfl⟩
  runUntil limit := respects_same_iff.2 fun _ hs => by
    obtain ⟨hkept, hevents⟩ := h.kept.runUntil limit hs.dispatcher
    exact hs.runDispatcher hkept hevents
  wake := by
    rintro s t w ⟨-, hs⟩ hw
    have hwatchdog := hs.watchdog
    rw [hw] at hwatchdog
    obtain ⟨hset, hsent⟩ := h.probing hwatchdog
    exact (h.probing_same hset hsent).wakeWatchdog fun _ _ => trivial
  drain := respects_same_iff.2 fun s hs => by
    have hkept : Dispatcher.Outcome _ _ (s.dispatcher.drain s.clock) := h.kept.drain hs.dispatcher
    refine hs.runDispatcher hkept.1 ?_
    intro e he
    obtain ⟨event, hevent, rfl⟩ := List.mem_map.1 he
    exact hkept.2 event hevent

/-- Everything that the client's programs do keeps a lasting invariant. -/
theorem Lasting.carrying (h : Lasting I W E) :
    Carrying Program.IsForDifference (Same (Invariant I W E earlier)) where
  toSettling := h.toResident.settling
  config s t hst := ⟨t.config.workers, hst.congr Simulation.config⟩
  script _ _ hst := hst.congr Simulation.script
  report notice := respects_same_iff.2 fun _ hs => hs.observe (h.reported notice)
  send request hrequest := respects_same_iff.2 fun _ hs =>
    hs.send fun reply => h.sent request reply hrequest
  enqueue envelope := respects_same_iff.2 fun _ hs =>
    hs.onDispatcher (h.enqueue envelope hs.dispatcher)
  listRecords := respects_same_iff.2 fun _ hs => hs.congr ⟨rfl, rfl, rfl⟩
  storeRecord record := respects_same_iff.2 fun s hs => by
    apply hs.congr
    unfold storeRecord
    rw [exec_modifyGet]
    dsimp only
    split
    · exact ⟨rfl, rfl, rfl⟩
    · exact ⟨rfl, rfl, rfl⟩
  touch := respects_same_iff.2 fun _ hs => hs.congr ⟨rfl, rfl, rfl⟩

end Simulation

end UpdatePipeline
