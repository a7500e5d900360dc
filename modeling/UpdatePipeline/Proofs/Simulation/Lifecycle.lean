import Mathlib.Data.List.DropRight
import UpdatePipeline.Proofs.Dispatcher.Rest
import UpdatePipeline.Proofs.Simulation.Session
set_option autoImplicit false

/-!
# The life of a client

However often a client is started and stopped, and whether or not catching up succeeds, it has
all its workers from a start to the next stop and none from then on, and a watchdog from the
first start that succeeds.  A stop comes to its end, and behind it nothing is left of what was
there before (`Simulation.session_lifecycle`).
-/

namespace UpdatePipeline

open Dispatcher (Kept SameSetup)

namespace Simulation

variable {size : Nat} {s : Simulation}

/-! ## Stops come to their end -/

/-- Without a watchdog there is nothing in the background but the workers. -/
theorem exec_passUntil_of_none (h : s.watchdog = none) (limit : Instant) :
    exec (passUntil limit) s = exec (runDispatcher (Dispatcher.runUntil limit)) s := by
  unfold passUntil
  rw [exec_bind, exec_get]
  dsimp only
  cases limit - s.clock.now with
  | zero => rfl
  | succ count =>
    unfold runBackground
    rw [exec_bind, exec_get]
    dsimp only
    rw [h]

/-- The workers of a dispatcher are leaving, have not more than this left to do, and apart from
that it is as it was. -/
def Departing (size : Nat) (before : Dispatcher) (bound : Nat) (d : Dispatcher) : Prop :=
  (d.Leaving size ∧ d.load ≤ bound) ∧ SameSetup before d

theorem resident_departing (size : Nat) (before : Dispatcher) (bound : Nat) :
    Resident (Departing size before bound) (· = none) (fun _ => True) where
  kept := (((Dispatcher.kept_ofPool size _).and (Dispatcher.kept_load bound)).and
    (Dispatcher.kept_sameSetup before)).imp fun _ _ => trivial
  reported _ := trivial
  probing h := nomatch h

/-- What a dispatcher has come to when its workers have left. -/
structure Left (size : Nat) (before : Dispatcher) (s : Simulation) : Prop where
  leaving : s.dispatcher.Leaving size
  setup : SameSetup before s.dispatcher
  live : s.dispatcher.live = 0
  watchdog : s.watchdog = none

/-- With every callback that is waited for there is less to do, so in the end all workers have
left. -/
theorem left_of_awaitWorkers {before : Dispatcher} {count : Nat}
    (hdeparting : Departing size before count s.dispatcher) (hwatchdog : s.watchdog = none) :
    Left size before (exec (awaitWorkers count) s).2 := by
  induction count generalizing s with
  | zero =>
    obtain ⟨⟨hleaving, hload⟩, hsetup⟩ := hdeparting
    obtain ⟨hbusy, hqueue⟩ := Dispatcher.rests_of_load_eq_zero (Nat.le_zero.1 hload)
    exact ⟨hleaving, hsetup, hleaving.live hbusy (.inr hqueue), hwatchdog⟩
  | succ count ih =>
    -- what can be taken is taken first
    have hbegin : Invariant (Departing size before (count + 1)) (· = none) (fun _ => True)
        s.observations s := ⟨hdeparting, hwatchdog, .refl _ s⟩
    have hsettled := respects_same_iff.1 (resident_departing size before _).settling.settle s hbegin
    have hrest : (exec settle s).2.dispatcher.idle = 0 ∨ (exec settle s).2.dispatcher.queue = [] :=
      Dispatcher.drain_rests _ _
    unfold awaitWorkers
    rw [exec_bind, exec_bind, exec_get]
    generalize (exec settle s).2 = t at hsettled hrest ⊢
    obtain ⟨⟨⟨hleaving, hload⟩, hsetup⟩, hnone, -⟩ := hsettled
    rcases t.dispatcher.nextTimer?_cases with ⟨htimer, hbusy⟩ | ⟨timer, htimer, -⟩
    · dsimp only
      rw [htimer]
      exact ⟨hleaving, hsetup, hleaving.live hbusy hrest, hnone⟩
    · -- the first callback ends
      dsimp only
      rw [htimer]
      dsimp only
      rw [exec_bind, exec_passUntil_of_none hnone, exec_bind]
      have hless := Dispatcher.load_runUntil_lt htimer (Nat.lt_succ_self timer.due) t.clock
      have hkept : Departing size before (count + 1)
          (t.dispatcher.runUntil (timer.due + 1) t.clock).2.1 :=
        ((resident_departing size before _).kept.runUntil _ ⟨⟨hleaving, hload⟩, hsetup⟩).1
      apply ih
      · exact ⟨⟨hkept.1.1, Nat.le_of_lt_succ (Nat.lt_of_lt_of_le hless hload)⟩, hkept.2⟩
      · exact hnone

/-- What a stop leaves of a dispatcher of this size. -/
structure Stopped (size : Nat) (before : Dispatcher) (s : Simulation) : Prop where
  serving : s.dispatcher.Serving size
  isRunning : s.dispatcher.isRunning = false
  nextId : s.dispatcher.nextId = before.nextId
  watchdog : s.watchdog = none
  /-- If its workers ran, nobody is there to be called. -/
  empty : before.isRunning → s.dispatcher.registry = Registry.empty ∧ s.dispatcher.busy = []

/-- A stop comes to its end. -/
theorem stopped_of_stop (h : s.dispatcher.Serving size) :
    Stopped size s.dispatcher (exec stop s).2 := by
  rw [exec_stop]
  let unwatched := { s with watchdog := none }
  cases hrunning : unwatched.dispatcher.isRunning with
  | false =>
    rw [exec_stopWorkers_of_not_isRunning hrunning]
    exact ⟨h, hrunning, rfl, rfl, fun hup => nomatch hrunning.symm.trans hup⟩
  | true =>
    rw [exec_stopWorkers_of_isRunning hrunning]
    have hsetup : SameSetup s.dispatcher s.dispatcher.beginStop := by
      unfold Dispatcher.beginStop
      rw [if_pos hrunning]
      exact ⟨rfl, rfl, rfl, rfl, rfl⟩
    have hdeparting : Departing size s.dispatcher s.dispatcher.beginStop.load
        s.dispatcher.beginStop := ⟨⟨h.beginStop hrunning, Nat.le_refl _⟩, hsetup⟩
    let begun := { unwatched with dispatcher := s.dispatcher.beginStop }
    have hleft : Left size s.dispatcher (exec (awaitWorkers s.dispatcher.beginStop.load) begun).2 :=
      left_of_awaitWorkers hdeparting rfl
    obtain ⟨-, hbusy⟩ := Nat.add_eq_zero_iff.1 hleft.live
    exact ⟨hleft.leaving.finishStop hleft.live, rfl, hleft.setup.nextId, hleft.watchdog,
      fun _ => ⟨rfl, List.eq_nil_of_length_eq_zero hbusy⟩⟩

/-! ## What single calls keep -/

section Calls

variable {I : Dispatcher → Prop} {W : Option Watchdog → Prop} {E : Occurrence → Prop}
  {earlier : List Observation}

/-- If the watchdog may be in any state then so is it after the client has caught up. -/
theorem Invariant.watch (h : Invariant I W E earlier s) (caughtUp : Except InvocationError Unit) :
    Invariant I (fun _ => True) E earlier (exec (watch caughtUp) s).2 := by
  rw [exec_watch]
  dsimp only
  split
  · exact ⟨h.dispatcher, trivial, h.seen⟩
  · exact ⟨h.dispatcher, trivial, h.seen⟩

/-- What starts and stops keep, too, is kept by every call, except for the watchdog, which may
come with it. -/
theorem Lasting.carryOut (h : Lasting I W E) (hstart : ∀ d, I d → I d.start.2)
    (hbegin : ∀ d, I d → I d.beginStop) (hfinish : ∀ d, I d → I d.finishStop.2) (hnone : W none)
    (hs : Invariant I W E earlier s) (c : Call) :
    Invariant I (fun _ => True) E earlier (exec c.carryOut s).2 := by
  by_cases hc : c = .start
  · rw [hc, Call.carryOut, exec_map, exec_start]
    have hworkers := hs.startWorkers h.reported (hstart _ hs.dispatcher)
    exact (h.catchUp hworkers).watch _
  · have hkept : Invariant I W E earlier (exec c.carryOut s).2 := by
      by_cases hc' : c = .stop
      · rw [hc', Call.carryOut, exec_map]
        have hbefore : Invariant I W E earlier { s with watchdog := none } :=
          ⟨hs.dispatcher, hnone, hs.seen⟩
        exact respects_same_iff.1 (h.toResident.stopWorkers hbegin hfinish) _ hbefore
      · exact h.between hc hc' hs
    exact ⟨hkept.dispatcher, trivial, hkept.seen⟩

end Calls

/-! ## The stages of a life -/

/-- Whether a call stops the client. -/
def Call.isStop : Call → Bool
  | .stop => true
  | _ => false

theorem Call.isStop_of_ne {c : Call} (h : c ≠ .stop) : c.isStop = false := by
  cases c with
  | stop => exact absurd rfl h
  | _ => rfl

/-- What has happened since the last stop. -/
def sinceStop (past : List (Call × Answer)) : List (Call × Answer) :=
  past.rtakeWhile fun happened => !happened.1.isStop

/-- There was a start, successful or not, since the last stop. -/
def IsUp (past : List (Call × Answer)) : Prop := ∃ answer, (Call.start, answer) ∈ sinceStop past

/-- There was a successful start since the last stop. -/
def IsWatched (past : List (Call × Answer)) : Prop :=
  (Call.start, Answer.outcome (.ok ())) ∈ sinceStop past

/-- A handler was registered under this id. -/
def IsRegistered (past : List (Call × Answer)) (id : HandlerId) : Prop :=
  ∃ handler group, (Call.addHandler handler group, Answer.registered id) ∈ past

section Past

variable (past : List (Call × Answer)) (c : Call) (answer : Answer)

theorem sinceStop_stop : sinceStop (past ++ [(.stop, answer)]) = [] :=
  List.rtakeWhile_concat_neg _ _ _ (by simp [Call.isStop])

theorem sinceStop_concat (h : c ≠ .stop) :
    sinceStop (past ++ [(c, answer)]) = sinceStop past ++ [(c, answer)] :=
  List.rtakeWhile_concat_pos _ _ _ (by simp [Call.isStop_of_ne h])

theorem isUp_start : IsUp (past ++ [(.start, answer)]) := by
  refine ⟨answer, ?_⟩
  rw [sinceStop_concat _ _ _ (by simp)]
  exact List.mem_append_right _ (List.mem_singleton.2 rfl)

theorem isWatched_start (result : Except InvocationError Unit) :
    IsWatched (past ++ [(.start, .outcome result)]) ↔ IsWatched past ∨ result.isOk := by
  unfold IsWatched
  rw [sinceStop_concat _ _ _ (by simp), List.mem_append, List.mem_singleton]
  cases result with
  | error e => simp [Except.isOk, Except.toBool]
  | ok u => simp [Except.isOk, Except.toBool]

variable {c}

theorem isUp_between (hstart : c ≠ .start) (hstop : c ≠ .stop) :
    IsUp (past ++ [(c, answer)]) ↔ IsUp past := by
  unfold IsUp
  rw [sinceStop_concat _ _ _ hstop]
  simp [hstart.symm]

theorem isWatched_between (hstart : c ≠ .start) (hstop : c ≠ .stop) :
    IsWatched (past ++ [(c, answer)]) ↔ IsWatched past := by
  unfold IsWatched
  rw [sinceStop_concat _ _ _ hstop]
  simp [hstart.symm]

variable {past}

theorem IsWatched.isUp (h : IsWatched past) : IsUp past := ⟨_, h⟩

end Past

/-- After this past the client is in the stage of life in which it should be. -/
structure Stage (size : Nat) (past : List (Call × Answer)) (s : Simulation) : Prop where
  serving : s.dispatcher.Serving size
  isRunning : s.dispatcher.isRunning ↔ IsUp past
  watchdog : s.watchdog.isSome ↔ IsWatched past
  registered : ∀ id, IsRegistered past id → id < s.dispatcher.nextId

/-- As long as there is neither a start nor a stop. -/
def Steady (size : Nat) (isRunning : Bool) (nextId : HandlerId) (d : Dispatcher) : Prop :=
  d.Serving size ∧ d.isRunning = isRunning ∧ nextId ≤ d.nextId

theorem lasting_steady (size : Nat) (isRunning : Bool) (nextId : HandlerId) (watched : Bool) :
    Lasting (Steady size isRunning nextId) (fun w => w.isSome = watched) (fun _ => True) where
  kept := by
    refine ((Dispatcher.kept_ofPool size _).and (Dispatcher.kept_of_sameSetup ?_)).imp
      fun _ _ => trivial
    intro d d' hsame hd
    exact ⟨hsame.isRunning.trans hd.1, hsame.nextId ▸ hd.2⟩
  reported _ := trivial
  probing hw := ⟨fun _ => hw, fun _ _ => trivial⟩
  enqueue envelope hd := ⟨hd.1.enqueue envelope, hd.2⟩
  addHandler handler group hd :=
    ⟨hd.1.addHandler handler group, hd.2.1, Nat.le_succ_of_le hd.2.2⟩
  removeHandler {d} id group hd := by
    refine ⟨hd.1.removeHandler id group, ?_⟩
    obtain ⟨registry, hframe⟩ := d.removeHandler_frame id group
    rw [hframe]
    exact hd.2
  sent _ _ _ := trivial

theorem Stage.start {past : List (Call × Answer)} (h : Stage size past s) :
    Stage size (past ++ [(.start, (exec Call.start.carryOut s).1)])
      (exec Call.start.carryOut s).2 := by
  have hbegin : Invariant (fun d => d.Serving size ∧ s.dispatcher.nextId ≤ d.nextId)
      (fun w => w.isSome = s.watchdog.isSome) (fun _ => True) s.observations s :=
    ⟨⟨h.serving, Nat.le_refl _⟩, rfl, .refl _ s⟩
  have hstarted : Steady size true s.dispatcher.nextId s.dispatcher.start.2 := by
    refine ⟨h.serving.start, ?_⟩
    unfold Dispatcher.start
    split
    · exact ⟨‹_›, Nat.le_refl _⟩
    · exact ⟨rfl, Nat.le_refl _⟩
  have hcaughtUp := (lasting_steady size true _ s.watchdog.isSome).catchUp
    (hbegin.startWorkers (fun _ => trivial) hstarted)
  rw [Call.carryOut, exec_map, exec_start]
  generalize exec catchUp (exec startWorkers s).2 = caughtUp at hcaughtUp ⊢
  obtain ⟨result, t⟩ := caughtUp
  obtain ⟨⟨hserving, hrunning, hnextId⟩, hwatchdog, -⟩ := hcaughtUp
  rw [exec_watch]
  have hregistered : ∀ id, IsRegistered (past ++ [(.start, .outcome result)]) id →
      id < t.dispatcher.nextId := by
    rintro id ⟨handler, group, hmem⟩
    have hpast : IsRegistered past id := ⟨handler, group, by simpa using hmem⟩
    exact Nat.lt_of_lt_of_le (h.registered id hpast) hnextId
  have hwatched : t.watchdog.isSome = true ↔ IsWatched past := by rw [hwatchdog, h.watchdog]
  dsimp only at hserving hrunning ⊢
  split
  · -- the watchdog comes
    rename_i hcomes
    obtain ⟨hok, -⟩ := Bool.and_eq_true_iff.1 hcomes
    refine ⟨hserving, iff_of_true hrunning (isUp_start _ _), ?_, hregistered⟩
    exact iff_of_true rfl ((isWatched_start _ _).2 (.inr hok))
  · -- it was there before, or the client has not caught up
    rename_i hstays
    refine ⟨hserving, iff_of_true hrunning (isUp_start _ _), ?_, hregistered⟩
    rw [isWatched_start, ← hwatched]
    cases hthere : t.watchdog.isSome with
    | true => simp
    | false =>
      have hnone : t.watchdog.isNone := by simpa using hthere
      have hfailed : result.isOk = false := by simpa [hnone] using hstays
      simp [hfailed]

theorem Stage.stop {past : List (Call × Answer)} (h : Stage size past s) :
    Stage size (past ++ [(.stop, (exec Call.stop.carryOut s).1)]) (exec Call.stop.carryOut s).2 := by
  have hstopped := stopped_of_stop h.serving
  rw [Call.carryOut, exec_map]
  generalize (exec Simulation.stop s).2 = t at hstopped ⊢
  refine ⟨hstopped.serving, ?_, ?_, ?_⟩
  · simp [IsUp, sinceStop_stop, hstopped.isRunning]
  · simp [IsWatched, sinceStop_stop, hstopped.watchdog]
  · rintro id ⟨handler, group, hmem⟩
    have hpast : IsRegistered past id := ⟨handler, group, by simpa using hmem⟩
    rw [hstopped.nextId]
    exact h.registered id hpast

theorem Stage.between {past : List (Call × Answer)} (h : Stage size past s) {c : Call}
    (hstart : c ≠ .start) (hstop : c ≠ .stop) :
    Stage size (past ++ [(c, (exec c.carryOut s).1)]) (exec c.carryOut s).2 := by
  have hlasting := lasting_steady size s.dispatcher.isRunning s.dispatcher.nextId s.watchdog.isSome
  have hkept := hlasting.between hstart hstop
    ⟨⟨h.serving, rfl, Nat.le_refl _⟩, rfl, .refl _ s⟩
  obtain ⟨⟨hserving, hrunning, hnextId⟩, hwatchdog, -⟩ := hkept
  refine ⟨hserving, ?_, ?_, ?_⟩
  · rw [hrunning, isUp_between _ _ hstart hstop]
    exact h.isRunning
  · rw [hwatchdog, isWatched_between _ _ hstart hstop]
    exact h.watchdog
  · rintro id ⟨handler, group, hmem⟩
    rcases List.mem_append.1 hmem with hold | hnew
    · exact Nat.lt_of_lt_of_le (h.registered id ⟨handler, group, hold⟩) hnextId
    · obtain ⟨rfl, hid⟩ := Prod.mk.inj (List.mem_singleton.1 hnew)
      obtain rfl := Answer.registered.inj hid
      exact Nat.lt_succ_self _

/-- From a stage of its life each call brings a client to the next. -/
theorem Stage.next {past : List (Call × Answer)} (h : Stage size past s) (c : Call) :
    Stage size (past ++ [(c, (exec c.carryOut s).1)]) (exec c.carryOut s).2 := by
  by_cases hstart : c = .start
  · subst hstart
    exact h.start
  · by_cases hstop : c = .stop
    · subst hstop
      exact h.stop
    · exact h.between hstart hstop

theorem Stage.session {past : List (Call × Answer)} (h : Stage size past s) (calls : List Call) :
    Stage size (past ++ (exec (session calls) s).1) (exec (session calls) s).2 := by
  induction calls generalizing past s with
  | nil =>
    show Stage size (past ++ []) s
    rw [List.append_nil]
    exact h
  | cons c rest ih =>
    have hlast := ih (h.next c)
    rw [List.append_assoc] at hlast
    exact hlast

/-! ## What is over -/

/-- Nobody asks for the state. -/
def IsNoProbe (o : Occurrence) : Prop := ∀ reply, o ≠ .sent .getState reply

theorem lasting_unwatched : Lasting (fun _ => True) (· = none) IsNoProbe where
  kept := (Dispatcher.kept_of_sameSetup fun _ _ _ _ => trivial).imp fun e _ reply => by
    cases e with
    | called id argument => exact nofun
    | reported notice => exact nofun
  reported _ _ := nofun
  probing h := nomatch h
  enqueue _ _ := trivial
  addHandler _ _ _ := trivial
  removeHandler _ _ _ := trivial
  sent _ _ hrequest _ hsent := by
    obtain ⟨rfl, -⟩ := Occurrence.sent.inj hsent
    exact hrequest

/-- Without a watchdog nobody asks for the state. -/
theorem seen_of_no_watchdog (h : s.watchdog = none) (c : Call) :
    SeenSince IsNoProbe s.observations (exec c.carryOut s).2 := by
  have hbefore : Invariant (fun _ => True) (· = none) IsNoProbe s.observations s :=
    ⟨trivial, h, .refl _ s⟩
  exact (lasting_unwatched.carryOut (fun _ _ => trivial) (fun _ _ => trivial) (fun _ _ => trivial)
    rfl hbefore c).seen

/-- Nobody is called but handlers that were registered later. -/
def IsCallFrom (bound : HandlerId) (o : Occurrence) : Prop :=
  ∀ id argument, o = .called id argument → bound ≤ id

/-- There is nobody to be called but handlers that were registered later. -/
def Renewed (bound : HandlerId) (d : Dispatcher) : Prop :=
  d.Only (bound ≤ ·) ∧ bound ≤ d.nextId

theorem lasting_renewed (bound : HandlerId) :
    Lasting (Renewed bound) (fun _ => True) (IsCallFrom bound) where
  kept := by
    refine ((Dispatcher.kept_only (bound ≤ ·)).and (Dispatcher.kept_of_sameSetup ?_)).imp ?_
    · intro d d' hsame hd
      rw [hsame.nextId]
      exact hd
    · rintro e ⟨hcalls, -⟩ id argument he
      cases e with
      | called id' argument' =>
        obtain ⟨rfl, rfl⟩ := Occurrence.called.inj he
        exact hcalls _ _ rfl
      | reported notice => cases he
  reported _ _ _ := nofun
  probing _ := ⟨fun _ => trivial, fun _ _ _ _ => nofun⟩
  enqueue _ hd := ⟨⟨hd.1.registered, hd.1.underWay⟩, hd.2⟩
  addHandler handler group hd := ⟨hd.1.addHandler handler group hd.2, Nat.le_succ_of_le hd.2⟩
  removeHandler {d} id group hd := by
    refine ⟨hd.1.removeHandler id group, ?_⟩
    obtain ⟨registry, hframe⟩ := d.removeHandler_frame id group
    rw [hframe]
    exact hd.2
  sent _ _ _ _ _ := nofun

/-- It stays like that, whatever happens to the client. -/
theorem renewed_session {bound : HandlerId} {earlier : List Observation}
    (h : Invariant (Renewed bound) (fun _ => True) (IsCallFrom bound) earlier s)
    (calls : List Call) :
    Invariant (Renewed bound) (fun _ => True) (IsCallFrom bound) earlier
      (exec (session calls) s).2 := by
  induction calls generalizing s with
  | nil => exact h
  | cons c rest ih =>
    apply ih
    refine (lasting_renewed bound).carryOut ?_ ?_ ?_ trivial h c
    · intro d hd
      unfold Dispatcher.start
      split
      · exact hd
      · exact ⟨⟨hd.1.registered, hd.1.underWay⟩, hd.2⟩
    · intro d hd
      unfold Dispatcher.beginStop
      split
      · exact ⟨⟨hd.1.registered, hd.1.underWay⟩, hd.2⟩
      · exact hd
    · exact fun d hd => ⟨⟨fun r hr => absurd hr List.not_mem_nil, hd.1.underWay⟩, hd.2⟩

/-! ## The whole life -/

/-- How things are with a client that has been through this past since it was made. -/
structure Lifecycle (workers : Nat) (past : List (Call × Answer)) (s : Simulation) : Prop where
  isRunning : s.dispatcher.isRunning ↔ IsUp past
  /-- A start brings all workers, even if it fails. -/
  up : IsUp past → s.dispatcher.live = max 1 workers
  /-- A stop waits until the last has left. -/
  down : ¬ IsUp past → s.dispatcher.live = 0
  watchdog : s.watchdog.isSome ↔ IsWatched past
  /-- Workers that run are not started again. -/
  upAlready : IsUp past → exec startWorkers s = ((), s)
  /-- Where there is a watchdog, too, a start does nothing but catch up. -/
  watchedAlready : IsWatched past → exec start s = exec catchUp s
  /-- Without a watchdog nobody asks for the state, and a start that succeeds is the first to
  bring one. -/
  silent : ¬ IsWatched past → ∀ c : Call, SeenSince IsNoProbe s.observations (exec c.carryOut s).2
  /-- A stop of running workers is the end of all registrations: whatever is done behind it,
  whoever is called then was not registered before. -/
  forgotten : IsUp past → ∀ later : List Call, SeenSince
    (fun o => ∀ id argument, o = .called id argument → ¬ IsRegistered past id)
    (exec stop s).2.observations (exec (session later) (exec stop s).2).2

theorem SeenSince.imp {E E' : Occurrence → Prop} {earlier : List Observation}
    (h : SeenSince E earlier s) (hE : ∀ o, E o → E' o) : SeenSince E' earlier s := by
  obtain ⟨new, hnew, hall⟩ := h
  exact ⟨new, hnew, fun o ho => hE _ (hall o ho)⟩

theorem Stage.forgotten {past : List (Call × Answer)} (h : Stage size past s) (hup : IsUp past)
    (later : List Call) :
    SeenSince (fun o => ∀ id argument, o = .called id argument → ¬ IsRegistered past id)
      (exec Simulation.stop s).2.observations
      (exec (Simulation.session later) (exec Simulation.stop s).2).2 := by
  have hstopped := stopped_of_stop h.serving
  generalize (exec Simulation.stop s).2 = t at hstopped ⊢
  obtain ⟨hregistry, hbusy⟩ := hstopped.empty (h.isRunning.2 hup)
  have hrenewed : Renewed s.dispatcher.nextId t.dispatcher :=
    ⟨.of_empty hregistry hbusy, Nat.le_of_eq hstopped.nextId.symm⟩
  refine (renewed_session ⟨hrenewed, trivial, .refl _ t⟩ later).seen.imp ?_
  intro o hfrom id argument ho hregistered
  exact Nat.not_lt.2 (hfrom id argument ho) (h.registered id hregistered)

theorem Stage.lifecycle {workers : Nat} {past : List (Call × Answer)}
    (h : Stage (max 1 workers) past s) : Lifecycle workers past s where
  isRunning := h.isRunning
  up hup := by rw [h.serving.live, if_pos (h.isRunning.2 hup)]
  down hdown := by rw [h.serving.live, if_neg (mt h.isRunning.1 hdown)]
  watchdog := h.watchdog
  upAlready hup := exec_startWorkers_of_isRunning (h.isRunning.2 hup)
  watchedAlready hwatched := by
    have hrunning := h.isRunning.2 hwatched.isUp
    have hcaughtUp := (lasting_steady _ true s.dispatcher.nextId true).catchUp
      ⟨⟨h.serving, hrunning, Nat.le_refl _⟩, h.watchdog.2 hwatched, .refl _ s⟩
    rw [exec_start, exec_startWorkers_of_isRunning hrunning, exec_watch]
    have hthere : (exec catchUp s).2.watchdog.isNone = false := by
      simpa using hcaughtUp.watchdog
    simp [hthere]
  silent hunwatched c := by
    have hnone : s.watchdog = none := by simpa using mt h.watchdog.1 hunwatched
    exact seen_of_no_watchdog hnone c
  forgotten := h.forgotten

/-- After any sequence of calls there are all workers if a start, successful or not, came after
the last stop, and none otherwise; there is a watchdog if a successful start came after it, and
none otherwise; more starts add nothing; and what a stop has ended does not come back. -/
theorem session_lifecycle (config : Config) (script : Script) (records : Records)
    (calls : List Call) :
    Lifecycle config.workers (exec (session calls) (ofConfig config script records)).1
      (exec (session calls) (ofConfig config script records)).2 := by
  apply Stage.lifecycle
  have hbegin : Stage (max 1 config.workers) [] (ofConfig config script records) := by
    refine ⟨Dispatcher.serving_ofWorkers _ _, ?_, ?_, ?_⟩
    · simp [IsUp, sinceStop, ofConfig, Dispatcher.ofWorkers]
    · simp [IsWatched, sinceStop, ofConfig]
    · rintro id ⟨_, _, hmem⟩
      cases hmem
  exact hbegin.session calls

end Simulation

end UpdatePipeline
