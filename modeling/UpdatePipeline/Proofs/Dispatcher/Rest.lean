import UpdatePipeline.Proofs.Dispatcher.Scheduling
set_option autoImplicit false

/-!
# A dispatcher comes to rest

A dispatcher that was brought about by the steps of a pool has as many workers as it should
have, and whatever is done to it is done by further steps of the pool.  Left to itself it never
gets more to do, and less with every callback that ends; so once the markers of a stop are in the
queue the workers leave, all of them, after finitely many callbacks.
-/

namespace UpdatePipeline

open Pool (AwaitsWorkers Sound)

namespace Dispatcher

/-- The dispatcher is that of a pool of this size in which no task is in the middle of its turn and
stops have come this far. -/
def OfPool (size : Nat) (S : Option Stop → Prop) (d : Dispatcher) : Prop :=
  ∃ p : Pool, p.dispatcher = d ∧ p.IsQuiet ∧ Sound size p ∧ S p.stop

/-- The dispatcher of a pool of this size, when no stop is under way. -/
def Serving (size : Nat) (d : Dispatcher) : Prop := OfPool size (· = none) d

/-- The dispatcher of a pool of this size, when the markers of a stop are all in the queue. -/
def Leaving (size : Nat) (d : Dispatcher) : Prop := OfPool size AwaitsWorkers d

variable {size : Nat} {S : Option Stop → Prop} {d : Dispatcher}

theorem OfPool.of_reaches {p : Pool} {clock : Clock} (hsound : Sound size p)
    (h : p.Reaches d clock S) : OfPool size S d := by
  obtain ⟨q, hq, hquiet, hdispatcher, -, hS⟩ := h
  exact ⟨q, hdispatcher, hquiet, hq.sound hsound, hS⟩

/-- It makes no difference what time it is. -/
theorem OfPool.exists_at (h : OfPool size S d) (clock : Clock) :
    ∃ p : Pool, p.Reaches d clock S ∧ Sound size p := by
  obtain ⟨p, hp, hquiet, hsound, hS⟩ := h
  let moved : Pool := { p with clock }
  have haccounts : Pool.Accounts [] moved :=
    hsound.accounts.congr rfl rfl ⟨rfl, rfl, rfl, rfl, rfl⟩
  have hstaffed : Pool.Staffed size p.live moved :=
    hsound.staffed.congr ⟨_, _, _, _, _, rfl⟩ ⟨rfl, rfl, rfl⟩
  refine ⟨moved, ⟨moved, .refl moved, ⟨hquiet.hands, hquiet.control⟩, hp, rfl, hS⟩, ?_⟩
  exact ⟨haccounts, hsound.chronicle.congr rfl rfl rfl rfl rfl rfl, hstaffed⟩

/-! ## Operations -/

theorem serving_ofWorkers (workers : Nat) (caches : Parsed.Caches) :
    Serving (max 1 workers) (.ofWorkers workers caches) :=
  ⟨.ofWorkers workers caches, rfl, ⟨rfl, rfl⟩, Pool.sound_ofWorkers workers caches, rfl⟩

theorem Serving.of_reaches {p : Pool} {clock : Clock} (hsound : Sound size p) (hnone : p.stop = none)
    (h : p.Reaches d clock (· = p.stop)) : Serving size d := by
  rw [hnone] at h
  exact OfPool.of_reaches hsound h

theorem Serving.enqueue (h : Serving size d) (envelope : Envelope) :
    Serving size (d.enqueue envelope) := by
  obtain ⟨p, rfl, hquiet, hsound, hnone⟩ := h
  exact .of_reaches hsound hnone (hquiet.reaches_of_act (a := .enqueue envelope) rfl rfl rfl rfl)

theorem Serving.addHandler (h : Serving size d) (handler : Handler) (group : Int32) :
    Serving size (d.addHandler handler group).2 := by
  obtain ⟨p, rfl, hquiet, hsound, hnone⟩ := h
  exact .of_reaches hsound hnone (hquiet.reaches_addHandler handler group)

theorem Serving.removeHandler (h : Serving size d) (id : HandlerId) (group : Int32) :
    Serving size (d.removeHandler id group).2 := by
  obtain ⟨p, rfl, hquiet, hsound, hnone⟩ := h
  exact .of_reaches hsound hnone (hquiet.reaches_removeHandler id group)

theorem Serving.start (h : Serving size d) : Serving size d.start.2 := by
  obtain ⟨p, rfl, hquiet, hsound, hnone⟩ := h
  exact OfPool.of_reaches hsound (hquiet.reaches_start hnone)

/-- There are as many workers as there should be. -/
theorem Serving.live (h : Serving size d) : d.live = if d.isRunning then size else 0 := by
  obtain ⟨p, rfl, hquiet, hsound, hnone⟩ := h
  rw [← hquiet.live_eq]
  cases hrunning : p.dispatcher.isRunning with
  | false => exact (hsound.staffed.resting hrunning).2.1
  | true => exact (hsound.staffed.serving hrunning hnone).1

/-- A stop puts all its markers into the queue. -/
theorem Serving.beginStop (h : Serving size d) (hrunning : d.isRunning) :
    Leaving size d.beginStop := by
  obtain ⟨p, rfl, hquiet, hsound, hnone⟩ := h
  exact .of_reaches hsound (hquiet.reaches_beginStop hrunning hnone)

/-- When they have come to rest, the workers of a stop have left. -/
theorem Leaving.live (h : Leaving size d) (hbusy : d.busy = [])
    (hrest : d.idle = 0 ∨ d.queue = []) : d.live = 0 := by
  obtain ⟨p, rfl, hquiet, hsound, before, behind, hstop⟩ := h
  rw [← hquiet.live_eq]
  apply hsound.staffed.live_eq_zero hstop rfl
  rcases hrest with hidle | hempty
  · left
    rw [hquiet.live_eq, Dispatcher.live, hidle, hbusy]
    rfl
  · exact .inr hempty

theorem Leaving.finishStop (h : Leaving size d) (hlive : d.live = 0) :
    Serving size d.finishStop.2 := by
  obtain ⟨p, rfl, hquiet, hsound, hstop⟩ := h
  exact OfPool.of_reaches hsound (hquiet.reaches_finishStop hstop hlive)

/-! ## Left to itself -/

/-- A dispatcher left to itself goes on being that of its pool. -/
theorem kept_ofPool (size : Nat) (S : Option Stop → Prop) :
    Kept (fun d _ => OfPool size S d) (fun _ => True) where
  take := by
    intro d clock r hd htake
    obtain ⟨p, hp, hsound⟩ := hd.exists_at clock
    have hnext := (Pool.kept_reaches hsound S).take hp htake
    exact ⟨.of_reaches hsound hnext.1, hnext.2⟩
  resume := by
    intro d clock timer hd
    obtain ⟨p, hp, hsound⟩ := hd.exists_at clock
    have hnext : Outcome _ _ (d.resume timer clock) := (Pool.kept_reaches hsound S).resume timer hp
    exact ⟨.of_reaches hsound hnext.1, hnext.2⟩
  pass t hd := hd

end Dispatcher

end UpdatePipeline
