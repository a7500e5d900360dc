import Mathlib.Data.List.Induction
import UpdatePipeline.Dispatcher.Running
import UpdatePipeline.Proofs.Delivery
import UpdatePipeline.Proofs.Registry
set_option autoImplicit false

/-!
# What goes on in a dispatcher that is left to itself

Idle workers take items, callbacks end, and time passes: that is all that can happen to a
dispatcher between two operations.  So what each of these three keeps holds after any wait
(`Dispatcher.Kept.runUntil`, `Dispatcher.Kept.drain`).  When the idle workers have taken what
they could, none is idle or nothing is left (`Dispatcher.drain_rests`).
-/

namespace UpdatePipeline

/-- The first element of which it holds is found, and taken out. -/
theorem find?_eraseP_of_split {α : Type} {f : α → Bool} {front : List α} {x : α}
    (back : List α) (hx : f x) (hfront : ∀ y ∈ front, !f y) :
    (front ++ x :: back).find? f = some x ∧ (front ++ x :: back).eraseP f = front ++ back := by
  constructor
  · exact List.find?_eq_some_iff_append.2 ⟨hx, front, back, rfl, hfront⟩
  · rw [List.eraseP_append_right _ (fun y hy => by simpa using hfront y hy),
      List.eraseP_cons_of_pos hx]

namespace Dispatcher

/-- What a delivery comes to concerns nothing but who is idle and who is busy. -/
theorem settleWorker_frame (d : Dispatcher) (clock : Clock) (status : Delivery.Status) :
    ∃ idle busy, (d.settleWorker clock status).1 = { d with idle, busy } := by
  cases status with
  | finished endedBy =>
    simp only [settleWorker]
    split
    · exact ⟨d.idle, d.busy, rfl⟩
    · exact ⟨d.idle + 1, d.busy, rfl⟩
  | suspended delay s => exact ⟨d.idle, _, rfl⟩

/-- To take a registration back concerns nothing but the registry. -/
theorem removeHandler_frame (d : Dispatcher) (id : HandlerId) (group : Int32) :
    ∃ registry, (d.removeHandler id group).2 = { d with registry } := by
  unfold removeHandler
  split
  · exact ⟨_, rfl⟩
  · exact ⟨d.registry, rfl⟩

/-- What can come of an idle worker's taking an item. -/
inductive Takes (d : Dispatcher) (clock : Clock) :
    List Delivery.Event × Dispatcher × Clock → Prop where
  | leave {idle : Nat} {queue : List QueueItem} :
      d.idle = idle + 1 → d.queue = .stop :: queue → Takes d clock ([], { d with idle, queue }, clock)
  | deliver {idle : Nat} {envelope : Envelope} {queue : List QueueItem} :
      d.idle = idle + 1 → d.queue = .envelope envelope :: queue →
      Takes d clock
        ((Delivery.begin d.registry ⟨envelope, (d.caches.read envelope).1⟩).1,
          settleWorker { d with idle, queue, caches := (d.caches.read envelope).2 } clock
            (Delivery.begin d.registry ⟨envelope, (d.caches.read envelope).1⟩).2)

theorem pop?_eq_some_iff {d next : Dispatcher} {item : QueueItem} :
    d.pop? = some (item, next) ↔ ∃ idle queue, d.idle = idle + 1 ∧ d.queue = item :: queue ∧
      next = { d with idle, queue } := by
  unfold pop?
  constructor
  · intro h
    split at h
    · rename_i idle first queue hidle hqueue
      obtain ⟨rfl, rfl⟩ := Prod.mk.inj (Option.some.inj h)
      exact ⟨idle, queue, hidle, hqueue, rfl⟩
    · cases h
  · rintro ⟨idle, queue, hidle, hqueue, rfl⟩
    rw [hidle, hqueue]

/-- Unless no worker is idle or nothing waits, an item can be taken. -/
theorem pop?_eq_none_iff {d : Dispatcher} : d.pop? = none ↔ d.idle = 0 ∨ d.queue = [] := by
  unfold pop?
  cases d.idle <;> cases d.queue <;> simp

theorem takes_of_take? {d : Dispatcher} {clock : Clock}
    {r : List Delivery.Event × Dispatcher × Clock} (h : d.take? clock = some r) :
    Takes d clock r := by
  unfold take? at h
  split at h
  · rename_i next hpop
    obtain ⟨idle, queue, hidle, hqueue, rfl⟩ := pop?_eq_some_iff.1 hpop
    obtain rfl := Option.some.inj h
    exact .leave hidle hqueue
  · rename_i envelope next hpop
    obtain ⟨idle, queue, hidle, hqueue, rfl⟩ := pop?_eq_some_iff.1 hpop
    obtain rfl := Option.some.inj h
    exact .deliver hidle hqueue
  · cases h

/-- What can come of the end of a callback. -/
inductive Resumes (d : Dispatcher) (timer : Timer) (clock : Clock) :
    List Delivery.Event × Dispatcher × Clock → Prop where
  /-- Nobody waits for it. -/
  | nothing : (∀ w ∈ d.busy, w.timer ≠ timer) → Resumes d timer clock ([], d, clock)
  | goOn {front back : List BusyWorker} {worker : BusyWorker} :
      d.busy = front ++ worker :: back →
      Resumes d timer clock (worker.delivery.resume.1,
        settleWorker { d with busy := front ++ back } clock worker.delivery.resume.2)

/-- The first worker that waits for the timer goes on. -/
theorem resume_of_split {d : Dispatcher} {timer : Timer} {front back : List BusyWorker}
    {worker : BusyWorker} (hbusy : d.busy = front ++ worker :: back)
    (htimer : worker.timer == timer) (hfront : ∀ w ∈ front, !(w.timer == timer)) (clock : Clock) :
    d.resume timer clock = (worker.delivery.resume.1,
      settleWorker { d with busy := front ++ back } clock worker.delivery.resume.2) := by
  obtain ⟨hfind, herase⟩ :=
    find?_eraseP_of_split (f := fun w : BusyWorker => w.timer == timer) back htimer hfront
  unfold resume
  simp only [hbusy, hfind, herase]

theorem resumes_resume (d : Dispatcher) (timer : Timer) (clock : Clock) :
    Resumes d timer clock (d.resume timer clock) := by
  cases hfind : d.busy.find? (·.timer == timer) with
  | none =>
    unfold resume
    rw [hfind]
    exact .nothing fun w hw => by simpa using List.find?_eq_none.1 hfind w hw
  | some worker =>
    obtain ⟨htimer, front, back, hbusy, hfront⟩ := List.find?_eq_some_iff_append.1 hfind
    rw [resume_of_split hbusy htimer hfront]
    exact .goOn hbusy

/-- It holds of what the dispatcher has come to, and only such events were seen. -/
def Outcome (I : Dispatcher → Clock → Prop) (E : Delivery.Event → Prop)
    (r : List Delivery.Event × Dispatcher × Clock) : Prop :=
  I r.2.1 r.2.2 ∧ ∀ e ∈ r.1, E e

section Outcome

variable {I : Dispatcher → Clock → Prop} {E : Delivery.Event → Prop} {d : Dispatcher}
  {clock : Clock}

theorem Outcome.nil (hd : I d clock) : Outcome I E ([], d, clock) :=
  ⟨hd, fun _ he => nomatch he⟩

theorem Outcome.append {events more : List Delivery.Event} (hevents : ∀ e ∈ events, E e)
    (h : Outcome I E (more, d, clock)) : Outcome I E (events ++ more, d, clock) := by
  refine ⟨h.1, ?_⟩
  intro e he
  rcases List.mem_append.1 he with hfirst | hlater
  · exact hevents e hfirst
  · exact h.2 e hlater

end Outcome

/-- What goes on to hold while workers and time take their steps, in which only events of
this kind are seen. -/
structure Kept (I : Dispatcher → Clock → Prop) (E : Delivery.Event → Prop) : Prop where
  take : ∀ {d : Dispatcher} {clock : Clock} {r : List Delivery.Event × Dispatcher × Clock},
    I d clock → d.take? clock = some r → Outcome I E r
  resume : ∀ {d : Dispatcher} {clock : Clock} (timer : Timer), I d clock →
    Outcome I E (d.resume timer clock)
  pass : ∀ {d : Dispatcher} {clock : Clock} (t : Instant), I d clock → I d (clock.moveTo t)

namespace Kept

variable {I : Dispatcher → Clock → Prop} {E : Delivery.Event → Prop} {d : Dispatcher}
  {clock : Clock}

theorem and {I' : Dispatcher → Clock → Prop} {E' : Delivery.Event → Prop} (h : Kept I E)
    (h' : Kept I' E') : Kept (fun d clock => I d clock ∧ I' d clock) (fun e => E e ∧ E' e) where
  take hd htake :=
    have hfirst := h.take hd.1 htake
    have hsecond := h'.take hd.2 htake
    ⟨⟨hfirst.1, hsecond.1⟩, fun e he => ⟨hfirst.2 e he, hsecond.2 e he⟩⟩
  resume timer hd :=
    have hfirst := h.resume timer hd.1
    have hsecond := h'.resume timer hd.2
    ⟨⟨hfirst.1, hsecond.1⟩, fun e he => ⟨hfirst.2 e he, hsecond.2 e he⟩⟩
  pass t hd := ⟨h.pass t hd.1, h'.pass t hd.2⟩

theorem imp {E' : Delivery.Event → Prop} (h : Kept I E) (hE : ∀ e, E e → E' e) : Kept I E' where
  take hd htake :=
    have hnext := h.take hd htake
    ⟨hnext.1, fun e he => hE e (hnext.2 e he)⟩
  resume timer hd :=
    have hnext := h.resume timer hd
    ⟨hnext.1, fun e he => hE e (hnext.2 e he)⟩
  pass t hd := h.pass t hd

theorem takeUpTo (h : Kept I E) (count : Nat) (hd : I d clock) :
    Outcome I E (d.takeUpTo count clock) := by
  induction count generalizing d clock with
  | zero =>
    rw [Dispatcher.takeUpTo]
    exact .nil hd
  | succ count ih =>
    rw [Dispatcher.takeUpTo]
    cases htake : d.take? clock with
    | none => exact .nil hd
    | some taken =>
      obtain ⟨hnext, hevents⟩ := h.take hd htake
      exact .append hevents (ih hnext)

theorem drain (h : Kept I E) (hd : I d clock) : Outcome I E (d.drain clock) :=
  h.takeUpTo d.queue.length hd

theorem finishCallback (h : Kept I E) (timer : Timer) (hd : I d clock) :
    Outcome I E (d.finishCallback timer clock) := by
  have hresumed := h.resume timer hd
  rw [Dispatcher.finishCallback]
  rcases hresume : d.resume timer clock with ⟨events, next, clock'⟩
  rw [hresume] at hresumed
  by_cases hidle : d.idle = 0
  · simp only [hidle, if_true]
    exact .append hresumed.2 (h.drain hresumed.1)
  · simp only [hidle, if_false]
    exact hresumed

theorem runCallbacks (h : Kept I E) (limit : Instant) (count : Nat) (hd : I d clock) :
    I (d.runCallbacks count limit clock).2.1 (d.runCallbacks count limit clock).2.2 ∧
      ∀ e ∈ (d.runCallbacks count limit clock).1, E e.2 := by
  induction count generalizing d clock with
  | zero =>
    rw [Dispatcher.runCallbacks]
    exact ⟨hd, fun _ he => nomatch he⟩
  | succ count ih =>
    rw [Dispatcher.runCallbacks]
    cases hnext : d.nextTimer? with
    | none => exact ⟨hd, fun _ he => nomatch he⟩
    | some timer =>
      by_cases hdue : timer.due < limit
      · obtain ⟨hfinished, hevents⟩ := h.finishCallback timer (h.pass timer.due hd)
        obtain ⟨hlast, hmore⟩ := ih hfinished
        simp only [hdue, if_true]
        refine ⟨hlast, ?_⟩
        intro e he
        rcases List.mem_append.1 he with hfirst | hlater
        · obtain ⟨event, hevent, rfl⟩ := List.mem_map.1 hfirst
          exact hevents event hevent
        · exact hmore e hlater
      · simp only [hdue, if_false]
        exact ⟨hd, fun _ he => nomatch he⟩

theorem runUntil (h : Kept I E) (limit : Instant) (hd : I d clock) :
    I (d.runUntil limit clock).2.1 (d.runUntil limit clock).2.2 ∧
      ∀ e ∈ (d.runUntil limit clock).1, E e.2 :=
  h.runCallbacks limit d.load hd

end Kept

/-! ## What is left alone -/

/-- These dispatchers have the same registrations and are in the same stage of their life. -/
structure SameSetup (d d' : Dispatcher) : Prop where
  workers : d'.workers = d.workers
  registry : d'.registry = d.registry
  nextId : d'.nextId = d.nextId
  isRunning : d'.isRunning = d.isRunning
  isDropped : d'.isDropped = d.isDropped

theorem SameSetup.refl (d : Dispatcher) : SameSetup d d := ⟨rfl, rfl, rfl, rfl, rfl⟩

theorem SameSetup.settleWorker {d d' : Dispatcher} (h : SameSetup d d') (clock : Clock)
    (status : Delivery.Status) : SameSetup d (d'.settleWorker clock status).1 := by
  obtain ⟨idle, busy, hframe⟩ := d'.settleWorker_frame clock status
  rw [hframe]
  exact ⟨h.workers, h.registry, h.nextId, h.isRunning, h.isDropped⟩

/-- Neither registrations nor starts and stops are the workers' business. -/
theorem kept_sameSetup (d : Dispatcher) : Kept (fun d' _ => SameSetup d d') (fun _ => True) where
  take := by
    intro d' clock r hd htake
    refine ⟨?_, fun _ _ => trivial⟩
    cases takes_of_take? htake with
    | leave _ _ => exact ⟨hd.workers, hd.registry, hd.nextId, hd.isRunning, hd.isDropped⟩
    | deliver _ _ =>
      apply SameSetup.settleWorker
      exact ⟨hd.workers, hd.registry, hd.nextId, hd.isRunning, hd.isDropped⟩
  resume := by
    intro d' clock timer hd
    refine ⟨?_, fun _ _ => trivial⟩
    have hresumes := resumes_resume d' timer clock
    generalize d'.resume timer clock = r at hresumes ⊢
    cases hresumes with
    | nothing _ => exact hd
    | goOn _ =>
      apply SameSetup.settleWorker
      exact ⟨hd.workers, hd.registry, hd.nextId, hd.isRunning, hd.isDropped⟩
  pass t hd := hd

/-- So whatever is only about these is kept. -/
theorem kept_of_sameSetup {J : Dispatcher → Prop}
    (hJ : ∀ d d', SameSetup d d' → J d → J d') : Kept (fun d _ => J d) (fun _ => True) where
  take := by
    intro d clock r hd htake
    have hsame := (kept_sameSetup d).take (.refl d) htake
    exact ⟨hJ d _ hsame.1 hd, hsame.2⟩
  resume := by
    intro d clock timer hd
    have hsame : Outcome _ _ (d.resume timer clock) := (kept_sameSetup d).resume timer (.refl d)
    exact ⟨hJ d _ hsame.1 hd, hsame.2⟩
  pass t hd := hd

/-! ## Who is called -/

/-- Only handlers with ids of this kind are there to be called. -/
structure Only (P : HandlerId → Prop) (d : Dispatcher) : Prop where
  registered : ∀ r ∈ d.registry.toList, P r.id
  underWay : ∀ w ∈ d.busy, ∀ r ∈ w.delivery.rest, P r.id

/-- If it is a call then one of these handlers. -/
def Calls (P : HandlerId → Prop) (e : Delivery.Event) : Prop :=
  ∀ id argument, e = .called id argument → P id

theorem Only.settleWorker {P : HandlerId → Prop} {d : Dispatcher} (h : Only P d) (clock : Clock)
    {status : Delivery.Status}
    (hrest : ∀ delay s, status = .suspended delay s → ∀ r ∈ s.rest, P r.id) :
    Only P (d.settleWorker clock status).1 := by
  cases status with
  | finished endedBy =>
    rw [Dispatcher.settleWorker]
    split
    · exact h
    · exact ⟨h.registered, h.underWay⟩
  | suspended delay s =>
    refine ⟨h.registered, ?_⟩
    intro w hw
    rcases List.mem_append.1 hw with hold | hnew
    · exact h.underWay w hold
    · rw [List.mem_singleton.1 hnew]
      exact hrest delay s rfl

theorem Only.of_empty {P : HandlerId → Prop} {d : Dispatcher} (hregistry : d.registry = Registry.empty)
    (hbusy : d.busy = []) : Only P d := by
  constructor
  · intro r hr
    rw [hregistry] at hr
    cases hr
  · intro w hw
    rw [hbusy] at hw
    cases hw

theorem Only.addHandler {P : HandlerId → Prop} {d : Dispatcher} (h : Only P d) (handler : Handler)
    (group : Int32) (hnew : P d.nextId) : Only P (d.addHandler handler group).2 := by
  refine ⟨?_, h.underWay⟩
  intro r hr
  rcases Registry.mem_toList_add.1 hr with rfl | hold
  · exact hnew
  · exact h.registered r hold

theorem Only.removeHandler {P : HandlerId → Prop} {d : Dispatcher} (h : Only P d) (id : HandlerId)
    (group : Int32) : Only P (d.removeHandler id group).2 := by
  unfold Dispatcher.removeHandler
  split
  · rename_i registry hremove
    exact ⟨fun r hr => h.registered r (Registry.mem_toList_of_remove hremove hr), h.underWay⟩
  · exact h

/-- Workers call nobody who was not there to be called. -/
theorem kept_only (P : HandlerId → Prop) : Kept (fun d _ => Only P d) (Calls P) where
  take := by
    intro d clock r hd htake
    cases takes_of_take? htake with
    | leave _ _ => exact ⟨⟨hd.registered, hd.underWay⟩, fun _ he => nomatch he⟩
    | deliver _ _ =>
      constructor
      · apply Only.settleWorker
        · exact ⟨hd.registered, hd.underWay⟩
        · intro delay s hs r hr
          obtain ⟨-, tried, r', hsplit⟩ := Delivery.split_of_walk hs
          apply hd.registered
          rw [hsplit]
          exact List.mem_append_right _ (List.mem_cons_of_mem _ hr)
      · rintro e he id argument rfl
        obtain ⟨r, hr, rfl⟩ := Delivery.registered_of_walk he
        exact hd.registered r hr
  resume := by
    intro d clock timer hd
    have hresumes := resumes_resume d timer clock
    generalize d.resume timer clock = r at hresumes ⊢
    cases hresumes with
    | nothing _ => exact .nil hd
    | @goOn front back worker hbusy =>
      have hworker : worker ∈ d.busy := by simp [hbusy]
      have hothers : ∀ w ∈ front ++ back, w ∈ d.busy := by
        intro w hw
        rw [hbusy, List.mem_append, List.mem_cons]
        exact (List.mem_append.1 hw).imp_right .inr
      constructor
      · apply Only.settleWorker
        · exact ⟨hd.registered, fun w hw => hd.underWay w (hothers w hw)⟩
        · intro delay s hs r hr
          obtain ⟨-, tried, r', hsplit⟩ := Delivery.split_of_resume hs
          apply hd.underWay _ hworker
          rw [hsplit]
          exact List.mem_append_right _ (List.mem_cons_of_mem _ hr)
      · rintro e he id argument rfl
        obtain ⟨r, hr, rfl⟩ := Delivery.registered_of_resume he
        exact hd.underWay _ hworker r hr
  pass t hd := hd

/-! ## Rest -/

variable {d : Dispatcher} {clock : Clock}

theorem rests_of_take?_eq_none (h : d.take? clock = none) : d.idle = 0 ∨ d.queue = [] := by
  unfold take? at h
  split at h
  · cases h
  · cases h
  · rename_i hpop
    exact pop?_eq_none_iff.1 hpop

theorem length_queue_take? {r : List Delivery.Event × Dispatcher × Clock}
    (h : d.take? clock = some r) : d.queue.length = r.2.1.queue.length + 1 := by
  cases takes_of_take? h with
  | leave _ hqueue =>
    rw [hqueue]
    rfl
  | deliver _ hqueue =>
    obtain ⟨idle, busy, hframe⟩ := settleWorker_frame _ clock _
    rw [hqueue, hframe]
    rfl

theorem takeUpTo_rests {count : Nat} (hcount : d.queue.length ≤ count) :
    (d.takeUpTo count clock).2.1.idle = 0 ∨ (d.takeUpTo count clock).2.1.queue = [] := by
  induction count generalizing d clock with
  | zero => exact .inr (List.eq_nil_of_length_eq_zero (Nat.le_zero.1 hcount))
  | succ count ih =>
    unfold takeUpTo
    cases htake : d.take? clock with
    | none => exact rests_of_take?_eq_none htake
    | some taken =>
      obtain ⟨events, next, clock'⟩ := taken
      apply ih
      have hlength : d.queue.length = next.queue.length + 1 := length_queue_take? htake
      omega

/-- Idle workers take items until none is idle or nothing is left. -/
theorem drain_rests (d : Dispatcher) (clock : Clock) :
    (d.drain clock).2.1.idle = 0 ∨ (d.drain clock).2.1.queue = [] :=
  takeUpTo_rests (Nat.le_refl _)

/-- The first timer is that of a worker, and there is one as long as a worker is busy. -/
theorem nextTimer?_cases (d : Dispatcher) :
    (d.nextTimer? = none ∧ d.busy = []) ∨
      ∃ timer, d.nextTimer? = some timer ∧ ∃ w ∈ d.busy, w.timer = timer := by
  unfold nextTimer?
  induction d.busy using List.reverseRecOn with
  | nil => exact .inl ⟨rfl, rfl⟩
  | append_singleton busy w ih =>
    right
    rw [List.foldl_append]
    rcases ih with ⟨hnone, -⟩ | ⟨timer, hsome, v, hv, htimer⟩
    · rw [hnone]
      exact ⟨w.timer, rfl, w, by simp, rfl⟩
    · rw [hsome, List.foldl_cons, List.foldl_nil]
      simp only
      split
      · exact ⟨w.timer, rfl, w, by simp, rfl⟩
      · exact ⟨timer, rfl, v, List.mem_append_left _ hv, htimer⟩

/-! ## Load -/

/-- What the deliveries under way add to the load. -/
def workload (busy : List BusyWorker) : Nat :=
  busy.foldr (fun worker n => worker.delivery.rest.length + 1 + n) 0

theorem workload_cons (worker : BusyWorker) (busy : List BusyWorker) :
    workload (worker :: busy) = worker.delivery.rest.length + 1 + workload busy := rfl

theorem workload_append (busy more : List BusyWorker) :
    workload (busy ++ more) = workload busy + workload more := by
  induction busy with
  | nil => exact (Nat.zero_add _).symm
  | cons worker busy ih =>
    rw [List.cons_append, workload_cons, workload_cons, ih]
    omega

theorem load_eq (d : Dispatcher) :
    d.load = d.queue.length * (d.registry.toList.length + 1) + workload d.busy := rfl

/-- What a delivery that has come to a status adds to the load. -/
def pending : Delivery.Status → Nat
  | .finished _ => 0
  | .suspended _ s => s.rest.length + 1

theorem load_settleWorker (d : Dispatcher) (clock : Clock) (status : Delivery.Status) :
    (d.settleWorker clock status).1.load = d.load + pending status := by
  cases status with
  | finished endedBy =>
    simp only [settleWorker]
    split <;> rfl
  | suspended delay s =>
    rw [settleWorker, load_eq, load_eq, workload_append, Nat.add_assoc]
    rfl

/-- What a delivery can still come to is bounded by the registrations. -/
theorem pending_begin_le (r : Registry) (parcel : Delivery.Parcel) :
    pending (Delivery.begin r parcel).2 ≤ r.toList.length := by
  cases hstatus : (Delivery.begin r parcel).2 with
  | finished endedBy => exact Nat.zero_le _
  | suspended delay s => exact (Delivery.suspended_of_walk hstatus).2

theorem pending_resume_le (s : Delivery.Suspended) : pending s.resume.2 ≤ s.rest.length := by
  cases hstatus : s.resume.2 with
  | finished endedBy => exact Nat.zero_le _
  | suspended delay s' => exact (Delivery.suspended_of_resume hstatus).2

/-- An item adds to the load as many callbacks as there are registrations, and itself. -/
theorem load_of_queue {item : QueueItem} {queue : List QueueItem} (hqueue : d.queue = item :: queue)
    (idle : Nat) : d.load = load { d with idle, queue } + (d.registry.toList.length + 1) := by
  rw [load_eq, hqueue, List.length_cons, Nat.succ_mul, Nat.add_right_comm]
  rfl

/-- A callback that has ended adds nothing to the load any more. -/
theorem load_of_busy {front back : List BusyWorker} {worker : BusyWorker}
    (hbusy : d.busy = front ++ worker :: back) :
    d.load = load { d with busy := front ++ back } + (worker.delivery.rest.length + 1) := by
  rw [load_eq, load_eq, hbusy, workload_append, workload_append, workload_cons]
  show _ = d.queue.length * (d.registry.toList.length + 1) + _ + _
  omega

/-- Taking an item lowers the load. -/
theorem load_take?_lt {r : List Delivery.Event × Dispatcher × Clock}
    (h : d.take? clock = some r) : r.2.1.load < d.load := by
  cases takes_of_take? h with
  | leave _ hqueue =>
    rw [load_of_queue hqueue _]
    exact Nat.lt_add_of_pos_right (Nat.succ_pos _)
  | @deliver idle envelope queue _ hqueue =>
    rw [load_of_queue hqueue idle]
    show (settleWorker _ clock _).1.load < _
    rw [load_settleWorker]
    exact Nat.add_lt_add_left (Nat.lt_succ_of_le (pending_begin_le _ _)) _

/-- A worker that goes on leaves less to do. -/
theorem load_goOn_lt {front back : List BusyWorker} {worker : BusyWorker}
    (hbusy : d.busy = front ++ worker :: back) (clock : Clock) :
    (settleWorker { d with busy := front ++ back } clock worker.delivery.resume.2).1.load <
      d.load := by
  rw [load_of_busy hbusy, load_settleWorker]
  exact Nat.add_lt_add_left (Nat.lt_succ_of_le (pending_resume_le _)) _

/-- A callback that ends leaves less to do. -/
theorem load_resume_lt {w : BusyWorker} (hw : w ∈ d.busy) (clock : Clock) :
    (d.resume w.timer clock).2.1.load < d.load := by
  have hresumes := d.resumes_resume w.timer clock
  generalize d.resume w.timer clock = r at hresumes
  cases hresumes with
  | nothing hnobody => exact absurd rfl (hnobody w hw)
  | goOn hbusy => exact load_goOn_lt hbusy clock

/-- A dispatcher left to itself never gets more to do. -/
theorem kept_load (bound : Nat) : Kept (fun d _ => d.load ≤ bound) (fun _ => True) where
  take hd htake := ⟨Nat.le_trans (Nat.le_of_lt (load_take?_lt htake)) hd, fun _ _ => trivial⟩
  resume := by
    intro d clock timer hd
    refine ⟨?_, fun _ _ => trivial⟩
    have hresumes := d.resumes_resume timer clock
    generalize d.resume timer clock = r at hresumes ⊢
    cases hresumes with
    | nothing _ => exact hd
    | goOn hbusy => exact Nat.le_trans (Nat.le_of_lt (load_goOn_lt hbusy clock)) hd
  pass t hd := hd

theorem load_finishCallback_lt {w : BusyWorker} (hw : w ∈ d.busy) (clock : Clock) :
    (d.finishCallback w.timer clock).2.1.load < d.load := by
  have hless := load_resume_lt hw clock
  unfold finishCallback
  rcases hresume : d.resume w.timer clock with ⟨events, next, clock'⟩
  rw [hresume] at hless
  by_cases hidle : d.idle = 0
  · have hdrained : Outcome _ _ (next.drain clock') := (kept_load next.load).drain (Nat.le_refl _)
    simp only [hidle, if_true]
    exact Nat.lt_of_le_of_lt hdrained.1 hless
  · simp only [hidle, if_false]
    exact hless

/-- Until an instant by which a callback ends a dispatcher gets something done. -/
theorem load_runUntil_lt {timer : Timer} (htimer : d.nextTimer? = some timer) {limit : Instant}
    (hdue : timer.due < limit) (clock : Clock) : (d.runUntil limit clock).2.1.load < d.load := by
  rcases d.nextTimer?_cases with ⟨hnone, -⟩ | ⟨timer', hsome, w, hw, rfl⟩
  · cases hnone.symm.trans htimer
  · obtain rfl := Option.some.inj (hsome.symm.trans htimer)
    have hpos : 0 < d.load := Nat.zero_lt_of_lt (load_resume_lt hw clock)
    obtain ⟨count, hcount⟩ := Nat.exists_eq_succ_of_ne_zero (Nat.ne_of_gt hpos)
    have hless := load_finishCallback_lt hw (clock.moveTo w.timer.due)
    rw [runUntil, hcount, runCallbacks, hsome]
    simp only [hdue, if_true]
    rw [← hcount]
    refine Nat.lt_of_le_of_lt ?_ hless
    exact ((kept_load _).runCallbacks limit count (Nat.le_refl _)).1

/-- Who has nothing to do is at rest. -/
theorem rests_of_load_eq_zero (h : d.load = 0) : d.busy = [] ∧ d.queue = [] := by
  rw [load_eq] at h
  constructor
  · cases hbusy : d.busy with
    | nil => rfl
    | cons w rest =>
      rw [hbusy, workload_cons] at h
      omega
  · cases hqueue : d.queue with
    | nil => rfl
    | cons item rest =>
      rw [hqueue, List.length_cons, Nat.succ_mul] at h
      omega

end Dispatcher

end UpdatePipeline
