import Mathlib.Logic.Function.Iterate
import UpdatePipeline.Dispatcher.Control
import UpdatePipeline.Proofs.Delivery
import UpdatePipeline.Proofs.Dispatcher.Running
set_option autoImplicit false

/-!
# The pool of workers

A dispatcher, its control task and its workers among their callers are a system that takes one
step after the other.  A worker takes an item from the queue, parses the envelope, and then
delivers it to the registry that is published at that moment; the control task takes a message,
changes its registry, publishes it and answers; a stop puts one marker after the other into the
queue, waits for the workers and has the registrations dropped.  All these are steps of their own,
and others may come between any two of them.  `Pool.act` says what each step does and when it is
possible, in terms of the operations of the dispatcher and of the control task.

Callers return when they are answered.  A pool also keeps a record of what happened: the
envelopes that were enqueued, how many of them were taken, the changes that were acknowledged, and
each delivery with all that has been seen of it.
-/

namespace UpdatePipeline

namespace Dispatcher

/-- Puts one marker at the end of the queue. -/
def mark (d : Dispatcher) : Dispatcher := { d with queue := d.queue ++ [.stop] }

/-- To ask running workers to leave is to put in as many markers as there are workers. -/
theorem beginStop_eq_iterate (d : Dispatcher) (h : d.isRunning) :
    d.beginStop = mark^[d.workers] d := by
  have hmarks : ∀ n, mark^[n] d = { d with queue := d.queue ++ List.replicate n .stop } := by
    intro n
    induction n with
    | zero => simp
    | succ n ih =>
      rw [Function.iterate_succ_apply', ih, mark, List.append_assoc, ← List.replicate_succ']
  rw [hmarks, beginStop, if_pos h]

theorem live_settleWorker {d : Dispatcher} (h : d.isDropped = false) (clock : Clock)
    (status : Delivery.Status) : (d.settleWorker clock status).1.live = d.live + 1 := by
  cases status with
  | finished endedBy => simp [settleWorker, h, live, Nat.add_right_comm]
  | suspended delay s => simp [settleWorker, live, Nat.add_assoc]

end Dispatcher

/-- What can come of a message. -/
theorem Control.receive?_cases {c next : Control} (h : c.receive? = some next) :
    c.turn = .waiting ∧ ∃ change mailbox, c.mailbox = change :: mailbox ∧
      ((∃ registry, c.registry.apply change = .ok registry ∧
          next = ⟨mailbox, registry, .made change⟩) ∨
        ∃ e, c.registry.apply change = .error e ∧
          next = { c with mailbox, turn := .refused e }) := by
  unfold receive? at h
  split at h
  · rename_i change mailbox hturn hmailbox
    refine ⟨hturn, change, mailbox, hmailbox, ?_⟩
    split at h
    · rename_i registry happly
      exact .inl ⟨registry, happly, (Option.some.inj h).symm⟩
    · rename_i e happly
      exact .inr ⟨e, happly, (Option.some.inj h).symm⟩
  · cases h

/-- What is known of a delivery. -/
structure Delivery.Record where
  /-- How many envelopes were taken before. -/
  index : Nat
  /-- The registrations at the moment it began. -/
  registry : Registry
  parcel : Delivery.Parcel
  /-- What has been seen of it. -/
  events : List Delivery.Event

/-- An envelope that a worker has taken and has not begun to deliver. -/
structure Hand where
  /-- How many envelopes were taken before. -/
  index : Nat
  envelope : Envelope
  /-- What it was parsed to, once it was. -/
  parsed : Option (Option Parsed.Update)

/-- A stop that has been called for and has not returned. -/
structure Stop where
  /-- How many envelopes had been enqueued by then. -/
  before : Nat
  /-- How many markers are still to be put into the queue. -/
  left : Nat
  /-- How many envelopes had been enqueued when the last one was. -/
  behind : Nat
  /-- Whether the workers have left, and the registrations are to go. -/
  isClearing : Bool

/-- A dispatcher among its callers, with a record of what happened. -/
structure Pool where
  /-- Its registry is the one that is published. -/
  dispatcher : Dispatcher
  control : Control := {}
  clock : Clock := {}
  stop : Option Stop := none
  /-- The ids under which callers are about to register handlers. -/
  drawn : List HandlerId := []
  /-- All envelopes that were ever put into the queue, in order. -/
  enqueued : List Envelope := []
  /-- How many of them have been taken. -/
  taken : Nat := 0
  /-- The changes that the control task has answered to have been made, in order. -/
  acknowledged : List Registry.Change := []
  /-- What workers have taken and not begun to deliver. -/
  hands : List Hand := []
  /-- The deliveries that wait for a callback, with their workers. -/
  underWay : List (BusyWorker × Delivery.Record) := []
  /-- The deliveries that are over. -/
  delivered : List Delivery.Record := []

namespace Pool

/-- A pool at its beginning. -/
def ofWorkers (workers : Nat) (caches : Parsed.Caches) : Pool where
  dispatcher := .ofWorkers workers caches

/-- How many workers there are. -/
def live (p : Pool) : Nat := p.dispatcher.live + p.hands.length

/-- A step of a pool. -/
inductive Action where
  | enqueue (envelope : Envelope)
  /-- A caller draws an id. -/
  | draw
  /-- It asks the control task to register a handler under an id drawn before. -/
  | sendAdd (id : HandlerId) (handler : Handler) (group : Int32)
  /-- A caller asks the control task to take a registration back. -/
  | sendRemove (id : HandlerId) (group : Int32)
  /-- The control task takes a message and changes its registry. -/
  | receive
  /-- It publishes its registry. -/
  | publish
  /-- It answers a caller. -/
  | acknowledge
  | start
  /-- A stop is called for. -/
  | stop
  /-- A stop puts one of its markers into the queue. -/
  | mark
  /-- A stop sees that no worker is left, and asks the control task to drop all handlers. -/
  | retire
  /-- The control task answers a stop, which returns. -/
  | finishStop
  /-- A worker takes an item. -/
  | take
  /-- A worker parses the envelope with this number. -/
  | parse (index : Nat)
  /-- It begins to deliver it. -/
  | begin (index : Nat)
  /-- The callback with this timer ends. -/
  | resume (timer : Timer)
  /-- Time passes. -/
  | pass (t : Instant)

/-- The pool with a delivery on record that has come to a status. -/
def file (p : Pool) (clock : Clock) (record : Delivery.Record) : Delivery.Status → Pool
  | .finished _ => { p with delivered := p.delivered ++ [record] }
  | .suspended delay delivery =>
    { p with underWay := p.underWay ++ [(⟨clock.timer delay, delivery⟩, record)] }

/-- The pool after an idle worker has taken an item. -/
def take? (p : Pool) : Option Pool :=
  match p.dispatcher.pop? with
  | some (.stop, dispatcher) => some { p with dispatcher }
  | some (.envelope envelope, dispatcher) =>
    some { p with
      dispatcher, taken := p.taken + 1, hands := p.hands ++ [⟨p.taken, envelope, none⟩] }
  | none => none

/-- The pool after the worker that has the envelope with this number has parsed it. -/
def parse? (p : Pool) (index : Nat) : Option Pool :=
  match p.hands.find? (·.index == index) with
  | some ⟨_, envelope, none⟩ =>
    let (parcel, dispatcher) := p.dispatcher.parse envelope
    let others := p.hands.eraseP (·.index == index)
    some { p with dispatcher, hands := others ++ [⟨index, envelope, some parcel.parsed⟩] }
  | _ => none

/-- The pool after that worker has begun to deliver the envelope. -/
def begin? (p : Pool) (index : Nat) : Option Pool :=
  match p.hands.find? (·.index == index) with
  | some ⟨_, envelope, some parsed⟩ =>
    let parcel := ⟨envelope, parsed⟩
    let (events, dispatcher, clock) := p.dispatcher.begin p.clock parcel
    let record := ⟨index, p.dispatcher.registry, parcel, events⟩
    let hands := p.hands.eraseP (·.index == index)
    some ({ p with dispatcher, clock, hands }.file p.clock record
      (Delivery.begin p.dispatcher.registry parcel).2)
  | _ => none

/-- The pool after the callback with this timer has ended. -/
def resume? (p : Pool) (timer : Timer) : Option Pool :=
  match p.underWay.find? (·.1.timer == timer) with
  | none => none
  | some (worker, record) =>
    let (events, dispatcher, clock) := p.dispatcher.resume timer p.clock
    let underWay := p.underWay.eraseP (·.1.timer == timer)
    some ({ p with dispatcher, clock, underWay }.file p.clock
      { record with events := record.events ++ events } worker.delivery.resume.2)

/-- The pool after the control task has answered that a change has been made. -/
def answer (p : Pool) (c : Registry.Change) : Pool :=
  { p with control := p.control.answer, acknowledged := p.acknowledged ++ [c] }

/-- The pool after a step, if it is possible.  Starts and stops wait for one another, and only
they look at whether the workers run. -/
def act (p : Pool) : Action → Option Pool
  | .enqueue envelope =>
    some { p with
      dispatcher := p.dispatcher.enqueue envelope, enqueued := p.enqueued ++ [envelope] }
  | .draw =>
    some { p with
      dispatcher := { p.dispatcher with nextId := p.dispatcher.nextId + 1 }
      drawn := p.drawn ++ [p.dispatcher.nextId] }
  | .sendAdd id handler group =>
    if id ∈ p.drawn then
      some { p with
        control := p.control.send (.add id handler group), drawn := p.drawn.erase id }
    else none
  | .sendRemove id group => some { p with control := p.control.send (.remove id group) }
  | .receive => p.control.receive?.map fun control => { p with control }
  | .publish =>
    match p.control.turn with
    | .made c =>
      some { p with
        dispatcher := { p.dispatcher with registry := p.control.registry }
        control := p.control.publish c }
    | _ => none
  | .acknowledge =>
    match p.control.turn with
    | .published .clear => none
    | .published c => some (p.answer c)
    | .refused _ => some { p with control := p.control.answer }
    | _ => none
  | .start => if p.stop.isSome then none else some { p with dispatcher := p.dispatcher.start.2 }
  | .stop =>
    if p.stop.isSome then none
    else if p.dispatcher.isRunning then
      some { p with
        stop := some ⟨p.enqueued.length, p.dispatcher.workers, p.enqueued.length, false⟩ }
    else some p
  | .mark =>
    match p.stop with
    | some ⟨before, left + 1, _, isClearing⟩ =>
      some { p with
        dispatcher := p.dispatcher.mark
        stop := some ⟨before, left, p.enqueued.length, isClearing⟩ }
    | _ => none
  | .retire =>
    match p.stop with
    | some ⟨before, 0, behind, false⟩ =>
      if p.live = 0 then
        some { p with control := p.control.send .clear, stop := some ⟨before, 0, behind, true⟩ }
      else none
    | _ => none
  | .finishStop =>
    match p.control.turn with
    | .published .clear =>
      some { p.answer .clear with
        dispatcher := { p.dispatcher with isRunning := false }, stop := none }
    | _ => none
  | .take => p.take?
  | .parse index => p.parse? index
  | .begin index => p.begin? index
  | .resume timer => p.resume? timer
  | .pass t => some { p with clock := p.clock.moveTo t }

/-- The pool after these steps; one that is not possible is left out. -/
def run (p : Pool) (actions : List Action) : Pool :=
  actions.foldl (fun p a => (p.act a).getD p) p

/-- The envelope that a step puts into the queue. -/
def Action.envelope? : Action → Option Envelope
  | .enqueue e => some e
  | _ => none

/-- Whether the tasks take a step by themselves, when nobody calls and no time passes. -/
def Action.isOwn : Action → Bool
  | .receive | .publish | .acknowledge | .mark | .retire | .finishStop
  | .take | .parse _ | .begin _ | .resume _ => true
  | _ => false

theorem run_append (p : Pool) (first second : List Action) :
    p.run (first ++ second) = (p.run first).run second := by
  unfold run
  exact List.foldl_append

theorem run_cons_of_act {p q : Pool} {a : Action} (h : p.act a = some q) (rest : List Action) :
    p.run (a :: rest) = q.run rest := by
  unfold run
  rw [List.foldl_cons, h]
  rfl

theorem run_cons_of_act_none {p : Pool} {a : Action} (h : p.act a = none) (rest : List Action) :
    p.run (a :: rest) = p.run rest := by
  unfold run
  rw [List.foldl_cons, h]
  rfl

/-- What holds at the beginning and is kept by every step holds after all steps. -/
theorem run_induction {P : Pool → Prop} {p : Pool} (hp : P p)
    (hact : ∀ {p q : Pool} {a : Action}, P p → p.act a = some q → P q) (actions : List Action) :
    P (p.run actions) := by
  induction actions generalizing p with
  | nil => exact hp
  | cons a rest ih =>
    cases h : p.act a with
    | none =>
      rw [run_cons_of_act_none h]
      exact ih hp
    | some q =>
      rw [run_cons_of_act h]
      exact ih (hact hp h)

/-! ## Tasks that are not interrupted -/

/-- Whether the control task waits for a message. -/
def awaitsMessage (p : Pool) : Bool :=
  match p.control.turn with
  | .waiting => true
  | _ => false

/-- Whether a step leaves no task in the middle of its turn: the control task comes to its answer
before anything else happens, and a worker that has taken an envelope begins to deliver it. -/
structure Yields (p : Pool) (a : Action) : Prop where
  control : p.awaitsMessage = false → a = .publish ∨ a = .acknowledge ∨ a = .finishStop
  workers : p.hands ≠ [] → ∃ index, a = .parse index ∨ a = .begin index

/-- These steps are such that no task is interrupted between two points at which it waits. -/
def Cooperative (p : Pool) : List Action → Prop
  | [] => True
  | a :: rest => p.Yields a ∧ Cooperative ((p.act a).getD p) rest

theorem cooperative_append {p : Pool} {first second : List Action} :
    p.Cooperative (first ++ second) ↔ p.Cooperative first ∧ (p.run first).Cooperative second := by
  induction first generalizing p with
  | nil => exact (and_iff_right trivial).symm
  | cons a rest ih => exact (and_congr_right fun _ => ih).trans and_assoc.symm

/-! ## What a worker does -/

/-- The pool once a worker's delivery has come to a status. -/
def settle (p : Pool) (record : Delivery.Record) (status : Delivery.Status) : Pool :=
  { p with
    dispatcher := (p.dispatcher.settleWorker p.clock status).1
    clock := (p.dispatcher.settleWorker p.clock status).2 }.file p.clock record status

/-- It concerns neither the queue nor the registrations, nor stops. -/
structure SettleFrame (p q : Pool) : Prop where
  dispatcher : ∃ idle busy, q.dispatcher = { p.dispatcher with idle, busy }
  control : q.control = p.control
  stop : q.stop = p.stop
  drawn : q.drawn = p.drawn
  enqueued : q.enqueued = p.enqueued
  taken : q.taken = p.taken
  acknowledged : q.acknowledged = p.acknowledged
  hands : q.hands = p.hands

theorem settle_frame (p : Pool) (record : Delivery.Record) (status : Delivery.Status) :
    SettleFrame p (p.settle record status) := by
  cases status with
  | finished endedBy =>
    exact ⟨p.dispatcher.settleWorker_frame p.clock _, rfl, rfl, rfl, rfl, rfl, rfl, rfl⟩
  | suspended delay s =>
    exact ⟨p.dispatcher.settleWorker_frame p.clock _, rfl, rfl, rfl, rfl, rfl, rfl, rfl⟩

theorem dispatcher_settle (p : Pool) (record : Delivery.Record) (status : Delivery.Status) :
    (p.settle record status).dispatcher = (p.dispatcher.settleWorker p.clock status).1 := by
  cases status with
  | finished endedBy => rfl
  | suspended delay s => rfl

theorem live_settle {p : Pool} (h : p.dispatcher.isDropped = false) (record : Delivery.Record)
    (status : Delivery.Status) : (p.settle record status).live = p.live + 1 := by
  rw [live, (p.settle_frame record status).hands, dispatcher_settle,
    Dispatcher.live_settleWorker h, Nat.add_right_comm]
  rfl

/-- The pool without an idle worker and the first item of the queue. -/
def withdraw (p : Pool) (idle : Nat) (queue : List QueueItem) : Pool :=
  { p with dispatcher := { p.dispatcher with idle, queue } }

/-- The pool in which a worker has taken an envelope. -/
def grasp (p : Pool) (envelope : Envelope) : Pool :=
  { p with taken := p.taken + 1, hands := p.hands ++ [⟨p.taken, envelope, none⟩] }

/-- The pool in which a worker has parsed its envelope, when the others have these. -/
def unpack (p : Pool) (others : List Hand) (h : Hand) : Pool :=
  { p with
    dispatcher := { p.dispatcher with caches := (p.dispatcher.caches.read h.envelope).2 }
    hands := others ++ [{ h with parsed := some (p.dispatcher.caches.read h.envelope).1 }] }

/-- The record of a delivery that has just begun. -/
def begun (p : Pool) (h : Hand) (parsed : Option Parsed.Update) : Delivery.Record where
  index := h.index
  registry := p.dispatcher.registry
  parcel := ⟨h.envelope, parsed⟩
  events := (Delivery.begin p.dispatcher.registry ⟨h.envelope, parsed⟩).1

/-- The pool without one of the deliveries under way. -/
def pickUp (p : Pool) (underWay : List (BusyWorker × Delivery.Record)) : Pool :=
  { p with dispatcher := { p.dispatcher with busy := underWay.map (·.1) }, underWay }

/-! ## What a step can be -/

/-- The steps that are possible in a pool, and what each leads to. -/
inductive Step (p : Pool) : Action → Pool → Prop where
  | enqueue (envelope : Envelope) :
      Step p (.enqueue envelope) { p with
        dispatcher := p.dispatcher.enqueue envelope, enqueued := p.enqueued ++ [envelope] }
  | draw :
      Step p .draw { p with
        dispatcher := { p.dispatcher with nextId := p.dispatcher.nextId + 1 }
        drawn := p.drawn ++ [p.dispatcher.nextId] }
  | sendAdd {id : HandlerId} (handler : Handler) (group : Int32) : id ∈ p.drawn →
      Step p (.sendAdd id handler group) { p with
        control := p.control.send (.add id handler group), drawn := p.drawn.erase id }
  | sendRemove (id : HandlerId) (group : Int32) :
      Step p (.sendRemove id group) { p with control := p.control.send (.remove id group) }
  | receive {control : Control} : p.control.receive? = some control →
      Step p .receive { p with control }
  | publish {c : Registry.Change} : p.control.turn = .made c →
      Step p .publish { p with
        dispatcher := { p.dispatcher with registry := p.control.registry }
        control := p.control.publish c }
  | acknowledge {c : Registry.Change} : p.control.turn = .published c → c ≠ .clear →
      Step p .acknowledge (p.answer c)
  /-- The control task answers that there was nothing to take back. -/
  | refuse {e : DispatchError} : p.control.turn = .refused e →
      Step p .acknowledge { p with control := p.control.answer }
  /-- A start or a stop finds nothing to do. -/
  | nothing {a : Action} : a = .start ∨ a = .stop → Step p a p
  | start : p.stop = none → p.dispatcher.isRunning = false →
      Step p .start { p with
        dispatcher := { p.dispatcher with idle := p.dispatcher.workers, isRunning := true } }
  | stop : p.stop = none → p.dispatcher.isRunning →
      Step p .stop { p with
        stop := some ⟨p.enqueued.length, p.dispatcher.workers, p.enqueued.length, false⟩ }
  | mark {before left behind : Nat} {isClearing : Bool} :
      p.stop = some ⟨before, left + 1, behind, isClearing⟩ →
      Step p .mark { p with
        dispatcher := p.dispatcher.mark
        stop := some ⟨before, left, p.enqueued.length, isClearing⟩ }
  | retire {before behind : Nat} : p.stop = some ⟨before, 0, behind, false⟩ → p.live = 0 →
      Step p .retire { p with
        control := p.control.send .clear, stop := some ⟨before, 0, behind, true⟩ }
  | finishStop : p.control.turn = .published .clear →
      Step p .finishStop { p.answer .clear with
        dispatcher := { p.dispatcher with isRunning := false }, stop := none }
  /-- A worker takes a marker. -/
  | leave {idle : Nat} {queue : List QueueItem} : p.dispatcher.idle = idle + 1 →
      p.dispatcher.queue = .stop :: queue → Step p .take (p.withdraw idle queue)
  /-- A worker takes an envelope. -/
  | take {idle : Nat} {envelope : Envelope} {queue : List QueueItem} :
      p.dispatcher.idle = idle + 1 → p.dispatcher.queue = .envelope envelope :: queue →
      Step p .take ((p.withdraw idle queue).grasp envelope)
  | parse {front back : List Hand} {h : Hand} : p.hands = front ++ h :: back →
      h.parsed = none → Step p (.parse h.index) (p.unpack (front ++ back) h)
  | begin {front back : List Hand} {h : Hand} {parsed : Option Parsed.Update} :
      p.hands = front ++ h :: back → h.parsed = some parsed →
      Step p (.begin h.index) (settle { p with hands := front ++ back } (p.begun h parsed)
        (Delivery.begin p.dispatcher.registry ⟨h.envelope, parsed⟩).2)
  /-- A worker goes on with the delivery that it had suspended. -/
  | resume {timer : Timer} {front back : List (BusyWorker × Delivery.Record)}
      {worker : BusyWorker} {record : Delivery.Record} :
      p.underWay = front ++ (worker, record) :: back →
      Step p (.resume timer) ((p.pickUp (front ++ back)).settle
        { record with events := record.events ++ worker.delivery.resume.1 }
        worker.delivery.resume.2)
  | pass (t : Instant) : Step p (.pass t) { p with clock := p.clock.moveTo t }

variable {p q : Pool} {a : Action}

theorem step_of_take? (h : p.take? = some q) : Step p .take q := by
  unfold take? at h
  split at h
  · rename_i next hpop
    obtain ⟨idle, queue, hidle, hqueue, rfl⟩ := Dispatcher.pop?_eq_some_iff.1 hpop
    obtain rfl := Option.some.inj h
    exact .leave hidle hqueue
  · rename_i envelope next hpop
    obtain ⟨idle, queue, hidle, hqueue, rfl⟩ := Dispatcher.pop?_eq_some_iff.1 hpop
    obtain rfl := Option.some.inj h
    exact .take hidle hqueue
  · cases h

/-- Who has the envelope with a number. -/
theorem hand_of_find? {index : Nat} {h : Hand} (hfind : p.hands.find? (·.index == index) = some h) :
    h.index = index ∧ ∃ front back, p.hands = front ++ h :: back ∧
      p.hands.eraseP (·.index == index) = front ++ back := by
  obtain ⟨hindex, front, back, hsplit, hfront⟩ := List.find?_eq_some_iff_append.1 hfind
  obtain ⟨-, herase⟩ := find?_eraseP_of_split back hindex hfront
  exact ⟨by simpa using hindex, front, back, hsplit, hsplit ▸ herase⟩

theorem step_of_parse? {index : Nat} (h : p.parse? index = some q) : Step p (.parse index) q := by
  unfold parse? at h
  split at h
  · rename_i index' envelope hfind
    obtain ⟨hindex, front, back, hsplit, herase⟩ := hand_of_find? hfind
    obtain rfl : index' = index := hindex
    rw [herase] at h
    obtain rfl := Option.some.inj h
    exact .parse (h := ⟨index', envelope, none⟩) hsplit rfl
  · cases h

theorem step_of_begin? {index : Nat} (h : p.begin? index = some q) : Step p (.begin index) q := by
  unfold begin? at h
  split at h
  · rename_i index' envelope parsed hfind
    obtain ⟨hindex, front, back, hsplit, herase⟩ := hand_of_find? hfind
    obtain rfl : index' = index := hindex
    rw [herase] at h
    obtain rfl := Option.some.inj h
    exact .begin (h := ⟨index', envelope, some parsed⟩) hsplit rfl
  · cases h

theorem step_of_resume? {timer : Timer} (hbusy : p.underWay.map (·.1) = p.dispatcher.busy)
    (h : p.resume? timer = some q) : Step p (.resume timer) q := by
  unfold resume? at h
  cases hfind : p.underWay.find? (·.1.timer == timer) with
  | none => simp [hfind] at h
  | some u =>
    obtain ⟨worker, record⟩ := u
    obtain ⟨htimer, front, back, hsplit, hfront⟩ := List.find?_eq_some_iff_append.1 hfind
    obtain ⟨-, herase⟩ := find?_eraseP_of_split back htimer hfront
    -- the dispatcher finds the worker at the same place
    have hworkers : p.dispatcher.busy = front.map (·.1) ++ worker :: back.map (·.1) := by
      rw [← hbusy, hsplit, List.map_append, List.map_cons]
    have hothers : ∀ w ∈ front.map (·.1), !(w.timer == timer) := by
      intro w hw
      obtain ⟨u, hu, rfl⟩ := List.mem_map.1 hw
      exact hfront u hu
    have hresume := Dispatcher.resume_of_split hworkers htimer hothers p.clock
    rw [← List.map_append] at hresume
    simp only [hfind, hresume] at h
    rw [hsplit, herase] at h
    obtain rfl := Option.some.inj h
    exact .resume hsplit

/-- Whatever a pool does is one of its steps. -/
theorem step_of_act (hbusy : p.underWay.map (·.1) = p.dispatcher.busy) (h : p.act a = some q) :
    Step p a q := by
  cases a with
  | take => exact step_of_take? h
  | parse index => exact step_of_parse? h
  | begin index => exact step_of_begin? h
  | resume timer => exact step_of_resume? hbusy h
  | enqueue envelope =>
    obtain rfl := Option.some.inj h
    exact .enqueue envelope
  | draw =>
    obtain rfl := Option.some.inj h
    exact .draw
  | sendAdd id handler group =>
    simp only [act] at h
    split at h
    · rename_i hid
      obtain rfl := Option.some.inj h
      exact .sendAdd handler group hid
    · cases h
  | sendRemove id group =>
    obtain rfl := Option.some.inj h
    exact .sendRemove id group
  | receive =>
    obtain ⟨control, hreceive, rfl⟩ := Option.map_eq_some_iff.1 h
    exact .receive hreceive
  | publish =>
    simp only [act] at h
    split at h
    · rename_i hturn
      obtain rfl := Option.some.inj h
      exact .publish hturn
    · cases h
  | acknowledge =>
    simp only [act] at h
    split at h
    · cases h
    · rename_i hclear hturn
      obtain rfl := Option.some.inj h
      exact .acknowledge hturn hclear
    · rename_i hturn
      obtain rfl := Option.some.inj h
      exact .refuse hturn
    · cases h
  | pass t =>
    obtain rfl := Option.some.inj h
    exact .pass t
  | start =>
    simp only [act, Dispatcher.start] at h
    split at h
    · cases h
    · rename_i hstop
      split at h
      · obtain rfl := Option.some.inj h
        exact .nothing (.inl rfl)
      · rename_i hrunning
        obtain rfl := Option.some.inj h
        exact .start (Option.not_isSome_iff_eq_none.1 hstop) (Bool.eq_false_iff.2 hrunning)
  | stop =>
    simp only [act] at h
    split at h
    · cases h
    · rename_i hstop
      split at h
      · rename_i hrunning
        obtain rfl := Option.some.inj h
        exact .stop (Option.not_isSome_iff_eq_none.1 hstop) hrunning
      · obtain rfl := Option.some.inj h
        exact .nothing (.inr rfl)
  | mark =>
    simp only [act] at h
    split at h
    · rename_i hstop
      obtain rfl := Option.some.inj h
      exact .mark hstop
    · cases h
  | retire =>
    simp only [act] at h
    split at h
    · rename_i hstop
      split at h
      · rename_i hlive
        obtain rfl := Option.some.inj h
        exact .retire hstop hlive
      · cases h
    · cases h
  | finishStop =>
    simp only [act] at h
    split at h
    · rename_i hturn
      obtain rfl := Option.some.inj h
      exact .finishStop hturn
    · cases h

/-- A stop of a running pool goes back to what has been enqueued by then. -/
theorem act_stop (hrunning : p.dispatcher.isRunning) (hnone : p.stop = none) :
    p.act .stop = some { p with
      stop := some ⟨p.enqueued.length, p.dispatcher.workers, p.enqueued.length, false⟩ } := by
  simp only [act, hnone, hrunning, Option.isSome_none, if_true]
  rfl

/-! ## What is on record stays there -/

/-- The record of what happened goes on, with more envelopes enqueued. -/
structure Extends (p q : Pool) (more : List Envelope) : Prop where
  enqueued : q.enqueued = p.enqueued ++ more
  taken : p.taken ≤ q.taken
  acknowledged : p.acknowledged <+: q.acknowledged
  delivered : p.delivered <+: q.delivered

theorem Extends.of_eq (h : q.enqueued = p.enqueued ∧ q.taken = p.taken ∧
    q.acknowledged = p.acknowledged ∧ q.delivered = p.delivered) : Extends p q [] := by
  obtain ⟨henqueued, htaken, hacknowledged, hdelivered⟩ := h
  refine ⟨?_, Nat.le_of_eq htaken.symm, hacknowledged ▸ List.prefix_refl _,
    hdelivered ▸ List.prefix_refl _⟩
  rw [henqueued, List.append_nil]

theorem Extends.settle (h : Extends p q []) (record : Delivery.Record)
    (status : Delivery.Status) : Extends p (q.settle record status) [] := by
  cases status with
  | finished endedBy =>
    exact ⟨h.enqueued, h.taken, h.acknowledged, h.delivered.trans (List.prefix_append _ _)⟩
  | suspended delay s => exact ⟨h.enqueued, h.taken, h.acknowledged, h.delivered⟩

theorem Extends.answer (c : Registry.Change) : Extends p (p.answer c) [] :=
  ⟨(List.append_nil _).symm, Nat.le_refl _, List.prefix_append _ _, List.prefix_refl _⟩

theorem Step.goesOn (h : Step p a q) : Extends p q a.envelope?.toList := by
  cases h with
  | enqueue envelope => exact ⟨rfl, Nat.le_refl _, List.prefix_refl _, List.prefix_refl _⟩
  | nothing hnothing =>
    rcases hnothing with rfl | rfl
    · exact .of_eq ⟨rfl, rfl, rfl, rfl⟩
    · exact .of_eq ⟨rfl, rfl, rfl, rfl⟩
  | acknowledge _ _ => exact .answer _
  | finishStop _ =>
    have hanswer : Extends p (p.answer .clear) [] := .answer .clear
    exact ⟨hanswer.enqueued, hanswer.taken, hanswer.acknowledged, hanswer.delivered⟩
  | take _ _ =>
    exact ⟨(List.append_nil _).symm, Nat.le_succ _, List.prefix_refl _, List.prefix_refl _⟩
  | begin _ _ =>
    apply Extends.settle
    exact .of_eq ⟨rfl, rfl, rfl, rfl⟩
  | resume _ =>
    apply Extends.settle
    exact .of_eq ⟨rfl, rfl, rfl, rfl⟩
  | _ => exact .of_eq ⟨rfl, rfl, rfl, rfl⟩

/-- Until it returns a stop goes back to what had been enqueued when it was called for. -/
theorem Step.keeps_stop {s : Stop} (h : Step p a q) (hstop : p.stop = some s)
    (ha : a ≠ .finishStop) : ∃ s', q.stop = some s' ∧ s'.before = s.before := by
  cases h with
  | finishStop _ => exact absurd rfl ha
  | start hnone _ => cases hstop.symm.trans hnone
  | stop hnone _ => cases hstop.symm.trans hnone
  | mark hmark =>
    obtain rfl := Option.some.inj (hstop.symm.trans hmark)
    exact ⟨_, rfl, rfl⟩
  | retire hleft _ =>
    obtain rfl := Option.some.inj (hstop.symm.trans hleft)
    exact ⟨_, rfl, rfl⟩
  | begin _ _ =>
    rw [(settle_frame _ _ _).stop]
    exact ⟨s, hstop, rfl⟩
  | resume _ =>
    rw [(settle_frame _ _ _).stop]
    exact ⟨s, hstop, rfl⟩
  | _ => exact ⟨s, hstop, rfl⟩

end Pool

end UpdatePipeline
