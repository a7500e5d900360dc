import UpdatePipeline.Proofs.Dispatcher.Running
import UpdatePipeline.Proofs.Dispatcher.Staffing
set_option autoImplicit false

/-!
# The order in which a dispatcher works

A dispatcher that one caller after the other uses does in one go what a pool does in several
steps: handlers come and go, workers take envelopes and begin to deliver them, a stop puts in its
markers, and between two operations callbacks end and idle workers take items in one fixed order
(`Dispatcher.runUntil`).  All this is what a pool does in which no task is interrupted
(`Pool.IsQuiet.reaches_runUntil`), so what holds of every run of a pool holds of it.
-/

namespace UpdatePipeline

namespace Pool

variable {size : Nat} {p q r : Pool} {a : Action}

/-! ## Runs in which no task is interrupted -/

/-- Some steps lead from one pool to the other, and interrupt no task. -/
def Leads (p q : Pool) : Prop := ∃ actions, p.Cooperative actions ∧ p.run actions = q

theorem Leads.refl (p : Pool) : p.Leads p := ⟨[], trivial, rfl⟩

theorem Leads.of_act (hyields : p.Yields a) (hq : p.act a = some q) (hr : q.Leads r) :
    p.Leads r := by
  obtain ⟨actions, hcooperative, hrun⟩ := hr
  refine ⟨a :: actions, ⟨hyields, ?_⟩, ?_⟩
  · rw [hq]
    exact hcooperative
  · rw [run_cons_of_act hq]
    exact hrun

theorem Leads.trans (hq : p.Leads q) (hr : q.Leads r) : p.Leads r := by
  obtain ⟨first, hfirst, rfl⟩ := hq
  obtain ⟨second, hsecond, rfl⟩ := hr
  exact ⟨first ++ second, cooperative_append.2 ⟨hfirst, hsecond⟩, run_append p first second⟩

theorem Leads.sound (h : p.Leads q) (hp : Sound size p) : Sound size q := by
  obtain ⟨actions, -, rfl⟩ := h
  exact hp.run actions

theorem yields_of_waiting (hhands : p.hands = []) (hturn : p.control.turn = .waiting) :
    p.Yields a where
  control hbusy := by
    rw [awaitsMessage, hturn] at hbusy
    cases hbusy
  workers hne := absurd hhands hne

theorem yields_control (hhands : p.hands = [])
    (ha : a = .publish ∨ a = .acknowledge ∨ a = .finishStop) : p.Yields a where
  control _ := ha
  workers hne := absurd hhands hne

theorem yields_worker (hturn : p.control.turn = .waiting)
    (ha : ∃ index, a = .parse index ∨ a = .begin index) : p.Yields a where
  control hbusy := by
    rw [awaitsMessage, hturn] at hbusy
    cases hbusy
  workers _ := ha

/-- No task is in the middle of its turn, and the control task has nothing to do. -/
structure IsQuiet (p : Pool) : Prop where
  hands : p.hands = []
  control : p.control = { registry := p.dispatcher.registry }

theorem IsQuiet.live_eq (h : p.IsQuiet) : p.live = p.dispatcher.live := by
  rw [live, h.hands, List.length_nil, Nat.add_zero]

theorem IsQuiet.yields (h : p.IsQuiet) : p.Yields a :=
  yields_of_waiting h.hands (by rw [h.control])

/-- Without interrupting a task, a pool can come to have this dispatcher, and be quiet, when stops
have come this far. -/
def Reaches (p : Pool) (d : Dispatcher) (clock : Clock) (S : Option Stop → Prop) : Prop :=
  ∃ q, p.Leads q ∧ q.IsQuiet ∧ q.dispatcher = d ∧ q.clock = clock ∧ S q.stop

/-- One step is enough for what does not concern the registrations. -/
theorem IsQuiet.reaches_of_act (h : p.IsQuiet) (hq : p.act a = some q) (hhands : q.hands = p.hands)
    (hcontrol : q.control = p.control) (hregistry : q.dispatcher.registry = p.dispatcher.registry) :
    p.Reaches q.dispatcher q.clock (· = q.stop) := by
  refine ⟨q, .of_act h.yields hq (.refl q), ⟨?_, ?_⟩, rfl, rfl, rfl⟩
  · rw [hhands, h.hands]
  · rw [hcontrol, hregistry, h.control]

theorem IsQuiet.reaches (h : p.IsQuiet) : p.Reaches p.dispatcher p.clock (· = p.stop) :=
  ⟨p, .refl p, h, rfl, rfl, rfl⟩

theorem Leads.reaches {d : Dispatcher} {clock : Clock} {S : Option Stop → Prop} (hq : p.Leads q)
    (h : q.Reaches d clock S) : p.Reaches d clock S := by
  obtain ⟨r, hr, hend⟩ := h
  exact ⟨r, hq.trans hr, hend⟩

theorem Reaches.imp {d : Dispatcher} {clock : Clock} {S S' : Option Stop → Prop}
    (h : p.Reaches d clock S) (hS : ∀ stop, S stop → S' stop) : p.Reaches d clock S' := by
  obtain ⟨q, hq, hquiet, hdispatcher, hclock, hstop⟩ := h
  exact ⟨q, hq, hquiet, hdispatcher, hclock, hS _ hstop⟩

/-! ## Registrations -/

/-- The control task makes and publishes the change in the only message there is. -/
theorem leads_published {c : Registry.Change} {registry : Registry} (hhands : p.hands = [])
    (hcontrol : p.control = { mailbox := [c], registry := p.dispatcher.registry })
    (happly : p.dispatcher.registry.apply c = .ok registry) :
    p.Leads { p with
      dispatcher := { p.dispatcher with registry }
      control := { registry, turn := .published c } } := by
  have hreceive : p.act .receive = some { p with control := { registry, turn := .made c } } := by
    simp only [act, hcontrol, Control.receive?, happly, Option.map_some]
  have hwaiting : p.control.turn = .waiting := by rw [hcontrol]
  refine .of_act (yields_of_waiting hhands hwaiting) hreceive ?_
  exact .of_act (a := .publish) (yields_control hhands (.inl rfl)) rfl (.refl _)

/-- And answers. -/
theorem leads_answered {c : Registry.Change} {registry : Registry} (hhands : p.hands = [])
    (hcontrol : p.control = { mailbox := [c], registry := p.dispatcher.registry })
    (happly : p.dispatcher.registry.apply c = .ok registry) (hc : c ≠ .clear) :
    p.Reaches { p.dispatcher with registry } p.clock (· = p.stop) := by
  let q : Pool := { p with
    dispatcher := { p.dispatcher with registry }, control := { registry, turn := .published c } }
  have hanswer : q.act .acknowledge = some (q.answer c) := by
    cases c with
    | clear => exact absurd rfl hc
    | add _ _ _ => rfl
    | remove _ _ => rfl
  refine ⟨q.answer c, (leads_published hhands hcontrol happly).trans ?_, ⟨hhands, rfl⟩, rfl, rfl, rfl⟩
  exact .of_act (yields_control hhands (.inr (.inl rfl))) hanswer (.refl _)

theorem IsQuiet.reaches_addHandler (h : p.IsQuiet) (handler : Handler) (group : Int32) :
    p.Reaches (p.dispatcher.addHandler handler group).2 p.clock (· = p.stop) := by
  let drawn : Pool := { p with
    dispatcher := { p.dispatcher with nextId := p.dispatcher.nextId + 1 }
    drawn := p.drawn ++ [p.dispatcher.nextId] }
  let sent : Pool := { drawn with
    control := p.control.send (.add p.dispatcher.nextId handler group)
    drawn := drawn.drawn.erase p.dispatcher.nextId }
  have hwaiting : p.control.turn = .waiting := by rw [h.control]
  have hsend : drawn.act (.sendAdd p.dispatcher.nextId handler group) = some sent :=
    if_pos (by simp [drawn])
  have hsent : sent.control =
      { mailbox := [.add p.dispatcher.nextId handler group], registry := p.dispatcher.registry } := by
    show p.control.send _ = _
    rw [h.control]
    rfl
  have hleads : p.Leads sent := by
    refine .of_act (a := .draw) h.yields rfl ?_
    exact .of_act (yields_of_waiting h.hands hwaiting) hsend (.refl _)
  exact hleads.reaches (leads_answered h.hands hsent rfl nofun)

theorem IsQuiet.reaches_removeHandler (h : p.IsQuiet) (id : HandlerId) (group : Int32) :
    p.Reaches (p.dispatcher.removeHandler id group).2 p.clock (· = p.stop) := by
  let sent : Pool := { p with control := p.control.send (.remove id group) }
  have hsent : sent.control =
      { mailbox := [.remove id group], registry := p.dispatcher.registry } := by
    show p.control.send _ = _
    rw [h.control]
    rfl
  have hsend : p.Leads sent := .of_act (a := .sendRemove id group) h.yields rfl (.refl _)
  apply hsend.reaches
  unfold Dispatcher.removeHandler
  cases hremove : p.dispatcher.registry.remove id group with
  | ok registry => exact leads_answered (p := sent) h.hands hsent hremove nofun
  | error e =>
    let refused : Pool := { p with
      control := { registry := p.dispatcher.registry, turn := .refused e } }
    have hreceive : sent.act .receive = some refused := by
      have happly : p.dispatcher.registry.apply (.remove id group) = .error e := hremove
      simp only [act, hsent, Control.receive?, happly, Option.map_some]
      rfl
    refine ⟨{ refused with control := refused.control.answer }, ?_, ⟨h.hands, rfl⟩, rfl, rfl, rfl⟩
    refine .of_act (yields_of_waiting h.hands (by rw [hsent])) hreceive ?_
    exact .of_act (a := .acknowledge) (yields_control h.hands (.inr (.inl rfl))) rfl (.refl _)

/-! ## Taking items -/

theorem file_frame (p : Pool) (clock : Clock) (record : Delivery.Record)
    (status : Delivery.Status) :
    (p.file clock record status).dispatcher = p.dispatcher ∧
      (p.file clock record status).clock = p.clock ∧
      (p.file clock record status).control = p.control ∧
      (p.file clock record status).hands = p.hands ∧
      (p.file clock record status).stop = p.stop := by
  cases status with
  | finished endedBy => exact ⟨rfl, rfl, rfl, rfl, rfl⟩
  | suspended delay s => exact ⟨rfl, rfl, rfl, rfl, rfl⟩

/-- A pool with a delivery on record is quiet if it was before. -/
theorem Leads.reaches_file {clock : Clock} {record : Delivery.Record} {status : Delivery.Status}
    (h : p.Leads (q.file clock record status)) (hq : q.IsQuiet) :
    p.Reaches q.dispatcher q.clock (· = q.stop) := by
  obtain ⟨hdispatcher, hclock, hcontrol, hhands, hstop⟩ := q.file_frame clock record status
  refine ⟨_, h, ⟨hhands.trans hq.hands, ?_⟩, hdispatcher, hclock, hstop⟩
  rw [hcontrol, hdispatcher, hq.control]

/-- The only worker that has an envelope in hand parses it. -/
theorem leads_parsed {index : Nat} {envelope : Envelope} (hhands : p.hands = [⟨index, envelope, none⟩])
    (hturn : p.control.turn = .waiting) :
    p.Leads { p with
      dispatcher := (p.dispatcher.parse envelope).2
      hands := [⟨index, envelope, some (p.dispatcher.parse envelope).1.parsed⟩] } := by
  have hact : p.act (.parse index) = some { p with
      dispatcher := (p.dispatcher.parse envelope).2
      hands := [⟨index, envelope, some (p.dispatcher.parse envelope).1.parsed⟩] } := by
    simp [act, parse?, hhands]
  exact .of_act (yields_worker hturn ⟨index, .inl rfl⟩) hact (.refl _)

/-- And begins to deliver it. -/
theorem leads_begun {index : Nat} {envelope : Envelope} {parsed : Option Parsed.Update}
    {events : List Delivery.Event} {d : Dispatcher} {clock : Clock}
    (hhands : p.hands = [⟨index, envelope, some parsed⟩]) (hturn : p.control.turn = .waiting)
    (hbegin : p.dispatcher.begin p.clock ⟨envelope, parsed⟩ = (events, d, clock)) :
    p.Leads (file { p with dispatcher := d, clock, hands := [] } p.clock
      ⟨index, p.dispatcher.registry, ⟨envelope, parsed⟩, events⟩
      (Delivery.begin p.dispatcher.registry ⟨envelope, parsed⟩).2) := by
  have hact : p.act (.begin index) = some (file { p with dispatcher := d, clock, hands := [] } p.clock
      ⟨index, p.dispatcher.registry, ⟨envelope, parsed⟩, events⟩
      (Delivery.begin p.dispatcher.registry ⟨envelope, parsed⟩).2) := by
    simp [act, begin?, hhands, hbegin]
  exact .of_act (yields_worker hturn ⟨index, .inr rfl⟩) hact (.refl _)

/-- Whenever the dispatcher lets a worker take an item the pool can take the steps of it. -/
theorem IsQuiet.reaches_take (h : p.IsQuiet) {events : List Delivery.Event} {d : Dispatcher}
    {clock : Clock} (htake : p.dispatcher.take? p.clock = some (events, d, clock)) :
    p.Reaches d clock (· = p.stop) := by
  have hsame : Dispatcher.SameSetup p.dispatcher d :=
    ((Dispatcher.kept_sameSetup p.dispatcher).take (.refl _) htake).1
  have hwaiting : p.control.turn = .waiting := by rw [h.control]
  have hpool : p.act .take = p.take? := rfl
  unfold take? at hpool
  unfold Dispatcher.take? at htake
  split at htake
  · rename_i hpop
    obtain ⟨-, rfl, rfl⟩ := Option.some.inj htake
    rw [hpop] at hpool
    exact h.reaches_of_act hpool rfl rfl hsame.registry
  · rename_i envelope next hpop
    rw [hpop, h.hands] at hpool
    have hparsed := leads_parsed (p := { p with
      dispatcher := next, taken := p.taken + 1, hands := [⟨p.taken, envelope, none⟩] }) rfl hwaiting
    have hbegun := leads_begun (p := { p with
      dispatcher := (next.parse envelope).2, taken := p.taken + 1
      hands := [⟨p.taken, envelope, some (next.parse envelope).1.parsed⟩] }) rfl hwaiting
      (Option.some.inj htake)
    have hleads := Leads.of_act h.yields hpool (hparsed.trans hbegun)
    refine hleads.reaches_file ⟨rfl, ?_⟩
    show p.control = { registry := d.registry }
    rw [h.control, hsame.registry]
  · cases htake

/-! ## Ends of callbacks -/

/-- So it is with the end of a callback, unless nobody waits for the timer. -/
theorem IsQuiet.reaches_resume (h : p.IsQuiet) (hbusy : p.underWay.map (·.1) = p.dispatcher.busy)
    (timer : Timer) : p.Reaches (p.dispatcher.resume timer p.clock).2.1
      (p.dispatcher.resume timer p.clock).2.2 (· = p.stop) := by
  cases hfind : p.underWay.find? (·.1.timer == timer) with
  | none =>
    have hnobody : p.dispatcher.busy.find? (·.timer == timer) = none := by
      rw [← hbusy, List.find?_map, Option.map_eq_none_iff]
      exact hfind
    have hnothing : p.dispatcher.resume timer p.clock = ([], p.dispatcher, p.clock) := by
      rw [Dispatcher.resume, hnobody]
    rw [hnothing]
    exact h.reaches
  | some u =>
    have hact : p.act (.resume timer) = p.resume? timer := rfl
    unfold resume? at hact
    simp only [hfind] at hact
    have hsame : Dispatcher.SameSetup p.dispatcher (p.dispatcher.resume timer p.clock).2.1 :=
      ((Dispatcher.kept_sameSetup p.dispatcher).resume timer (.refl _)).1
    refine (Leads.of_act h.yields hact (.refl _)).reaches_file ⟨h.hands, ?_⟩
    show p.control = { registry := (p.dispatcher.resume timer p.clock).2.1.registry }
    rw [h.control, hsame.registry]

/-! ## What a pool left to itself reaches -/

/-- Whatever goes on in the dispatcher of a pool are steps of the pool. -/
theorem kept_reaches (h : Sound size p) (S : Option Stop → Prop) :
    Dispatcher.Kept (fun d clock => p.Reaches d clock S) (fun _ => True) where
  take := by
    rintro d clock ⟨events, next, clock'⟩ ⟨q, hq, hquiet, rfl, rfl, hS⟩ htake
    refine ⟨hq.reaches ((hquiet.reaches_take htake).imp ?_), fun _ _ => trivial⟩
    rintro _ rfl
    exact hS
  resume := by
    rintro d clock timer ⟨q, hq, hquiet, rfl, rfl, hS⟩
    have hbusy := (hq.sound h).accounts.busy
    refine ⟨hq.reaches ((hquiet.reaches_resume hbusy timer).imp ?_), fun _ _ => trivial⟩
    rintro _ rfl
    exact hS
  pass := by
    rintro d clock t ⟨q, hq, hquiet, rfl, rfl, hS⟩
    have hpass : q.act (.pass t) = some { q with clock := q.clock.moveTo t } := rfl
    refine hq.reaches ((hquiet.reaches_of_act hpass rfl rfl rfl).imp ?_)
    rintro _ rfl
    exact hS

/-- A dispatcher left to itself until an instant takes steps of a pool. -/
theorem IsQuiet.reaches_runUntil (h : p.IsQuiet) (hsound : Sound size p) (limit : Instant) :
    p.Reaches (p.dispatcher.runUntil limit p.clock).2.1 (p.dispatcher.runUntil limit p.clock).2.2
      (· = p.stop) :=
  ((kept_reaches hsound _).runUntil limit h.reaches).1

/-! ## Starts and stops -/

theorem IsQuiet.reaches_start (h : p.IsQuiet) (hnone : p.stop = none) :
    p.Reaches p.dispatcher.start.2 p.clock (· = none) := by
  have hact : p.act .start = some { p with dispatcher := p.dispatcher.start.2 } := by
    simp only [act, hnone, Option.isSome_none]
    rfl
  have hregistry : p.dispatcher.start.2.registry = p.dispatcher.registry := by
    unfold Dispatcher.start
    split <;> rfl
  refine (h.reaches_of_act hact rfl rfl hregistry).imp ?_
  rintro _ rfl
  exact hnone

/-- All markers of a stop are in the queue, and it waits for the workers to leave. -/
def AwaitsWorkers (stop : Option Stop) : Prop :=
  ∃ before behind, stop = some ⟨before, 0, behind, false⟩

theorem IsQuiet.reaches_marks (h : p.IsQuiet) {before left behind : Nat}
    (hstop : p.stop = some ⟨before, left, behind, false⟩) :
    p.Reaches (Dispatcher.mark^[left] p.dispatcher) p.clock AwaitsWorkers := by
  induction left generalizing p behind with
  | zero => exact ⟨p, .refl p, h, rfl, rfl, before, behind, hstop⟩
  | succ left ih =>
    let marked : Pool := { p with
      dispatcher := p.dispatcher.mark, stop := some ⟨before, left, p.enqueued.length, false⟩ }
    have hmark : p.act .mark = some marked := by
      unfold act
      rw [hstop]
    rw [Function.iterate_succ_apply]
    have hmarked : p.Leads marked := .of_act h.yields hmark (.refl _)
    exact hmarked.reaches (ih (p := marked) ⟨h.hands, h.control⟩ rfl)

/-- To put all markers into the queue at once is one way to stop a pool. -/
theorem IsQuiet.reaches_beginStop (h : p.IsQuiet) (hrunning : p.dispatcher.isRunning)
    (hnone : p.stop = none) : p.Reaches p.dispatcher.beginStop p.clock AwaitsWorkers := by
  rw [p.dispatcher.beginStop_eq_iterate hrunning]
  let called : Pool := { p with
    stop := some ⟨p.enqueued.length, p.dispatcher.workers, p.enqueued.length, false⟩ }
  have hcalled : p.Leads called := .of_act h.yields (act_stop hrunning hnone) (.refl _)
  exact hcalled.reaches (IsQuiet.reaches_marks (p := called) ⟨h.hands, h.control⟩ rfl)

/-- And to drop all registrations when no worker is left is the way in which a stop returns. -/
theorem IsQuiet.reaches_finishStop (h : p.IsQuiet) (hstop : AwaitsWorkers p.stop)
    (hlive : p.dispatcher.live = 0) :
    p.Reaches p.dispatcher.finishStop.2 p.clock (· = none) := by
  obtain ⟨before, behind, hstop⟩ := hstop
  let sent : Pool := { p with
    control := p.control.send .clear, stop := some ⟨before, 0, behind, true⟩ }
  let published : Pool := { sent with
    dispatcher := { p.dispatcher with registry := Registry.empty }
    control := { registry := Registry.empty, turn := .published .clear } }
  have hretire : p.act .retire = some sent := by
    simp only [act, hstop, h.live_eq, hlive, if_true]
    rfl
  have hsent : sent.control = { mailbox := [.clear], registry := p.dispatcher.registry } := by
    show p.control.send _ = _
    rw [h.control]
    rfl
  have hleads : p.Leads published :=
    .of_act h.yields hretire (leads_published (p := sent) h.hands hsent rfl)
  let stopped : Pool := { published.answer .clear with
    dispatcher := { published.dispatcher with isRunning := false }, stop := none }
  have hfinish : published.Leads stopped :=
    .of_act (a := .finishStop) (yields_control h.hands (.inr (.inr rfl))) rfl (.refl _)
  exact ⟨stopped, hleads.trans hfinish, ⟨h.hands, rfl⟩, rfl, rfl, rfl⟩

end Pool

end UpdatePipeline
