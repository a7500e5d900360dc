import UpdatePipeline.Proofs.Dispatcher.Staffing
set_option autoImplicit false

/-!
# The life of a pool

What callers can rely on, in whatever order they and the tasks take their steps: the queue is
served first in, first out, every envelope taken is delivered once and to its end, a stop lets all
be delivered that was enqueued before it, and what it leaves in the queue is there for the next
start (`Pool.run_serves`).
-/

namespace UpdatePipeline

/-! ## What is left to do -/

/-- How many steps the control task has still to take. -/
def Control.load (c : Control) : Nat :=
  3 * c.mailbox.length +
    match c.turn with
    | .waiting => 0
    | .made _ => 2
    | .published _ | .refused _ => 1

/-- What an envelope in hand adds to the load: the callbacks of its delivery, and the steps up to
its beginning. -/
def Hand.load (r : Registry) (h : Hand) : Nat :=
  r.toList.length + if h.parsed.isSome then 1 else 2

namespace Pool

/-- What the envelopes in these hands add to the load. -/
def handload (r : Registry) (hands : List Hand) : Nat := hands.foldr (fun h n => h.load r + n) 0

theorem handload_cons (r : Registry) (h : Hand) (hands : List Hand) :
    handload r (h :: hands) = h.load r + handload r hands := rfl

theorem handload_append (r : Registry) (hands more : List Hand) :
    handload r (hands ++ more) = handload r hands + handload r more := by
  induction hands with
  | nil => exact (Nat.zero_add _).symm
  | cons h hands ih => rw [List.cons_append, handload_cons, handload_cons, ih, Nat.add_assoc]

theorem handload_split (r : Registry) (front back : List Hand) (h : Hand) :
    handload r (front ++ h :: back) = handload r (front ++ back) + h.load r := by
  rw [handload_append, handload_append, handload_cons]
  omega

/-- A bound on the steps that the workers can take: what the dispatcher has to do, two steps up to
each delivery, and what they have in hand. -/
def load (p : Pool) : Nat :=
  p.dispatcher.load + 2 * p.dispatcher.queue.length + handload p.dispatcher.registry p.hands

/-- How many steps of its own the stop that is under way has still to take. -/
def stopload (p : Pool) : Nat := p.stop.elim 0 fun s => s.left + if s.isClearing then 0 else 1

/-- What is left to do for stops, for the control task, and for the workers. -/
def remaining (p : Pool) : Nat × Nat × Nat := (p.stopload, p.control.load, p.load)

/-- Fewer steps for a stop, or no more for it and fewer for the control task, or no more for both
and fewer for the workers. -/
def Lighter : Nat × Nat × Nat → Nat × Nat × Nat → Prop :=
  Prod.Lex (· < ·) (Prod.Lex (· < ·) (· < ·))

theorem lighter_of_stopload {q p : Pool} (h : q.stopload < p.stopload) :
    Lighter q.remaining p.remaining := .left _ _ h

theorem lighter_of_control {q p : Pool} (hstop : q.stopload ≤ p.stopload)
    (h : q.control.load < p.control.load) : Lighter q.remaining p.remaining := by
  rcases Nat.lt_or_eq_of_le hstop with hless | heq
  · exact lighter_of_stopload hless
  · unfold Lighter remaining
    rw [heq]
    exact .right _ (.left _ _ h)

theorem lighter_of_load {q p : Pool} (hstop : q.stop = p.stop) (hcontrol : q.control = p.control)
    (h : q.load < p.load) : Lighter q.remaining p.remaining := by
  unfold Lighter remaining stopload
  rw [hstop, hcontrol]
  exact .right _ (.right _ h)

variable {size : Nat} {p q : Pool}

theorem load_settle (p : Pool) (record : Delivery.Record) (status : Delivery.Status) :
    (p.settle record status).load = p.load + Dispatcher.pending status := by
  have hframe := p.settle_frame record status
  obtain ⟨idle, busy, hdispatcher⟩ := hframe.dispatcher
  have hload : (p.settle record status).dispatcher.load =
      p.dispatcher.load + Dispatcher.pending status := by
    rw [dispatcher_settle, Dispatcher.load_settleWorker]
  have hqueue : (p.settle record status).dispatcher.queue = p.dispatcher.queue := by
    rw [hdispatcher]
  have hregistry : (p.settle record status).dispatcher.registry = p.dispatcher.registry := by
    rw [hdispatcher]
  rw [load, load, hload, hqueue, hregistry, hframe.hands]
  omega

theorem load_control_receive {c control : Control} (h : c.receive? = some control) :
    control.load < c.load := by
  obtain ⟨hturn, change, mailbox, hmailbox, hnext⟩ := Control.receive?_cases h
  have hload : c.load = 3 * mailbox.length + 3 := by
    rw [Control.load, hturn, hmailbox]
    rfl
  rw [hload]
  rcases hnext with ⟨registry, -, rfl⟩ | ⟨e, -, rfl⟩
  · exact Nat.lt_succ_self _
  · exact Nat.lt_succ_of_lt (Nat.lt_succ_self _)

theorem load_control_publish {c : Control} {change : Registry.Change} (hturn : c.turn = .made change) :
    (c.publish change).load < c.load := by
  rw [Control.load, Control.load, hturn]
  exact Nat.add_lt_add_left (Nat.lt_succ_self _) _

theorem load_control_answer {c : Control}
    (hturn : (∃ change, c.turn = .published change) ∨ ∃ e, c.turn = .refused e) :
    c.answer.load < c.load := by
  rcases hturn with ⟨change, hturn⟩ | ⟨e, hturn⟩
  · rw [Control.load, Control.load, hturn]
    exact Nat.add_lt_add_left (Nat.lt_succ_self _) _
  · rw [Control.load, Control.load, hturn]
    exact Nat.add_lt_add_left (Nat.lt_succ_self _) _

theorem load_leave {idle : Nat} {queue : List QueueItem}
    (hqueue : p.dispatcher.queue = .stop :: queue) : (p.withdraw idle queue).load < p.load := by
  have hbefore : p.dispatcher.load = (p.withdraw idle queue).dispatcher.load +
    (p.dispatcher.registry.toList.length + 1) := Dispatcher.load_of_queue hqueue idle
  have hafter : (p.withdraw idle queue).load = (p.withdraw idle queue).dispatcher.load +
    2 * queue.length + handload p.dispatcher.registry p.hands := rfl
  rw [hafter, load, hbefore, hqueue, List.length_cons]
  omega

theorem load_take {idle : Nat} {envelope : Envelope} {queue : List QueueItem}
    (hqueue : p.dispatcher.queue = .envelope envelope :: queue) :
    ((p.withdraw idle queue).grasp envelope).load < p.load := by
  have hbefore : p.dispatcher.load = (p.withdraw idle queue).dispatcher.load +
    (p.dispatcher.registry.toList.length + 1) := Dispatcher.load_of_queue hqueue idle
  have hafter : ((p.withdraw idle queue).grasp envelope).load =
    (p.withdraw idle queue).dispatcher.load + 2 * queue.length +
      handload p.dispatcher.registry (p.hands ++ [⟨p.taken, envelope, none⟩]) := rfl
  have hhand : handload p.dispatcher.registry [⟨p.taken, envelope, none⟩] =
    p.dispatcher.registry.toList.length + 2 := rfl
  rw [hafter, handload_append, hhand, load, hbefore, hqueue, List.length_cons]
  omega

theorem load_parse {front back : List Hand} {h : Hand} (hhands : p.hands = front ++ h :: back)
    (hparsed : h.parsed = none) : (p.unpack (front ++ back) h).load < p.load := by
  unfold load
  rw [hhands, handload_split]
  have hbefore : h.load p.dispatcher.registry = p.dispatcher.registry.toList.length + 2 := by
    rw [Hand.load, hparsed]
    rfl
  show p.dispatcher.load + 2 * p.dispatcher.queue.length +
    handload p.dispatcher.registry (front ++ back ++ [_]) < _
  rw [hbefore, handload_append]
  exact Nat.add_lt_add_left (Nat.add_lt_add_left (Nat.lt_succ_self _) _) _

theorem load_begin {front back : List Hand} {h : Hand} {parsed : Option Parsed.Update}
    (hhands : p.hands = front ++ h :: back) (hparsed : h.parsed = some parsed) :
    (settle { p with hands := front ++ back } (p.begun h parsed)
      (Delivery.begin p.dispatcher.registry ⟨h.envelope, parsed⟩).2).load < p.load := by
  have hle := Dispatcher.pending_begin_le p.dispatcher.registry ⟨h.envelope, parsed⟩
  have hbefore : h.load p.dispatcher.registry = p.dispatcher.registry.toList.length + 1 := by
    rw [Hand.load, hparsed]
    rfl
  rw [load_settle]
  unfold load
  rw [hhands, handload_split, hbefore]
  show p.dispatcher.load + 2 * p.dispatcher.queue.length +
    handload p.dispatcher.registry (front ++ back) + _ < _
  omega

theorem load_resume {front back : List (BusyWorker × Delivery.Record)} {worker : BusyWorker}
    {record after : Delivery.Record} (hbusy : p.underWay.map (·.1) = p.dispatcher.busy)
    (hunderWay : p.underWay = front ++ (worker, record) :: back) :
    ((p.pickUp (front ++ back)).settle after worker.delivery.resume.2).load < p.load := by
  have hworkers : p.dispatcher.busy = front.map (·.1) ++ worker :: back.map (·.1) := by
    rw [← hbusy, hunderWay, List.map_append, List.map_cons]
  have hbefore : p.dispatcher.load = (p.pickUp (front ++ back)).dispatcher.load +
      (worker.delivery.rest.length + 1) := by
    rw [Dispatcher.load_of_busy hworkers, ← List.map_append]
    rfl
  have hafter : (p.pickUp (front ++ back)).load = (p.pickUp (front ++ back)).dispatcher.load +
    2 * p.dispatcher.queue.length + handload p.dispatcher.registry p.hands := rfl
  have hle := Dispatcher.pending_resume_le worker.delivery
  rw [load_settle, hafter, load, hbefore]
  omega

/-- Every step that the tasks take by themselves leaves less to do. -/
theorem Step.lighter {a : Action} (h : Step p a q) (hbusy : p.underWay.map (·.1) = p.dispatcher.busy)
    (hown : a.isOwn) : Lighter q.remaining p.remaining := by
  cases h with
  | receive hreceive =>
    exact lighter_of_control (Nat.le_refl _) (load_control_receive hreceive)
  | publish hturn => exact lighter_of_control (Nat.le_refl _) (load_control_publish hturn)
  | acknowledge hturn _ =>
    exact lighter_of_control (Nat.le_refl _) (load_control_answer (.inl ⟨_, hturn⟩))
  | refuse hturn =>
    exact lighter_of_control (Nat.le_refl _) (load_control_answer (.inr ⟨_, hturn⟩))
  | finishStop hturn =>
    exact lighter_of_control (Nat.zero_le _) (load_control_answer (.inl ⟨_, hturn⟩))
  | mark hstop =>
    apply lighter_of_stopload
    rw [stopload, stopload, hstop]
    exact Nat.add_lt_add_right (Nat.lt_succ_self _) _
  | retire hstop _ =>
    apply lighter_of_stopload
    rw [stopload, stopload, hstop]
    exact Nat.zero_lt_one
  | leave _ hqueue => exact lighter_of_load rfl rfl (load_leave hqueue)
  | take _ hqueue => exact lighter_of_load rfl rfl (load_take hqueue)
  | parse hhands hparsed => exact lighter_of_load rfl rfl (load_parse hhands hparsed)
  | begin hhands hparsed =>
    exact lighter_of_load (settle_frame _ _ _).stop (settle_frame _ _ _).control
      (load_begin hhands hparsed)
  | resume hunderWay =>
    exact lighter_of_load (settle_frame _ _ _).stop (settle_frame _ _ _).control
      (load_resume hbusy hunderWay)
  | nothing hnothing => rcases hnothing with rfl | rfl <;> cases hown
  | _ => cases hown

/-! ## What callers can rely on -/

/-- The envelope with this number has been delivered, to the end. -/
def Delivered (p : Pool) (i : Nat) : Prop :=
  ∃ r ∈ p.delivered, r.index = i ∧ p.enqueued[i]? = some r.parcel.envelope ∧ r.IsComplete

/-- A stop that has returned has let everything be delivered that was enqueued before it
was called for, and has left what came behind the last marker. -/
structure Stopped (s : Stop) (p : Pool) : Prop where
  isStopped : p.dispatcher.isRunning = false
  live : p.live = 0
  registry : p.dispatcher.registry = Registry.empty
  hands : p.hands = []
  underWay : p.underWay = []
  delivered : ∀ i < s.before, Delivered p i
  taken : p.taken ≤ s.behind
  /-- No marker is left, and what was not taken waits in order. -/
  queue : p.dispatcher.queue = (p.enqueued.drop p.taken).map .envelope

/-- Nothing more happens to a pool that is left to itself. -/
def Rests (p : Pool) : Prop := ∀ a : Action, a.isOwn → p.act a = none

/-- How many workers are at an envelope. -/
def atWork (p : Pool) : Nat := p.hands.length + p.underWay.length

/-- A pool of this size serves its callers. -/
structure Serves (size : Nat) (p : Pool) : Prop where
  /-- Envelopes are taken in the order in which they were enqueued. -/
  inOrder : waiting p.dispatcher.queue = p.enqueued.drop p.taken
  /-- Each envelope taken is in the hand of one worker, or there is one delivery for it. -/
  once : (numbers p.hands ++ p.records.map (·.index)).Perm (List.range p.taken)
  held : ∀ h ∈ p.hands, p.enqueued[h.index]? = some h.envelope
  own : ∀ r ∈ p.records, p.enqueued[r.index]? = some r.parcel.envelope
  /-- It is over, and complete, or it is under way with a worker that will go on with it. -/
  complete : ∀ r ∈ p.delivered, r.IsComplete
  suspended : ∀ u ∈ p.underWay, u.2.IsAt u.1.delivery
  busy : p.underWay.map (·.1) = p.dispatcher.busy
  bounded : p.atWork ≤ size
  /-- What happened stays on record. -/
  goesOn : ∀ a q, p.act a = some q → Extends p q a.envelope?.toList
  /-- The first envelope can be taken unless the pool is stopped or all workers are at work.  If
  it came while the pool was being stopped, the workers that have not left are all. -/
  waits : ∀ envelope rest, p.dispatcher.queue = .envelope envelope :: rest →
    p.act .take = none → p.dispatcher.isRunning = false ∨ p.atWork = size ∨
      ∃ s, p.stop = some s ∧ s.before ≤ p.taken ∧ p.atWork = p.live
  /-- What waits while the pool is stopped stays until all its workers start. -/
  kept : p.dispatcher.isRunning = false → p.act .take = none ∧
    p.dispatcher.queue = (p.enqueued.drop p.taken).map .envelope ∧
      ∃ q, p.act .start = some q ∧
        q.dispatcher = { p.dispatcher with idle := p.dispatcher.workers, isRunning := true }
  stopped : ∀ q, p.act .finishStop = some q → ∃ s, p.stop = some s ∧ Stopped s q
  /-- That is to say since it was called for. -/
  called : p.dispatcher.isRunning → p.stop = none → ∀ later : List Action, .finishStop ∉ later →
    ∃ s, (p.run (.stop :: later)).stop = some s ∧ s.before = p.enqueued.length
  /-- Left to themselves the tasks come to rest. -/
  progress : ∀ a q, p.act a = some q → a.isOwn → Lighter q.remaining p.remaining
  /-- Then stops have returned, callers are answered, and all is delivered if the pool runs. -/
  rest : p.Rests → p.atWork = 0 ∧ p.stop = none ∧ p.control.pending = [] ∧
    (p.dispatcher.isRunning → ∀ i < p.enqueued.length, Delivered p i)

/-! ## What waits, and what a stop leaves -/

theorem queue_of_no_markers {queue : List QueueItem} (h : markers queue = 0) :
    queue = (waiting queue).map .envelope := by
  induction queue with
  | nil => rfl
  | cons item queue ih =>
    cases item with
    | stop => rw [markers_stop] at h; omega
    | envelope e => exact congrArg _ (ih h)

theorem Accounts.delivered (h : Accounts [] p) (hhands : p.hands = []) (hunderWay : p.underWay = [])
    {i : Nat} (hi : i < p.taken) : Delivered p i := by
  have hindex := h.indices.mem_iff.2 (List.mem_range.2 hi)
  rw [hhands] at hindex
  obtain ⟨r, hr, rfl⟩ := List.mem_map.1 hindex
  have hown := h.own r hr
  have hdelivered : r ∈ p.delivered := by
    rw [List.nil_append, records, hunderWay, List.map_nil, List.append_nil] at hr
    exact hr
  exact ⟨r, hdelivered, rfl, hown, h.complete r hdelivered⟩

/-- The workers are idle or at work. -/
theorem Accounts.live_eq (h : Accounts [] p) : p.live = p.dispatcher.idle + p.atWork := by
  rw [live, Dispatcher.live, ← h.busy, List.length_map, atWork]
  omega

theorem Accounts.nobody (h : Accounts [] p) (hlive : p.live = 0) :
    p.hands = [] ∧ p.underWay = [] := by
  have hnone : p.hands.length = 0 ∧ p.underWay.length = 0 := by
    rw [h.live_eq, atWork] at hlive
    omega
  exact ⟨List.eq_nil_of_length_eq_zero hnone.1, List.eq_nil_of_length_eq_zero hnone.2⟩

theorem stopped_of_finishStop (h : Sound size p) (hq : p.act .finishStop = some q) :
    ∃ s, p.stop = some s ∧ Stopped s q := by
  have hafter := h.act hq
  cases h.step_of_act hq with
  | nothing hnothing => rcases hnothing with hno | hno <;> cases hno
  | finishStop hturn =>
    obtain ⟨s, hstop, hclearing⟩ := h.chronicle.exists_clearing (clear_mem_pending hturn)
    refine ⟨s, hstop, ?_⟩
    obtain ⟨hlive, -⟩ := h.staffed.finishStop hstop hclearing
    obtain ⟨hhands, hunderWay⟩ := h.accounts.nobody hlive
    obtain ⟨-, hmatched, -, hleaving, hbehind, -, -, -⟩ := h.staffed.stopping _ hstop
    -- all workers have left, the first of them behind what was enqueued before the stop
    have hbefore : s.before ≤ p.taken := by
      apply hleaving
      rw [hlive, ← h.staffed.size_eq]
      exact p.dispatcher.workers_pos
    have hpublished : p.published = p.acknowledged ++ [.clear] := by rw [published, hturn]; rfl
    constructor
    case isStopped => rfl
    case live => exact hlive
    case registry =>
      show p.dispatcher.registry = Registry.empty
      rw [h.chronicle.published, hpublished, Registry.replay_concat]
      rfl
    case hands => exact hhands
    case underWay => exact hunderWay
    case delivered =>
      intro i hi
      exact hafter.accounts.delivered hhands hunderWay (Nat.lt_of_lt_of_le hi hbefore)
    case taken => exact Nat.le_of_add_right_le (hbehind (by omega))
    case queue =>
      obtain ⟨-, -, hmarkers⟩ := hafter.staffed.resting rfl
      rw [← hafter.accounts.queued]
      exact queue_of_no_markers hmarkers

/-- Unless no worker is idle or nothing waits, an item can be taken. -/
theorem idle_of_act_take (h : p.act .take = none) :
    p.dispatcher.idle = 0 ∨ p.dispatcher.queue = [] := by
  have htake : p.take? = none := h
  unfold take? at htake
  split at htake
  · cases htake
  · cases htake
  · rename_i hpop
    exact Dispatcher.pop?_eq_none_iff.1 hpop

theorem act_take_of_live (h : p.live = 0) : p.act .take = none := by
  have hidle : p.dispatcher.idle = 0 := by
    rw [live, Dispatcher.live] at h
    omega
  show p.take? = none
  rw [take?, Dispatcher.pop?_eq_none_iff.2 (.inl hidle)]

theorem Sound.waits (h : Sound size p) {envelope : Envelope} {rest : List QueueItem}
    (hqueue : p.dispatcher.queue = .envelope envelope :: rest) (htake : p.act .take = none) :
    p.dispatcher.isRunning = false ∨ p.atWork = size ∨
      ∃ s, p.stop = some s ∧ s.before ≤ p.taken ∧ p.atWork = p.live := by
  have hatWork : p.atWork = p.live := by
    rcases idle_of_act_take htake with hidle | hempty
    · rw [h.accounts.live_eq, hidle, Nat.zero_add]
    · cases hqueue.symm.trans hempty
  cases hrunning : p.dispatcher.isRunning with
  | false => exact .inl rfl
  | true =>
    cases hstop : p.stop with
    | none => exact .inr (.inl (hatWork.trans (h.staffed.serving hrunning hstop).1))
    | some s =>
      rcases Nat.lt_or_eq_of_le h.staffed.bounded with hless | hall
      · exact .inr (.inr ⟨s, rfl, (h.staffed.stopping s hstop).leaving hless, hatWork⟩)
      · exact .inr (.inl (hatWork.trans hall))

/-- A stopped pool keeps its queue, and can be started. -/
theorem Sound.kept (h : Sound size p) (hresting : p.dispatcher.isRunning = false) :
    p.act .take = none ∧ p.dispatcher.queue = (p.enqueued.drop p.taken).map .envelope ∧
      ∃ q, p.act .start = some q ∧
        q.dispatcher = { p.dispatcher with idle := p.dispatcher.workers, isRunning := true } := by
  obtain ⟨hnone, hlive, hmarkers⟩ := h.staffed.resting hresting
  refine ⟨act_take_of_live hlive, ?_, ?_⟩
  · rw [← h.accounts.queued]
    exact queue_of_no_markers hmarkers
  · simp only [Pool.act, hnone, Option.isSome_none, Dispatcher.start, hresting]
    exact ⟨_, rfl, rfl⟩

/-- Until it returns a stop goes back to the moment at which it was called for. -/
theorem stop_of_run {s : Stop} (h : Sound size p) (hstop : p.stop = some s)
    {later : List Action} (hlater : .finishStop ∉ later) :
    ∃ s', (p.run later).stop = some s' ∧ s'.before = s.before := by
  induction later generalizing p s with
  | nil => exact ⟨s, hstop, rfl⟩
  | cons a rest ih =>
    rw [List.mem_cons, not_or] at hlater
    obtain ⟨ha, hrest⟩ := hlater
    cases hq : p.act a with
    | none =>
      rw [run_cons_of_act_none hq]
      exact ih h hstop hrest
    | some q =>
      obtain ⟨s', hs', hbefore⟩ := (h.step_of_act hq).keeps_stop hstop (Ne.symm ha)
      rw [run_cons_of_act hq, ← hbefore]
      exact ih (h.act hq) hs' hrest

theorem stop_called (h : Sound size p) (hrunning : p.dispatcher.isRunning)
    (hnone : p.stop = none) {later : List Action} (hlater : .finishStop ∉ later) :
    ∃ s, (p.run (.stop :: later)).stop = some s ∧ s.before = p.enqueued.length := by
  have hact := act_stop hrunning hnone
  rw [run_cons_of_act hact]
  exact stop_of_run (h.act hact) rfl hlater

/-! ## Rest -/

/-- The callback of every delivery under way can end. -/
theorem exists_resume {u : BusyWorker × Delivery.Record} (hu : u ∈ p.underWay) :
    ∃ q, p.act (.resume u.1.timer) = some q := by
  have hact : p.act (.resume u.1.timer) = p.resume? u.1.timer := rfl
  rw [hact, resume?]
  cases hfind : p.underWay.find? (·.1.timer == u.1.timer) with
  | none => simpa using List.find?_eq_none.1 hfind u hu
  | some v => exact ⟨_, rfl⟩

/-- An envelope in hand can be gone on with. -/
theorem exists_act_of_hand {h : Hand} {rest : List Hand} (hhands : p.hands = h :: rest) :
    ∃ a : Action, a.isOwn ∧ ∃ q, p.act a = some q := by
  have hfind : p.hands.find? (·.index == h.index) = some h := by
    rw [hhands, List.find?_cons_of_pos (by simp)]
  obtain ⟨index, envelope, parsed⟩ := h
  cases parsed with
  | none =>
    refine ⟨.parse index, rfl, ?_⟩
    show ∃ q, p.parse? index = some q
    rw [parse?, hfind]
    exact ⟨_, rfl⟩
  | some parsed =>
    refine ⟨.begin index, rfl, ?_⟩
    show ∃ q, p.begin? index = some q
    rw [begin?, hfind]
    exact ⟨_, rfl⟩

/-- A change that has not been answered can be gone on with. -/
theorem exists_act_of_pending (h : p.control.pending ≠ []) :
    ∃ a : Action, a.isOwn ∧ ∃ q, p.act a = some q := by
  cases hturn : p.control.turn with
  | made c =>
    refine ⟨.publish, rfl, ?_⟩
    simp only [act, hturn]
    exact ⟨_, rfl⟩
  | refused e =>
    refine ⟨.acknowledge, rfl, ?_⟩
    simp only [act, hturn]
    exact ⟨_, rfl⟩
  | published c =>
    cases c with
    | clear =>
      refine ⟨.finishStop, rfl, ?_⟩
      simp only [act, hturn]
      exact ⟨_, rfl⟩
    | add _ _ _ =>
      refine ⟨.acknowledge, rfl, ?_⟩
      simp only [act, hturn]
      exact ⟨_, rfl⟩
    | remove _ _ =>
      refine ⟨.acknowledge, rfl, ?_⟩
      simp only [act, hturn]
      exact ⟨_, rfl⟩
  | waiting =>
    refine ⟨.receive, rfl, ?_⟩
    cases hmailbox : p.control.mailbox with
    | nil =>
      rw [Control.pending, hturn, hmailbox] at h
      exact absurd rfl h
    | cons c mailbox =>
      simp only [act, Control.receive?, hturn, hmailbox]
      cases p.control.registry.apply c with
      | ok registry => exact ⟨_, rfl⟩
      | error e => exact ⟨_, rfl⟩

theorem Rests.not_act (h : p.Rests) : ¬ ∃ a : Action, a.isOwn ∧ ∃ q, p.act a = some q := by
  rintro ⟨a, hown, q, hq⟩
  cases hq.symm.trans (h a hown)

theorem Rests.pending_eq_nil (h : p.Rests) : p.control.pending = [] := by
  by_contra hne
  exact h.not_act (exists_act_of_pending hne)

theorem Rests.hands_eq_nil (h : p.Rests) : p.hands = [] := by
  cases hhands : p.hands with
  | nil => rfl
  | cons hand rest => exact absurd (exists_act_of_hand hhands) h.not_act

theorem Rests.underWay_eq_nil (h : p.Rests) : p.underWay = [] := by
  cases hunderWay : p.underWay with
  | nil => rfl
  | cons u rest =>
    obtain ⟨q, hq⟩ := exists_resume (p := p) (u := u) (by simp [hunderWay])
    exact absurd ⟨_, rfl, q, hq⟩ h.not_act

theorem Rests.atWork_eq_zero (h : p.Rests) : p.atWork = 0 := by
  rw [atWork, h.hands_eq_nil, h.underWay_eq_nil]
  rfl

theorem Rests.deserted (h : p.Rests) (haccounts : Accounts [] p) :
    p.live = 0 ∨ p.dispatcher.queue = [] := by
  rcases idle_of_act_take (h .take rfl) with hidle | hempty
  · left
    rw [haccounts.live_eq, hidle, h.atWork_eq_zero]
  · exact .inr hempty

/-- A stop does not wait for anything but the workers and the control task. -/
theorem Rests.stop_eq_none (h : p.Rests) (hsound : Sound size p) : p.stop = none := by
  cases hstop : p.stop with
  | none => rfl
  | some s =>
    obtain ⟨before, left, behind, isClearing⟩ := s
    cases left with
    | succ left =>
      have hmark := h .mark rfl
      simp only [act, hstop] at hmark
      cases hmark
    | zero =>
      cases isClearing with
      | false =>
        have hlive := hsound.staffed.live_eq_zero hstop rfl (h.deserted hsound.accounts)
        have hretire := h .retire rfl
        simp only [act, hstop, hlive, if_true] at hretire
        cases hretire
      | true =>
        have hclearing := hsound.chronicle.clearing
        rw [h.pending_eq_nil, hstop] at hclearing
        cases hclearing

theorem Rests.taken_eq (h : p.Rests) (hsound : Sound size p) (hrunning : p.dispatcher.isRunning) :
    p.taken = p.enqueued.length := by
  obtain ⟨hall, -⟩ := hsound.staffed.serving hrunning (h.stop_eq_none hsound)
  have hpos := p.dispatcher.workers_pos
  have hwaiting := length_waiting hsound.accounts
  rw [hsound.staffed.size_eq] at hpos
  rcases h.deserted hsound.accounts with hlive | hempty
  · omega
  · rw [hempty] at hwaiting
    exact hwaiting

/-! ## Everything together -/

theorem Sound.serves (h : Sound size p) : Serves size p := by
  constructor
  case inOrder => exact h.accounts.queued
  case once => exact h.accounts.indices
  case held => exact h.accounts.held
  case own => exact h.accounts.own
  case complete => exact h.accounts.complete
  case suspended => exact h.accounts.suspended
  case busy => exact h.accounts.busy
  case bounded =>
    have hlive := h.accounts.live_eq
    have hbounded := h.staffed.bounded
    omega
  case goesOn =>
    intro a q hq
    exact (h.step_of_act hq).goesOn
  case waits =>
    intro envelope rest hqueue htake
    exact h.waits hqueue htake
  case kept =>
    intro hresting
    exact h.kept hresting
  case stopped =>
    intro q hq
    exact stopped_of_finishStop h hq
  case called =>
    intro hrunning hnone later hlater
    exact stop_called h hrunning hnone hlater
  case progress =>
    intro a q hq hown
    exact (h.step_of_act hq).lighter h.accounts.busy hown
  case rest =>
    intro hrests
    refine ⟨hrests.atWork_eq_zero, hrests.stop_eq_none h, hrests.pending_eq_nil, ?_⟩
    intro hrunning i hi
    apply h.accounts.delivered hrests.hands_eq_nil hrests.underWay_eq_nil
    rw [hrests.taken_eq h hrunning]
    exact hi

/-- Every pool serves its callers, in whatever order it takes its steps. -/
theorem run_serves (workers : Nat) (caches : Parsed.Caches) (actions : List Action) :
    ((ofWorkers workers caches).run actions).Serves (max 1 workers) :=
  ((sound_ofWorkers workers caches).run actions).serves

/-- Two workers are stopped while one of them is at a callback: the other leaves, and an envelope
that comes then waits in front of the second marker. -/
def overtakenStop : List Action :=
  [.draw, .sendAdd 1 (.raw fun _ => { delay := 1000 }) 0, .receive, .publish, .acknowledge, .start,
    .enqueue ⟨.other "first", Peers.none⟩, .take, .parse 0, .begin 0, .stop, .mark, .take,
    .enqueue ⟨.other "second", Peers.none⟩, .mark]

/-- The pool runs, and one of two workers is at work, but nobody can take the first envelope. -/
theorem envelope_waits_for_one_worker :
    let p := (ofWorkers 2 (Parsed.Caches.ofCapacities 1 1)).run overtakenStop
    p.dispatcher.queue = [.envelope ⟨.other "second", Peers.none⟩, .stop] ∧
      p.act .take = none ∧ p.dispatcher.isRunning ∧ p.atWork = 1 :=
  ⟨rfl, rfl, rfl, rfl⟩

end Pool

end UpdatePipeline
