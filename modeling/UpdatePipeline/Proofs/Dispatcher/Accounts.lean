import UpdatePipeline.Proofs.Dispatcher.Pool
set_option autoImplicit false

/-!
# Every envelope is accounted for

Whatever the order of a pool's steps, what waits in the queue is what was enqueued less
what was taken from its front, and each envelope taken is in the hand of one worker, or there is
one delivery on record, which is over or under way with one worker.  Every step keeps it so
(`Pool.Accounts.step`).
-/

namespace UpdatePipeline

/-- The envelope in an item. -/
def QueueItem.envelope? : QueueItem → Option Envelope
  | .envelope e => some e
  | .stop => none

/-- The envelopes that wait in a queue. -/
def waiting (queue : List QueueItem) : List Envelope := queue.filterMap QueueItem.envelope?

theorem waiting_append (q r : List QueueItem) : waiting (q ++ r) = waiting q ++ waiting r :=
  List.filterMap_append

namespace Delivery.Record

/-- It is over, and everything has been seen of it. -/
def IsComplete (r : Record) : Prop := r.events = (r.registry.deliver r.parcel).1

/-- It is the delivery suspended here: what was seen of it and what remains make up the
whole. -/
def IsAt (r : Record) (s : Suspended) : Prop :=
  s.parcel = r.parcel ∧
    r.registry.deliver r.parcel = (r.events ++ s.remainder.1, s.remainder.2)

end Delivery.Record

namespace Pool

/-- All deliveries on record. -/
def records (p : Pool) : List Delivery.Record := p.delivered ++ p.underWay.map (·.2)

/-- A delivery that has come to a status is on record, and so are the others. -/
theorem records_settle (p : Pool) (record : Delivery.Record) (status : Delivery.Status) :
    (p.settle record status).records.Perm (record :: p.records) := by
  cases status with
  | finished endedBy =>
    show ((p.delivered ++ [record]) ++ p.underWay.map (·.2)).Perm _
    rw [List.append_assoc]
    exact List.perm_middle
  | suspended delay s =>
    show (p.delivered ++ (p.underWay ++ [_]).map Prod.snd).Perm _
    rw [List.map_append, ← List.append_assoc]
    exact List.perm_append_singleton _ _

/-- A delivery that is gone on with is not on record meanwhile. -/
theorem records_pickUp {p : Pool} {front back : List (BusyWorker × Delivery.Record)}
    {worker : BusyWorker} {record : Delivery.Record}
    (hunderWay : p.underWay = front ++ (worker, record) :: back) :
    (record :: (p.pickUp (front ++ back)).records).Perm p.records := by
  show (record :: (p.delivered ++ (front ++ back).map Prod.snd)).Perm _
  rw [records, hunderWay, List.map_append, List.map_append, List.map_cons, ← List.append_assoc,
    ← List.append_assoc]
  exact List.perm_middle.symm

/-- The numbers of the envelopes in these hands. -/
def numbers (hands : List Hand) : List Nat := hands.map (·.index)

theorem numbers_append (hands more : List Hand) :
    numbers (hands ++ more) = numbers hands ++ numbers more := List.map_append

/-- Every envelope is accounted for, when these deliveries are just being gone on with. -/
structure Accounts (current : List Delivery.Record) (p : Pool) : Prop where
  queued : waiting p.dispatcher.queue = p.enqueued.drop p.taken
  within : p.taken ≤ p.enqueued.length
  busy : p.underWay.map (·.1) = p.dispatcher.busy
  /-- Each envelope taken is in one hand, or there is one delivery for it. -/
  indices : (numbers p.hands ++ (current ++ p.records).map (·.index)).Perm (List.range p.taken)
  held : ∀ h ∈ p.hands, p.enqueued[h.index]? = some h.envelope
  own : ∀ r ∈ current ++ p.records, p.enqueued[r.index]? = some r.parcel.envelope
  complete : ∀ r ∈ p.delivered, r.IsComplete
  suspended : ∀ u ∈ p.underWay, u.2.IsAt u.1.delivery

variable {current : List Delivery.Record} {p q : Pool}

/-- Steps that touch neither the record nor what it is about leave it right. -/
theorem Accounts.congr (h : Accounts current p)
    (hqueue : waiting q.dispatcher.queue = waiting p.dispatcher.queue)
    (hbusy : q.dispatcher.busy = p.dispatcher.busy)
    (hhistory : q.enqueued = p.enqueued ∧ q.taken = p.taken ∧ q.hands = p.hands ∧
      q.underWay = p.underWay ∧ q.delivered = p.delivered) : Accounts current q := by
  obtain ⟨henqueued, htaken, hhands, hunderWay, hdelivered⟩ := hhistory
  have hrecords : q.records = p.records := by rw [records, records, hunderWay, hdelivered]
  constructor
  case queued => rw [hqueue, henqueued, htaken, h.queued]
  case within => rw [henqueued, htaken]; exact h.within
  case busy => rw [hunderWay, hbusy, h.busy]
  case indices => rw [hrecords, hhands, htaken]; exact h.indices
  case held => rw [hhands, henqueued]; exact h.held
  case own => rw [hrecords, henqueued]; exact h.own
  case complete => rw [hdelivered]; exact h.complete
  case suspended => rw [hunderWay]; exact h.suspended

/-- What an envelope is does not change when more come behind it. -/
theorem getElem?_enqueue {envelopes : List Envelope} {i : Nat} {e : Envelope}
    (h : envelopes[i]? = some e) (more : List Envelope) : (envelopes ++ more)[i]? = some e := by
  obtain ⟨hlt, -⟩ := List.getElem?_eq_some_iff.1 h
  rw [List.getElem?_append_left hlt, h]

theorem Accounts.enqueue (h : Accounts [] p) (envelope : Envelope) :
    Accounts [] { p with
      dispatcher := p.dispatcher.enqueue envelope, enqueued := p.enqueued ++ [envelope] } where
  queued := by
    show waiting (p.dispatcher.queue ++ [.envelope envelope]) = _
    rw [waiting_append, h.queued, List.drop_append_of_le_length h.within]
    rfl
  within := by
    rw [List.length_append]
    exact Nat.le_add_right_of_le h.within
  busy := h.busy
  indices := h.indices
  held hand hhand := getElem?_enqueue (h.held hand hhand) [envelope]
  own r hr := getElem?_enqueue (h.own r hr) [envelope]
  complete := h.complete
  suspended := h.suspended

/-- A worker that has taken an envelope has it in hand. -/
theorem Accounts.grasp (h : Accounts [] p) {envelope : Envelope} {queue : List QueueItem}
    (hqueue : p.dispatcher.queue = .envelope envelope :: queue) (idle : Nat) :
    Accounts [] ((p.withdraw idle queue).grasp envelope) := by
  have hdrop : p.enqueued.drop p.taken = envelope :: waiting queue := by
    rw [← h.queued, hqueue]
    rfl
  -- the envelope is the one whose turn it is
  have hfirst : p.enqueued[p.taken]? = some envelope := by
    have hhead := congrArg (·[0]?) hdrop
    simpa [List.getElem?_drop] using hhead
  constructor
  case queued =>
    show waiting queue = p.enqueued.drop (p.taken + 1)
    rw [← List.drop_drop, hdrop]
    rfl
  case within =>
    obtain ⟨hlt, -⟩ := List.getElem?_eq_some_iff.1 hfirst
    exact hlt
  case busy => exact h.busy
  case indices =>
    show (numbers (p.hands ++ [_]) ++ p.records.map (·.index)).Perm (List.range (p.taken + 1))
    rw [numbers_append, List.append_assoc, List.range_succ]
    exact List.perm_middle.trans ((h.indices.cons p.taken).trans
      (List.perm_append_singleton _ _).symm)
  case held =>
    intro hand hhand
    rcases List.mem_append.1 hhand with hold | hnew
    · exact h.held hand hold
    · obtain rfl := List.mem_singleton.1 hnew
      exact hfirst
  case own => exact h.own
  case complete => exact h.complete
  case suspended => exact h.suspended

section Hands

variable {front back : List Hand} {h : Hand}

theorem mem_of_others (hhands : p.hands = front ++ h :: back) {other : Hand}
    (hother : other ∈ front ++ back) : other ∈ p.hands := by
  rw [hhands, List.mem_append, List.mem_cons]
  exact (List.mem_append.1 hother).imp_right .inr

theorem numbers_perm (hhands : p.hands = front ++ h :: back) :
    (h.index :: numbers (front ++ back)).Perm (numbers p.hands) := by
  rw [hhands]
  exact List.perm_middle.symm.map Hand.index

/-- It is the same envelope once it is parsed. -/
theorem Accounts.unpack (haccounts : Accounts [] p) (hhands : p.hands = front ++ h :: back) :
    Accounts [] (p.unpack (front ++ back) h) := by
  constructor
  case queued => exact haccounts.queued
  case within => exact haccounts.within
  case busy => exact haccounts.busy
  case indices =>
    have hmoved := (List.perm_append_singleton h.index _).trans (numbers_perm hhands)
    show (numbers (front ++ back ++ [_]) ++ _).Perm _
    rw [numbers_append]
    exact (hmoved.append_right _).trans haccounts.indices
  case held =>
    intro hand hhand
    rcases List.mem_append.1 hhand with hother | hown
    · exact haccounts.held hand (mem_of_others hhands hother)
    · obtain rfl := List.mem_singleton.1 hown
      exact haccounts.held h (by simp [hhands])
  case own => exact haccounts.own
  case complete => exact haccounts.complete
  case suspended => exact haccounts.suspended

/-- A worker that begins a delivery has the envelope in hand no more. -/
theorem Accounts.begun (haccounts : Accounts [] p) (hhands : p.hands = front ++ h :: back)
    (parsed : Option Parsed.Update) :
    Accounts [p.begun h parsed] { p with hands := front ++ back } := by
  constructor
  case queued => exact haccounts.queued
  case within => exact haccounts.within
  case busy => exact haccounts.busy
  case indices =>
    show (numbers (front ++ back) ++ h.index :: p.records.map (·.index)).Perm _
    exact List.perm_middle.trans (((numbers_perm hhands).append_right _).trans haccounts.indices)
  case held => exact fun hand hhand => haccounts.held hand (mem_of_others hhands hhand)
  case own =>
    intro r hr
    rcases List.mem_cons.1 hr with rfl | hrest
    · exact haccounts.held h (by simp [hhands])
    · exact haccounts.own r hrest
  case complete => exact haccounts.complete
  case suspended => exact haccounts.suspended

end Hands

/-- So it is with a delivery that is gone on with. -/
theorem Accounts.pickUp (h : Accounts [] p) {front back : List (BusyWorker × Delivery.Record)}
    {worker : BusyWorker} {record : Delivery.Record}
    (hunderWay : p.underWay = front ++ (worker, record) :: back) (events : List Delivery.Event) :
    Accounts [{ record with events }] (p.pickUp (front ++ back)) := by
  have hperm := records_pickUp hunderWay
  constructor
  case queued => exact h.queued
  case within => exact h.within
  case busy => rfl
  case indices => exact ((hperm.map (·.index)).append_left _).trans h.indices
  case held => exact h.held
  case own =>
    intro r hr
    rcases List.mem_cons.1 hr with rfl | hrest
    · exact h.own record (hperm.mem_iff.1 List.mem_cons_self)
    · exact h.own r (hperm.mem_iff.1 (List.mem_cons_of_mem _ hrest))
  case complete => exact h.complete
  case suspended =>
    intro u hu
    apply h.suspended u
    rw [hunderWay]
    rcases List.mem_append.1 hu with hfront | hback
    · exact List.mem_append_left _ hfront
    · exact List.mem_append_right _ (List.mem_cons_of_mem _ hback)

/-- Once that delivery has come to a status the record is as it was before. -/
theorem Accounts.settle {record : Delivery.Record} {status : Delivery.Status}
    (h : Accounts [record] p)
    (hwhole : record.registry.deliver record.parcel = Delivery.whole (record.events, status))
    (hparcel : ∀ delay s, status = .suspended delay s → s.parcel = record.parcel) :
    Accounts [] (p.settle record status) := by
  have hqueue : (p.settle record status).dispatcher.queue = p.dispatcher.queue := by
    obtain ⟨idle, busy, hframe⟩ := (p.settle_frame record status).dispatcher
    rw [hframe]
  have hperm := p.records_settle record status
  cases status with
  | finished endedBy =>
    constructor
    case queued => rw [hqueue]; exact h.queued
    case within => exact h.within
    case busy =>
      refine h.busy.trans ?_
      show _ = (p.dispatcher.settleWorker p.clock (.finished endedBy)).1.busy
      simp only [Dispatcher.settleWorker]
      split <;> rfl
    case indices => exact ((hperm.map (·.index)).append_left _).trans h.indices
    case held => exact h.held
    case own => exact fun r hr => h.own r (hperm.mem_iff.1 hr)
    case complete =>
      intro r hr
      rcases List.mem_append.1 hr with hold | hnew
      · exact h.complete r hold
      · obtain rfl := List.mem_singleton.1 hnew
        rw [Delivery.Record.IsComplete, hwhole]
        exact (List.append_nil _).symm
    case suspended => exact h.suspended
  | suspended delay s =>
    constructor
    case queued => rw [hqueue]; exact h.queued
    case within => exact h.within
    case busy =>
      show (p.underWay ++ [_]).map Prod.fst = p.dispatcher.busy ++ [_]
      rw [List.map_append, h.busy]
      rfl
    case indices => exact ((hperm.map (·.index)).append_left _).trans h.indices
    case held => exact h.held
    case own => exact fun r hr => h.own r (hperm.mem_iff.1 hr)
    case complete => exact h.complete
    case suspended =>
      intro u hu
      rcases List.mem_append.1 hu with hold | hnew
      · exact h.suspended u hold
      · obtain rfl := List.mem_singleton.1 hnew
        exact ⟨hparcel delay s rfl, hwhole⟩

/-- Every step keeps the account of all envelopes. -/
theorem Accounts.step {a : Action} (h : Accounts [] p) (hstep : Step p a q) : Accounts [] q := by
  cases hstep with
  | enqueue envelope => exact h.enqueue envelope
  | mark _ =>
    refine h.congr ?_ rfl ⟨rfl, rfl, rfl, rfl, rfl⟩
    show waiting (p.dispatcher.queue ++ [.stop]) = _
    rw [waiting_append]
    exact List.append_nil _
  | leave _ hqueue =>
    refine h.congr ?_ rfl ⟨rfl, rfl, rfl, rfl, rfl⟩
    rw [hqueue]
    rfl
  | take _ hqueue => exact h.grasp hqueue _
  | parse hhands _ => exact h.unpack hhands
  | begin hhands _ =>
    apply (h.begun hhands _).settle
    · rw [Registry.deliver_eq]
      exact Delivery.walkThrough_eq Delivery.takesTime _ _
    · intro delay s hs
      exact (Delivery.suspended_of_walk hs).1
  | @resume _ front back worker record hunderWay =>
    obtain ⟨hparcel, hwhole⟩ := h.suspended (worker, record) (by simp [hunderWay])
    apply (h.pickUp hunderWay _).settle
    · show record.registry.deliver record.parcel = _
      rw [hwhole, Delivery.remainder_eq_resume, Delivery.whole, Delivery.whole, List.append_assoc]
    · intro delay s hs
      exact (Delivery.suspended_of_resume hs).1.trans hparcel
  | _ => exact h.congr rfl rfl ⟨rfl, rfl, rfl, rfl, rfl⟩

theorem accounts_ofWorkers (workers : Nat) (caches : Parsed.Caches) :
    Accounts [] (ofWorkers workers caches) where
  queued := rfl
  within := Nat.le_refl 0
  busy := rfl
  indices := .refl _
  held _ hh := absurd hh List.not_mem_nil
  own _ hr := absurd hr List.not_mem_nil
  complete _ hr := absurd hr List.not_mem_nil
  suspended _ hu := absurd hu List.not_mem_nil

end Pool

end UpdatePipeline
