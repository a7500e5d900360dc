import UpdatePipeline.Proofs.Dispatcher.Chronicle
set_option autoImplicit false

/-!
# Workers come and leave together

As long as a pool runs and nobody stops it there are as many workers as it was made with,
and no marker is in the queue.  While a stop is under way there are as many workers as
markers, those counted in that are still to be put there; the first worker leaves only when
all that was enqueued before the stop has been taken, and none is left to take what comes
behind the last marker (`Pool.Staffed.step`).  So, whatever happens, everything about a pool stays
in order (`Pool.Sound.run`).
-/

namespace UpdatePipeline

/-! ## Markers in a queue -/

/-- Whether an item is a marker. -/
def QueueItem.isMarker : QueueItem → Bool
  | .envelope _ => false
  | .stop => true

/-- How many markers are in a queue. -/
def markers (queue : List QueueItem) : Nat := queue.countP QueueItem.isMarker

/-- How many envelopes are in front of all markers. -/
def ahead : List QueueItem → Nat
  | .envelope _ :: rest => ahead rest + 1
  | _ => 0

/-- How many envelopes are in front of the last marker. -/
def within : List QueueItem → Nat
  | [] => 0
  | .stop :: rest => within rest
  | .envelope _ :: rest => if markers rest = 0 then 0 else within rest + 1

section Queues

variable (q r : List QueueItem) (e : Envelope)

theorem markers_append : markers (q ++ r) = markers q + markers r := List.countP_append

theorem markers_envelope : markers (.envelope e :: q) = markers q := rfl

theorem markers_stop : markers (.stop :: q) = markers q + 1 := by
  rw [markers, List.countP_cons_of_pos rfl]
  rfl

theorem ahead_le_append : ahead q ≤ ahead (q ++ r) := by
  induction q with
  | nil => exact Nat.zero_le _
  | cons item q ih =>
    cases item with
    | stop => exact Nat.zero_le _
    | envelope e => exact Nat.succ_le_succ ih

theorem ahead_of_no_markers (h : markers q = 0) : ahead q = (waiting q).length := by
  induction q with
  | nil => rfl
  | cons item q ih =>
    cases item with
    | stop => rw [markers_stop] at h; omega
    | envelope e => exact congrArg (· + 1) (ih h)

theorem within_append_envelope : within (q ++ [.envelope e]) = within q := by
  induction q with
  | nil => rfl
  | cons item q ih =>
    cases item with
    | stop => exact ih
    | envelope e' => rw [List.cons_append, within, within, ih, markers_append]; rfl

theorem within_append_stop : within (q ++ [.stop]) = (waiting q).length := by
  induction q with
  | nil => rfl
  | cons item q ih =>
    cases item with
    | stop => exact ih
    | envelope e =>
      rw [List.cons_append, within, ih, markers_append, if_neg]
      · rfl
      · rw [markers_stop]; omega

end Queues

/-! ## Staff -/

namespace Pool

/-- A stop of this pool is under way in good order, with so many of its workers left. -/
structure Stopping (size live : Nat) (p : Pool) (s : Stop) : Prop where
  isRunning : p.dispatcher.isRunning
  /-- There is a marker for every worker. -/
  matched : live = markers p.dispatcher.queue + s.left
  /-- What was enqueued before has been taken or is in front of all markers. -/
  inFront : s.before ≤ p.taken + ahead p.dispatcher.queue
  /-- It has been taken when the first worker leaves. -/
  leaving : live < size → s.before ≤ p.taken
  /-- What is in front of the last marker was enqueued before it. -/
  notBehind : s.left = 0 → p.taken + within p.dispatcher.queue ≤ s.behind
  order : s.before ≤ s.behind
  past : s.behind ≤ p.enqueued.length
  /-- The registrations are dropped when the last worker has left. -/
  deserted : s.isClearing → live = 0

/-- A pool of this size has as many workers as it should have. -/
structure Staffed (size live : Nat) (p : Pool) : Prop where
  size_eq : p.dispatcher.workers = size
  isKept : p.dispatcher.isDropped = false
  bounded : live ≤ size
  resting : p.dispatcher.isRunning = false →
    p.stop = none ∧ live = 0 ∧ markers p.dispatcher.queue = 0
  serving : p.dispatcher.isRunning → p.stop = none →
    live = size ∧ markers p.dispatcher.queue = 0
  stopping : ∀ s, p.stop = some s → Stopping size live p s

variable {size live : Nat} {p q : Pool}

theorem Staffed.congr (h : Staffed size live p)
    (hframe : ∃ idle busy registry caches nextId,
      q.dispatcher = { p.dispatcher with idle, busy, registry, caches, nextId })
    (hhistory : q.stop = p.stop ∧ q.enqueued = p.enqueued ∧ q.taken = p.taken) :
    Staffed size live q := by
  obtain ⟨idle, busy, registry, caches, nextId, hframe⟩ := hframe
  obtain ⟨hstop, henqueued, htaken⟩ := hhistory
  constructor
  case size_eq => rw [hframe]; exact h.size_eq
  case isKept => rw [hframe]; exact h.isKept
  case bounded => exact h.bounded
  case resting => rw [hframe, hstop]; exact h.resting
  case serving => rw [hframe, hstop]; exact h.serving
  case stopping =>
    intro s hs
    obtain ⟨hrunning, hmatched, hfront, hleaving, hbehind, horder, hpast, hdeserted⟩ :=
      h.stopping s (hstop.symm.trans hs)
    exact ⟨by rwa [hframe], by rwa [hframe], by rwa [hframe, htaken], by rwa [htaken],
      by rwa [hframe, htaken], horder, by rwa [henqueued], hdeserted⟩

theorem Staffed.settle (h : Staffed size live p) (record : Delivery.Record)
    (status : Delivery.Status) : Staffed size live (p.settle record status) := by
  have hframe := p.settle_frame record status
  obtain ⟨idle, busy, hdispatcher⟩ := hframe.dispatcher
  exact h.congr ⟨idle, busy, _, _, _, hdispatcher⟩ ⟨hframe.stop, hframe.enqueued, hframe.taken⟩

/-- Where there are workers and a marker a stop is under way. -/
theorem Staffed.exists_stop (h : Staffed size (live + 1) p) {queue : List QueueItem}
    (hqueue : p.dispatcher.queue = .stop :: queue) : ∃ s, p.stop = some s := by
  cases hstop : p.stop with
  | some s => exact ⟨s, rfl⟩
  | none =>
    cases hrunning : p.dispatcher.isRunning with
    | false =>
      obtain ⟨-, hlive, -⟩ := h.resting hrunning
      omega
    | true =>
      obtain ⟨-, hmarkers⟩ := h.serving hrunning hstop
      rw [hqueue, markers_stop] at hmarkers
      omega

/-- Once the workers of a stop whose markers are all in the queue have come to rest, they have
left: each would have its marker in the queue. -/
theorem Staffed.live_eq_zero (h : Staffed size live p) {s : Stop} (hstop : p.stop = some s)
    (hleft : s.left = 0) (hrest : live = 0 ∨ p.dispatcher.queue = []) :
    live = 0 := by
  rcases hrest with hlive | hempty
  · exact hlive
  · rw [(h.stopping s hstop).matched, hempty, hleft]
    rfl

/-- A worker that takes a marker leaves, and the marker with it. -/
theorem Staffed.leave (h : Staffed size (live + 1) p) {queue : List QueueItem}
    (hqueue : p.dispatcher.queue = .stop :: queue) (idle : Nat) :
    Staffed size live (p.withdraw idle queue) := by
  obtain ⟨s, hs⟩ := h.exists_stop hqueue
  obtain ⟨hrunning, hmatched, hfront, -, hbehind, horder, hpast, hdeserted⟩ := h.stopping s hs
  rw [hqueue, markers_stop] at hmatched
  rw [hqueue] at hfront hbehind
  constructor
  case size_eq => exact h.size_eq
  case isKept => exact h.isKept
  case bounded => exact Nat.le_of_succ_le h.bounded
  case resting =>
    intro hresting
    cases hrunning.symm.trans hresting
  case serving =>
    intro _ hnone
    cases hs.symm.trans hnone
  case stopping =>
    intro s' hs'
    obtain rfl := Option.some.inj (hs.symm.trans hs')
    -- with a marker first in the queue, all that came before the stop has been taken
    refine ⟨hrunning, ?_, Nat.le_add_right_of_le hfront, fun _ => hfront, hbehind, horder, hpast,
      ?_⟩
    · show live = markers queue + s.left
      omega
    · intro hclearing
      cases hdeserted hclearing

/-- A worker that takes an envelope stays. -/
theorem Staffed.grasp (h : Staffed size (live + 1) p) {envelope : Envelope}
    {queue : List QueueItem} (hqueue : p.dispatcher.queue = .envelope envelope :: queue)
    (idle : Nat) : Staffed size (live + 1) ((p.withdraw idle queue).grasp envelope) := by
  constructor
  case size_eq => exact h.size_eq
  case isKept => exact h.isKept
  case bounded => exact h.bounded
  case resting =>
    intro hresting
    obtain ⟨-, hlive, -⟩ := h.resting hresting
    omega
  case serving =>
    intro hrunning hnone
    obtain ⟨hlive, hmarkers⟩ := h.serving hrunning hnone
    rw [hqueue, markers_envelope] at hmarkers
    exact ⟨hlive, hmarkers⟩
  case stopping =>
    intro s hs
    obtain ⟨hrunning, hmatched, hfront, hleaving, hbehind, horder, hpast, hdeserted⟩ :=
      h.stopping s hs
    rw [hqueue, markers_envelope] at hmatched
    rw [hqueue, ahead] at hfront
    rw [hqueue, within] at hbehind
    refine ⟨hrunning, hmatched, ?_, fun hlt => Nat.le_succ_of_le (hleaving hlt), ?_, horder, hpast,
      hdeserted⟩
    · show s.before ≤ p.taken + 1 + ahead queue
      omega
    · intro hleft
      -- the worker itself has its marker further back
      have hlast := hbehind hleft
      rw [if_neg (by omega)] at hlast
      show p.taken + 1 + within queue ≤ s.behind
      omega

theorem Staffed.enqueue (h : Staffed size live p) (envelope : Envelope) :
    Staffed size live { p with
      dispatcher := p.dispatcher.enqueue envelope, enqueued := p.enqueued ++ [envelope] } := by
  have hmarkers : markers (p.dispatcher.queue ++ [.envelope envelope]) =
      markers p.dispatcher.queue := by
    rw [markers_append, markers_envelope]
    rfl
  constructor
  case size_eq => exact h.size_eq
  case isKept => exact h.isKept
  case bounded => exact h.bounded
  case resting =>
    intro hresting
    obtain ⟨hnone, hlive, hqueue⟩ := h.resting hresting
    exact ⟨hnone, hlive, hmarkers.trans hqueue⟩
  case serving =>
    intro hrunning hnone
    obtain ⟨hlive, hqueue⟩ := h.serving hrunning hnone
    exact ⟨hlive, hmarkers.trans hqueue⟩
  case stopping =>
    intro s hs
    obtain ⟨hrunning, hmatched, hfront, hleaving, hbehind, horder, hpast, hdeserted⟩ :=
      h.stopping s hs
    refine ⟨hrunning, ?_, ?_, hleaving, ?_, horder, ?_, hdeserted⟩
    · show live = markers (p.dispatcher.queue ++ [.envelope envelope]) + s.left
      rw [hmarkers]
      exact hmatched
    · have hgrows := ahead_le_append p.dispatcher.queue [.envelope envelope]
      exact Nat.le_trans hfront (Nat.add_le_add_left hgrows _)
    · show s.left = 0 → p.taken + within (p.dispatcher.queue ++ [.envelope envelope]) ≤ s.behind
      rw [within_append_envelope]
      exact hbehind
    · rw [List.length_append]
      exact Nat.le_add_right_of_le hpast

theorem Staffed.start (h : Staffed size live p) (hresting : p.dispatcher.isRunning = false) :
    Staffed size size { p with
      dispatcher := { p.dispatcher with idle := p.dispatcher.workers, isRunning := true } } := by
  obtain ⟨hnone, -, hmarkers⟩ := h.resting hresting
  constructor
  case size_eq => exact h.size_eq
  case isKept => exact h.isKept
  case bounded => exact Nat.le_refl size
  case resting =>
    intro hresting
    cases hresting
  case serving =>
    intro _ _
    exact ⟨rfl, hmarkers⟩
  case stopping =>
    intro s hs
    cases hnone.symm.trans hs

theorem length_waiting (haccounts : Accounts [] p) :
    p.taken + (waiting p.dispatcher.queue).length = p.enqueued.length := by
  rw [haccounts.queued, List.length_drop]
  exact Nat.add_sub_cancel' haccounts.within

/-- A stop finds the workers of the start, and no marker in the queue. -/
theorem Staffed.stop (h : Staffed size live p) (haccounts : Accounts [] p)
    (hrunning : p.dispatcher.isRunning) (hnone : p.stop = none) :
    Staffed size live { p with
      stop := some ⟨p.enqueued.length, p.dispatcher.workers, p.enqueued.length, false⟩ } := by
  obtain ⟨hlive, hmarkers⟩ := h.serving hrunning hnone
  have hwaiting := length_waiting haccounts
  constructor
  case size_eq => exact h.size_eq
  case isKept => exact h.isKept
  case bounded => exact h.bounded
  case resting =>
    intro hresting
    cases hrunning.symm.trans hresting
  case serving =>
    intro _ hnone
    cases hnone
  case stopping =>
    intro s hs
    obtain rfl := Option.some.inj hs
    refine ⟨hrunning, ?_, ?_, ?_, ?_, Nat.le_refl _, Nat.le_refl _, nofun⟩
    · show live = markers p.dispatcher.queue + p.dispatcher.workers
      rw [hmarkers, h.size_eq, hlive, Nat.zero_add]
    · show p.enqueued.length ≤ p.taken + ahead p.dispatcher.queue
      apply Nat.le_of_eq
      rw [ahead_of_no_markers _ hmarkers, hwaiting]
    · intro hlt
      omega
    · intro hleft
      have hpos := p.dispatcher.workers_pos
      have hzero : p.dispatcher.workers = 0 := hleft
      omega

theorem Staffed.mark (h : Staffed size live p) (haccounts : Accounts [] p)
    {before left behind : Nat} {isClearing : Bool}
    (hstop : p.stop = some ⟨before, left + 1, behind, isClearing⟩) :
    Staffed size live { p with
      dispatcher := p.dispatcher.mark
      stop := some ⟨before, left, p.enqueued.length, isClearing⟩ } := by
  obtain ⟨hrunning, hmatched, hfront, hleaving, -, horder, hpast, hdeserted⟩ := h.stopping _ hstop
  constructor
  case size_eq => exact h.size_eq
  case isKept => exact h.isKept
  case bounded => exact h.bounded
  case resting =>
    intro hresting
    cases hrunning.symm.trans hresting
  case serving =>
    intro _ hnone
    cases hnone
  case stopping =>
    intro s hs
    obtain rfl := Option.some.inj hs
    refine ⟨hrunning, ?_, ?_, hleaving, ?_, Nat.le_trans horder hpast, Nat.le_refl _, hdeserted⟩
    · show live = markers (p.dispatcher.queue ++ [.stop]) + left
      rw [markers_append, hmatched, Nat.add_assoc, Nat.add_comm left 1]
      rfl
    · have hgrows := ahead_le_append p.dispatcher.queue [.stop]
      exact Nat.le_trans hfront (Nat.add_le_add_left hgrows _)
    · intro _
      show p.taken + within (p.dispatcher.queue ++ [.stop]) ≤ p.enqueued.length
      apply Nat.le_of_eq
      rw [within_append_stop, length_waiting haccounts]

/-- A stop that no worker is left for goes on to the registrations. -/
theorem Staffed.retire (h : Staffed size 0 p) {before behind : Nat}
    (hstop : p.stop = some ⟨before, 0, behind, false⟩) (control : Control) :
    Staffed size 0 { p with control, stop := some ⟨before, 0, behind, true⟩ } := by
  obtain ⟨hrunning, hmatched, hfront, hleaving, hbehind, horder, hpast, -⟩ := h.stopping _ hstop
  constructor
  case size_eq => exact h.size_eq
  case isKept => exact h.isKept
  case bounded => exact h.bounded
  case resting =>
    intro hresting
    cases hrunning.symm.trans hresting
  case serving =>
    intro _ hnone
    cases hnone
  case stopping =>
    intro s hs
    obtain rfl := Option.some.inj hs
    exact ⟨hrunning, hmatched, hfront, hleaving, hbehind, horder, hpast, fun _ => rfl⟩

/-- What a stop that returns leaves behind. -/
theorem Staffed.finishStop (h : Staffed size live p) {s : Stop} (hstop : p.stop = some s)
    (hclearing : s.isClearing) :
    live = 0 ∧ Staffed size live { p.answer .clear with
      dispatcher := { p.dispatcher with isRunning := false }, stop := none } := by
  obtain ⟨-, hmatched, -, -, -, -, -, hdeserted⟩ := h.stopping _ hstop
  have hlive := hdeserted hclearing
  refine ⟨hlive, ?_⟩
  constructor
  case size_eq => exact h.size_eq
  case isKept => exact h.isKept
  case bounded => exact h.bounded
  case resting =>
    intro _
    refine ⟨rfl, hlive, ?_⟩
    show markers p.dispatcher.queue = 0
    omega
  case serving =>
    intro hrunning
    cases hrunning
  case stopping =>
    intro s hs
    cases hs

theorem live_of_hands {front back : List Hand} {h : Hand} (hhands : p.hands = front ++ h :: back) :
    p.live = Pool.live { p with hands := front ++ back } + 1 := by
  show p.dispatcher.live + p.hands.length = p.dispatcher.live + (front ++ back).length + 1
  rw [hhands, List.length_append, List.length_append, List.length_cons]
  omega

/-- Every step keeps the workers in order. -/
theorem Staffed.step {a : Action} (h : Staffed size p.live p) (haccounts : Accounts [] p)
    (hchronicle : Chronicle p) (hstep : Step p a q) : Staffed size q.live q := by
  cases hstep with
  | enqueue envelope => exact h.enqueue envelope
  | nothing _ => exact h
  | start _ hresting =>
    have hall : p.dispatcher.workers + p.dispatcher.busy.length + p.hands.length = size := by
      obtain ⟨-, hlive, -⟩ := h.resting hresting
      rw [Pool.live, Dispatcher.live] at hlive
      rw [h.size_eq]
      omega
    show Staffed size (p.dispatcher.workers + p.dispatcher.busy.length + p.hands.length) _
    rw [hall]
    exact h.start hresting
  | stop hnone hrunning => exact h.stop haccounts hrunning hnone
  | mark hstop => exact h.mark haccounts hstop
  | retire hstop hlive =>
    show Staffed size p.live _
    rw [hlive]
    rw [hlive] at h
    exact h.retire hstop _
  | finishStop hturn =>
    obtain ⟨s, hstop, hclearing⟩ := hchronicle.exists_clearing (clear_mem_pending hturn)
    exact (h.finishStop hstop hclearing).2
  | @leave idle queue hidle hqueue =>
    have hlive : p.live = Pool.live (p.withdraw idle queue) + 1 := by
      show p.dispatcher.idle + p.dispatcher.busy.length + p.hands.length =
        idle + p.dispatcher.busy.length + p.hands.length + 1
      omega
    rw [hlive] at h
    exact h.leave hqueue idle
  | @take idle envelope queue hidle hqueue =>
    have hlive : p.live = idle + p.dispatcher.busy.length + p.hands.length + 1 := by
      rw [Pool.live, Dispatcher.live, hidle]
      omega
    have hgrasped : Pool.live ((p.withdraw idle queue).grasp envelope) =
        idle + p.dispatcher.busy.length + p.hands.length + 1 := by
      show idle + p.dispatcher.busy.length + (p.hands ++ [_]).length = _
      rw [List.length_append]
      rfl
    rw [hlive] at h
    rw [hgrasped]
    exact h.grasp hqueue idle
  | @parse front back hand hhands _ =>
    have hlive : Pool.live (p.unpack (front ++ back) hand) = p.live := by
      rw [live_of_hands hhands]
      show p.dispatcher.live + (front ++ back ++ [_]).length = _
      rw [List.length_append]
      rfl
    rw [hlive]
    exact h.congr ⟨_, _, _, _, _, rfl⟩ ⟨rfl, rfl, rfl⟩
  | @begin front back hand _ hhands _ =>
    have hbegun : Staffed size p.live { p with hands := front ++ back } :=
      h.congr ⟨_, _, _, _, _, rfl⟩ ⟨rfl, rfl, rfl⟩
    rw [live_settle hbegun.isKept, ← live_of_hands hhands]
    exact hbegun.settle _ _
  | @resume _ front back worker record hunderWay =>
    have hlive : p.live = (p.pickUp (front ++ back)).live + 1 := by
      show p.dispatcher.idle + p.dispatcher.busy.length + p.hands.length =
        p.dispatcher.idle + ((front ++ back).map Prod.fst).length + p.hands.length + 1
      rw [← haccounts.busy, hunderWay]
      simp only [List.length_map, List.length_append, List.length_cons]
      omega
    have hrecalled : Staffed size p.live (p.pickUp (front ++ back)) :=
      h.congr ⟨_, _, _, _, _, rfl⟩ ⟨rfl, rfl, rfl⟩
    rw [live_settle hrecalled.isKept, ← hlive]
    exact hrecalled.settle _ _
  | _ => exact h.congr ⟨_, _, _, _, _, rfl⟩ ⟨rfl, rfl, rfl⟩

theorem staffed_ofWorkers (workers : Nat) (caches : Parsed.Caches) :
    Staffed (max 1 workers) 0 (ofWorkers workers caches) where
  size_eq := rfl
  isKept := rfl
  bounded := Nat.zero_le _
  resting _ := ⟨rfl, rfl, rfl⟩
  serving hrunning := by cases hrunning
  stopping s hs := by cases hs

/-- Everything about a pool of this size is in order. -/
structure Sound (size : Nat) (p : Pool) : Prop where
  accounts : Accounts [] p
  chronicle : Chronicle p
  staffed : Staffed size p.live p

theorem Sound.step {a : Action} (h : Sound size p) (hstep : Step p a q) : Sound size q :=
  ⟨h.accounts.step hstep, h.chronicle.step hstep, h.staffed.step h.accounts h.chronicle hstep⟩

theorem Sound.step_of_act {a : Action} (h : Sound size p) (hq : p.act a = some q) : Step p a q :=
  Pool.step_of_act h.accounts.busy hq

theorem Sound.act {a : Action} (h : Sound size p) (hq : p.act a = some q) : Sound size q :=
  h.step (h.step_of_act hq)

theorem Sound.run (h : Sound size p) (actions : List Action) : Sound size (p.run actions) :=
  run_induction h Sound.act actions

/-- What every step of a pool in order keeps holds after all steps. -/
theorem Sound.run_induction {P : Pool → Prop} (h : Sound size p) (hp : P p)
    (hstep : ∀ {q r : Pool} {a : Action}, P q → Step q a r → P r) (actions : List Action) :
    P (p.run actions) := by
  have hboth := Pool.run_induction (P := fun q => Sound size q ∧ P q) ⟨h, hp⟩
    (fun hq hact => ⟨hq.1.act hact, hstep hq.2 (hq.1.step_of_act hact)⟩) actions
  exact hboth.2

theorem sound_ofWorkers (workers : Nat) (caches : Parsed.Caches) :
    Sound (max 1 workers) (ofWorkers workers caches) :=
  ⟨accounts_ofWorkers workers caches, chronicle_ofWorkers workers caches,
    staffed_ofWorkers workers caches⟩

end Pool

end UpdatePipeline
