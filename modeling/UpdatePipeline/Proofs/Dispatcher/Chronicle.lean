import UpdatePipeline.Proofs.Dispatcher.Accounts
import UpdatePipeline.Proofs.Registry.History
set_option autoImplicit false

/-!
# The history of the registrations

The control task's registry is what the changes that it has made so far make of an empty one, and
what it has published is the same, or lacks the change that it is about to publish.  All changes
that it has answered to have been made are published.  Every step keeps it so
(`Pool.Chronicle.step`).
-/

namespace UpdatePipeline

open Registry (Change)

namespace Control

/-- The change that has been published and not been answered. -/
def Turn.published? : Turn → Option Change
  | .published c => some c
  | _ => none

/-- The changes that have not been answered, those not yet made among them. -/
def pending (c : Control) : List Change := c.turn.change?.toList ++ c.mailbox

theorem pending_send (c : Control) (change : Change) :
    (c.send change).pending = c.pending ++ [change] := (List.append_assoc _ _ _).symm

end Control

namespace Pool

/-- The changes that the control task has made, in order. -/
def made (p : Pool) : List Change := p.acknowledged ++ p.control.turn.change?.toList

/-- The changes that it has published. -/
def published (p : Pool) : List Change := p.acknowledged ++ p.control.turn.published?.toList

theorem published_prefix_made (p : Pool) : p.published <+: p.made := by
  unfold published made
  cases p.control.turn with
  | published c => exact List.prefix_refl _
  | waiting => exact List.prefix_refl _
  | refused e => exact List.prefix_refl _
  | made c =>
    show p.acknowledged ++ [] <+: _
    rw [List.append_nil]
    exact List.prefix_append _ _

/-- All ids that callers have drawn: those under which handlers were to be registered, and those
that were not used yet. -/
def ids (p : Pool) : List HandlerId :=
  Registry.added (p.acknowledged ++ p.control.pending) ++ p.drawn

/-- The registrations of a pool are what the changes to them have come to. -/
structure Chronicle (p : Pool) : Prop where
  /-- The control task's own registry. -/
  own : p.control.registry = Registry.replay p.made
  /-- What the workers see. -/
  published : p.dispatcher.registry = Registry.replay p.published
  accepted : Registry.Accepted p.made
  once : p.ids.Nodup
  fresh : ∀ id ∈ p.ids, id < p.dispatcher.nextId
  /-- The registrations are to be dropped if and only if a stop waits for that. -/
  clearing : p.control.pending.countP Change.isClear = (p.stop.any (·.isClearing)).toNat

variable {p q : Pool}

/-- What concerns neither the control task nor the registrations leaves their history as it is. -/
theorem Chronicle.congr (h : Chronicle p) (hregistry : q.dispatcher.registry = p.dispatcher.registry)
    (hnextId : q.dispatcher.nextId = p.dispatcher.nextId) (hcontrol : q.control = p.control)
    (hdrawn : q.drawn = p.drawn) (hacknowledged : q.acknowledged = p.acknowledged)
    (hstop : q.stop.any (·.isClearing) = p.stop.any (·.isClearing)) : Chronicle q := by
  have hmade : q.made = p.made := by rw [made, made, hcontrol, hacknowledged]
  have hpublished : q.published = p.published := by
    rw [Pool.published, Pool.published, hcontrol, hacknowledged]
  have hids : q.ids = p.ids := by rw [ids, ids, hcontrol, hacknowledged, hdrawn]
  exact ⟨by rw [hcontrol, hmade, h.own], by rw [hregistry, hpublished, h.published],
    by rw [hmade]; exact h.accepted, by rw [hids]; exact h.once, by rw [hids, hnextId]; exact h.fresh,
    by rw [hcontrol, hstop]; exact h.clearing⟩

theorem Chronicle.settle (h : Chronicle p) (record : Delivery.Record) (status : Delivery.Status) :
    Chronicle (p.settle record status) := by
  have hframe := p.settle_frame record status
  obtain ⟨idle, busy, hdispatcher⟩ := hframe.dispatcher
  exact h.congr (by rw [hdispatcher]) (by rw [hdispatcher]) hframe.control hframe.drawn
    hframe.acknowledged (by rw [hframe.stop])

/-- Whether an id was drawn does not depend on how far the change under it has come. -/
theorem Chronicle.of_perm (h : Chronicle p) (hids : q.ids.Perm p.ids)
    (hnextId : q.dispatcher.nextId = p.dispatcher.nextId) :
    q.ids.Nodup ∧ ∀ id ∈ q.ids, id < q.dispatcher.nextId := by
  refine ⟨hids.nodup_iff.2 h.once, ?_⟩
  intro id hid
  rw [hnextId]
  exact h.fresh id (hids.mem_iff.1 hid)

theorem Chronicle.draw (h : Chronicle p) :
    Chronicle { p with
      dispatcher := { p.dispatcher with nextId := p.dispatcher.nextId + 1 }
      drawn := p.drawn ++ [p.dispatcher.nextId] } := by
  let q : Pool := { p with
    dispatcher := { p.dispatcher with nextId := p.dispatcher.nextId + 1 }
    drawn := p.drawn ++ [p.dispatcher.nextId] }
  have hids : q.ids = p.ids ++ [p.dispatcher.nextId] := (List.append_assoc _ _ _).symm
  constructor
  case own => exact h.own
  case published => exact h.published
  case accepted => exact h.accepted
  case once =>
    show q.ids.Nodup
    rw [hids, List.nodup_append]
    refine ⟨h.once, List.nodup_singleton _, ?_⟩
    intro id hid id' hid'
    rw [List.mem_singleton.1 hid']
    exact Nat.ne_of_lt (h.fresh id hid)
  case fresh =>
    show ∀ id ∈ q.ids, id < p.dispatcher.nextId + 1
    intro id hid
    rw [hids] at hid
    rcases List.mem_append.1 hid with hold | hnew
    · exact Nat.lt_succ_of_lt (h.fresh id hold)
    · rw [List.mem_singleton.1 hnew]
      exact Nat.lt_succ_self _
  case clearing => exact h.clearing

/-- A message is sent, by a caller or by a stop. -/
theorem Chronicle.send (h : Chronicle p) (c : Change) (drawn : List HandlerId)
    (stop : Option Stop) (hdrawn : (Registry.added [c] ++ drawn).Perm p.drawn)
    (hstop : (if c.isClear then 1 else 0) + (p.stop.any (·.isClearing)).toNat =
      (stop.any (·.isClearing)).toNat) :
    Chronicle { p with control := p.control.send c, drawn, stop } := by
  let q : Pool := { p with control := p.control.send c, drawn, stop }
  have hids : q.ids.Perm p.ids := by
    show (Registry.added (p.acknowledged ++ (p.control.send c).pending) ++ drawn).Perm _
    rw [Control.pending_send, ← List.append_assoc, Registry.added_append, List.append_assoc]
    exact hdrawn.append_left _
  obtain ⟨honce, hfresh⟩ := h.of_perm hids rfl
  constructor
  case own => exact h.own
  case published => exact h.published
  case accepted => exact h.accepted
  case once => exact honce
  case fresh => exact hfresh
  case clearing =>
    show (p.control.send c).pending.countP _ = (stop.any (·.isClearing)).toNat
    rw [Control.pending_send, List.countP_append, h.clearing, ← hstop, Nat.add_comm,
      List.countP_singleton]

theorem Chronicle.receive (h : Chronicle p) {control : Control}
    (hreceive : p.control.receive? = some control) : Chronicle { p with control } := by
  obtain ⟨hturn, c, mailbox, hmailbox, hnext⟩ := Control.receive?_cases hreceive
  have hmade : p.made = p.acknowledged := by rw [made, hturn]; exact List.append_nil _
  have hpublished : p.published = p.acknowledged := by
    rw [Pool.published, hturn]
    exact List.append_nil _
  have hpending : p.control.pending = c :: mailbox := by rw [Control.pending, hturn, hmailbox]; rfl
  have hown := h.own
  have haccepted := h.accepted
  have hclearing := h.clearing
  rw [hmade] at hown haccepted
  rw [hpending] at hclearing
  rcases hnext with ⟨registry, happly, rfl⟩ | ⟨e, happly, rfl⟩
  · have hids : Pool.ids { p with control := ⟨mailbox, registry, .made c⟩ } = p.ids := by
      rw [ids, ids, hpending]
      rfl
    rw [hown] at happly
    constructor
    case own =>
      show registry = Registry.replay (p.acknowledged ++ [c])
      rw [Registry.replay_concat, Registry.change_of_apply happly]
    case published =>
      show p.dispatcher.registry = Registry.replay (p.acknowledged ++ [])
      rw [List.append_nil, ← hpublished, h.published]
    case accepted => exact haccepted.concat ⟨registry, happly⟩
    case once => rw [hids]; exact h.once
    case fresh => rw [hids]; exact h.fresh
    case clearing => exact hclearing
  · -- only a registration that is not there is refused
    obtain ⟨id, group, rfl⟩ : ∃ id group, c = .remove id group := by
      cases c with
      | remove id group => exact ⟨id, group, rfl⟩
      | add _ _ _ => cases happly
      | clear => cases happly
    have hids : Pool.ids { p with control := { p.control with mailbox, turn := .refused e } } =
        p.ids := by
      rw [ids, ids, hpending, Registry.added_append, Registry.added_append]
      rfl
    constructor
    case own =>
      show p.control.registry = Registry.replay (p.acknowledged ++ [])
      rw [List.append_nil, hown]
    case published =>
      show p.dispatcher.registry = Registry.replay (p.acknowledged ++ [])
      rw [List.append_nil, ← hpublished, h.published]
    case accepted =>
      show Registry.Accepted (p.acknowledged ++ [])
      rw [List.append_nil]
      exact haccepted
    case once => rw [hids]; exact h.once
    case fresh => rw [hids]; exact h.fresh
    case clearing => exact hclearing

theorem Chronicle.publish (h : Chronicle p) {c : Change} (hturn : p.control.turn = .made c) :
    Chronicle { p with
      dispatcher := { p.dispatcher with registry := p.control.registry }
      control := p.control.publish c } := by
  have hmade : p.made = p.acknowledged ++ [c] := by rw [made, hturn]; rfl
  have hpending : p.control.pending = (p.control.publish c).pending := by
    rw [Control.pending, hturn]
    rfl
  have hids : Pool.ids { p with
      dispatcher := { p.dispatcher with registry := p.control.registry }
      control := p.control.publish c } = p.ids := by
    rw [ids, ids, hpending]
  have hown := h.own
  have haccepted := h.accepted
  rw [hmade] at hown haccepted
  exact ⟨hown, hown, haccepted, by rw [hids]; exact h.once, by rw [hids]; exact h.fresh,
    by rw [← hpending]; exact h.clearing⟩

/-- What is answered to have been made has been published. -/
theorem Chronicle.answer (h : Chronicle p) {c : Change} (hturn : p.control.turn = .published c)
    (stop : Option Stop) (isRunning : Bool)
    (hstop : (if c.isClear then 1 else 0) + (stop.any (·.isClearing)).toNat =
      (p.stop.any (·.isClearing)).toNat) :
    Chronicle { p.answer c with dispatcher := { p.dispatcher with isRunning }, stop } := by
  have hmade : p.made = p.acknowledged ++ [c] := by rw [made, hturn]; rfl
  have hpublished : p.published = p.acknowledged ++ [c] := by rw [Pool.published, hturn]; rfl
  have hpending : p.control.pending = c :: p.control.mailbox := by rw [Control.pending, hturn]; rfl
  have hids : Pool.ids { p.answer c with
      dispatcher := { p.dispatcher with isRunning }, stop } = p.ids := by
    rw [ids, ids, hpending, List.append_cons]
    rfl
  have hclearing := h.clearing
  rw [hpending, List.countP_cons, ← hstop, Nat.add_comm] at hclearing
  constructor
  case own =>
    show p.control.registry = Registry.replay (p.acknowledged ++ [c] ++ [])
    rw [List.append_nil, ← hmade, h.own]
  case published =>
    show p.dispatcher.registry = Registry.replay (p.acknowledged ++ [c] ++ [])
    rw [List.append_nil, ← hpublished, h.published]
  case accepted =>
    show Registry.Accepted (p.acknowledged ++ [c] ++ [])
    rw [List.append_nil, ← hmade]
    exact h.accepted
  case once => rw [hids]; exact h.once
  case fresh => rw [hids]; exact h.fresh
  case clearing => exact Nat.add_left_cancel hclearing

theorem Chronicle.refuse (h : Chronicle p) {e : DispatchError} (hturn : p.control.turn = .refused e) :
    Chronicle { p with control := p.control.answer } := by
  obtain ⟨hown, hpublished, haccepted, honce, hfresh, hclearing⟩ := h
  unfold made at hown haccepted
  unfold Pool.published at hpublished
  unfold ids Control.pending at honce hfresh
  unfold Control.pending at hclearing
  rw [hturn] at hown hpublished haccepted honce hfresh hclearing
  exact ⟨hown, hpublished, haccepted, honce, hfresh, hclearing⟩

/-- A stop waits for the registrations to be dropped if that is among the changes pending. -/
theorem Chronicle.exists_clearing (h : Chronicle p) (hclear : .clear ∈ p.control.pending) :
    ∃ s, p.stop = some s ∧ s.isClearing := by
  have hpos : 0 < p.control.pending.countP Change.isClear :=
    List.countP_pos_iff.2 ⟨.clear, hclear, rfl⟩
  rw [h.clearing] at hpos
  cases hstop : p.stop with
  | none =>
    rw [hstop] at hpos
    cases hpos
  | some s =>
    rw [hstop] at hpos
    refine ⟨s, rfl, ?_⟩
    cases hs : s.isClearing with
    | true => rfl
    | false => simp [hs] at hpos

theorem clear_mem_pending (hturn : p.control.turn = .published .clear) :
    .clear ∈ p.control.pending := by
  rw [Control.pending, hturn]
  exact List.mem_cons_self

/-- Every step goes on with the history of the registrations. -/
theorem Chronicle.step {a : Action} (h : Chronicle p) (hstep : Step p a q) : Chronicle q := by
  cases hstep with
  | draw => exact h.draw
  | @sendAdd id handler group hid =>
    exact h.send (.add id handler group) (p.drawn.erase id) p.stop
      (List.perm_cons_erase hid).symm (Nat.zero_add _)
  | sendRemove id group =>
    exact h.send (.remove id group) p.drawn p.stop (.refl _) (Nat.zero_add _)
  | receive hreceive => exact h.receive hreceive
  | publish hturn => exact h.publish hturn
  | @acknowledge c hturn hc =>
    refine h.answer hturn p.stop p.dispatcher.isRunning ?_
    rw [Change.isClear_of_ne hc]
    exact Nat.zero_add _
  | refuse hturn => exact h.refuse hturn
  | stop hnone _ => exact h.congr rfl rfl rfl rfl rfl (by rw [hnone]; rfl)
  | mark hstop => exact h.congr rfl rfl rfl rfl rfl (by rw [hstop]; rfl)
  | retire hstop _ =>
    refine h.send .clear p.drawn (some _) (.refl _) ?_
    rw [hstop]
    rfl
  | finishStop hturn =>
    refine h.answer hturn none false ?_
    obtain ⟨s, hs, hclearing⟩ := h.exists_clearing (clear_mem_pending hturn)
    rw [hs, Option.any_some, hclearing]
    rfl
  | begin _ _ =>
    apply Chronicle.settle
    exact h.congr rfl rfl rfl rfl rfl rfl
  | resume _ =>
    apply Chronicle.settle
    exact h.congr rfl rfl rfl rfl rfl rfl
  | _ => exact h.congr rfl rfl rfl rfl rfl rfl

theorem chronicle_ofWorkers (workers : Nat) (caches : Parsed.Caches) :
    Chronicle (ofWorkers workers caches) where
  own := rfl
  published := rfl
  accepted := Registry.accepted_nil
  once := List.nodup_nil
  fresh _ hid := absurd hid List.not_mem_nil
  clearing := rfl

end Pool

end UpdatePipeline
