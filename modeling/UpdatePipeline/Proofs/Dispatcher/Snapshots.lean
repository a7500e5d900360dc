import UpdatePipeline.Proofs.Delivery.FirstMatch
import UpdatePipeline.Proofs.Dispatcher.Staffing
set_option autoImplicit false

/-!
# Deliveries and changes to the registrations

Registrations come and go while deliveries are under way.  A delivery is to the registry that is
published when it begins, whatever happens until it is over.  That has all changes acknowledged by
then; and where no task is interrupted between two waits, it has those acknowledged before the
envelope was taken, and no others (`Pool.run_snapshots`).
-/

namespace UpdatePipeline

open Registry (Change)

/-- The same delivery later on, when more may have been seen of it. -/
structure Delivery.Record.GoesOnTo (r later : Delivery.Record) : Prop where
  index : later.index = r.index
  registry : later.registry = r.registry
  parcel : later.parcel = r.parcel
  events : r.events <+: later.events

namespace Delivery.Record

theorem GoesOnTo.refl (r : Record) : r.GoesOnTo r := ⟨rfl, rfl, rfl, List.prefix_refl _⟩

theorem GoesOnTo.trans {r s t : Record} (h : r.GoesOnTo s) (h' : s.GoesOnTo t) : r.GoesOnTo t where
  index := h'.index.trans h.index
  registry := h'.registry.trans h.registry
  parcel := h'.parcel.trans h.parcel
  events := h.events.trans h'.events

end Delivery.Record

namespace Pool

variable {size : Nat} {p q : Pool} {a : Action}

/-! ## Where envelopes in hand and deliveries come from -/

/-- What is so after these steps, and was not at the beginning, has come with one of them. -/
theorem exists_act_of_run {P : Pool → Prop} {actions : List Action} (hp : ¬ P p)
    (hrun : P (p.run actions)) : ∃ before a later q, actions = before ++ a :: later ∧
      ¬ P (p.run before) ∧ (p.run before).act a = some q ∧ P q := by
  induction actions generalizing p with
  | nil => exact absurd hrun hp
  | cons a rest ih =>
    cases hq : p.act a with
    | none =>
      rw [run_cons_of_act_none hq] at hrun
      obtain ⟨before, a', later, q, rfl, hbefore, hq', hP⟩ := ih hp hrun
      refine ⟨a :: before, a', later, q, rfl, ?_, ?_, hP⟩
      · rwa [run_cons_of_act_none hq]
      · rwa [run_cons_of_act_none hq]
    | some q =>
      rw [run_cons_of_act hq] at hrun
      by_cases hPq : P q
      · exact ⟨[], a, rest, q, rfl, hp, hq, hPq⟩
      · obtain ⟨before, a', later, q', rfl, hbefore, hq', hP⟩ := ih hPq hrun
        refine ⟨a :: before, a', later, q', rfl, ?_, ?_, hP⟩
        · rwa [run_cons_of_act hq]
        · rwa [run_cons_of_act hq]

/-- Some worker has this envelope in hand. -/
def Holds (index : Nat) (envelope : Envelope) (p : Pool) : Prop :=
  ∃ h ∈ p.hands, h.index = index ∧ h.envelope = envelope

/-- An envelope in hand has been there before, or it has just been taken. -/
theorem Step.holds_cases (h : Step p a q) {index : Nat} {envelope : Envelope}
    (hq : q.Holds index envelope) : p.Holds index envelope ∨
      (a = .take ∧ index = p.taken ∧ p.dispatcher.queue.head? = some (.envelope envelope)) := by
  obtain ⟨hand, hhand, hindex, henvelope⟩ := hq
  cases h with
  | take _ hqueue =>
    rcases List.mem_append.1 hhand with hold | hnew
    · exact .inl ⟨hand, hold, hindex, henvelope⟩
    · obtain rfl := List.mem_singleton.1 hnew
      subst hindex henvelope
      exact .inr ⟨rfl, rfl, by rw [hqueue]; rfl⟩
  | @parse front back h' hhands _ =>
    left
    rcases List.mem_append.1 hhand with hother | hown
    · exact ⟨hand, mem_of_others hhands hother, hindex, henvelope⟩
    · obtain rfl := List.mem_singleton.1 hown
      exact ⟨h', by simp [hhands], hindex, henvelope⟩
  | begin hhands _ =>
    rw [(settle_frame _ _ _).hands] at hhand
    exact .inl ⟨hand, mem_of_others hhands hhand, hindex, henvelope⟩
  | resume _ =>
    rw [(settle_frame _ _ _).hands] at hhand
    exact .inl ⟨hand, hhand, hindex, henvelope⟩
  | _ => exact .inl ⟨hand, hhand, hindex, henvelope⟩

theorem taken_le_run (h : Sound size p) (actions : List Action) :
    p.taken ≤ (p.run actions).taken :=
  h.run_induction (P := fun q => p.taken ≤ q.taken) (Nat.le_refl _)
    (fun hq hstep => Nat.le_trans hq hstep.goesOn.taken) actions

/-- An envelope in hand was taken when it was its turn. -/
theorem take_of_holds (h : Sound size p) {actions : List Action} {index : Nat}
    {envelope : Envelope} (hp : ¬ p.Holds index envelope)
    (hrun : (p.run actions).Holds index envelope) : ∃ before later,
      actions = before ++ .take :: later ∧ (p.run before).taken = index ∧
      (p.run before).dispatcher.queue.head? = some (.envelope envelope) ∧
      ∃ q, (p.run before).act .take = some q ∧ q.Holds index envelope := by
  obtain ⟨before, a, later, q, hsplit, hbefore, hq, hholds⟩ := exists_act_of_run hp hrun
  rcases ((h.run before).step_of_act hq).holds_cases hholds with hold | ⟨rfl, hindex, hqueue⟩
  · exact absurd hold hbefore
  · exact ⟨before, later, hsplit, hindex.symm, hqueue, q, hq, hholds⟩

/-- Who has an envelope in hand that was taken before has had it since. -/
theorem holds_of_run (h : Sound size p) {actions : List Action} {index : Nat} {envelope : Envelope}
    (hindex : index < p.taken) (hrun : (p.run actions).Holds index envelope) :
    p.Holds index envelope := by
  by_contra hp
  obtain ⟨before, -, -, htaken, -⟩ := take_of_holds h hp hrun
  have hle := taken_le_run h before
  omega

/-- A delivery on record has been there before, or it has just begun. -/
theorem Step.record_cases (h : Step p a q) {r : Delivery.Record} (hr : r ∈ q.records) :
    (∃ earlier ∈ p.records, earlier.GoesOnTo r) ∨ ∃ hand ∈ p.hands, ∃ parsed,
      a = .begin hand.index ∧ r = p.begun hand parsed := by
  cases h with
  | @begin front back hand parsed hhands _ =>
    rw [(records_settle _ _ _).mem_iff, List.mem_cons] at hr
    rcases hr with rfl | hold
    · exact .inr ⟨hand, by simp [hhands], parsed, rfl, rfl⟩
    · exact .inl ⟨r, hold, .refl r⟩
  | @resume _ front back worker record hunderWay =>
    have hperm := records_pickUp hunderWay
    rw [(records_settle _ _ _).mem_iff, List.mem_cons] at hr
    rcases hr with rfl | hold
    · refine .inl ⟨record, hperm.mem_iff.1 List.mem_cons_self, rfl, rfl, rfl, ?_⟩
      exact List.prefix_append _ _
    · exact .inl ⟨r, hperm.mem_iff.1 (List.mem_cons_of_mem _ hold), .refl r⟩
  | _ => exact .inl ⟨r, hr, .refl r⟩

/-- What is on record stays there. -/
theorem Step.record_goesOn (h : Step p a q) {r : Delivery.Record} (hr : r ∈ p.records) :
    ∃ later ∈ q.records, r.GoesOnTo later := by
  cases h with
  | begin _ _ =>
    refine ⟨r, ?_, .refl r⟩
    rw [(records_settle _ _ _).mem_iff]
    exact List.mem_cons_of_mem _ hr
  | @resume _ front back worker record hunderWay =>
    have hperm := records_pickUp hunderWay
    have hsettled := (p.pickUp (front ++ back)).records_settle
      { record with events := record.events ++ worker.delivery.resume.1 } worker.delivery.resume.2
    rcases List.mem_cons.1 (hperm.mem_iff.2 hr) with rfl | hother
    · refine ⟨_, hsettled.mem_iff.2 List.mem_cons_self, rfl, rfl, rfl, ?_⟩
      exact List.prefix_append _ _
    · exact ⟨r, hsettled.mem_iff.2 (List.mem_cons_of_mem _ hother), .refl r⟩
  | _ => exact ⟨r, hr, .refl r⟩

theorem record_goesOn_run (h : Sound size p) {r : Delivery.Record} (hr : r ∈ p.records)
    (actions : List Action) : ∃ later ∈ (p.run actions).records, r.GoesOnTo later := by
  refine h.run_induction (P := fun q => ∃ later ∈ q.records, r.GoesOnTo later)
    ⟨r, hr, .refl r⟩ ?_ actions
  rintro q q' a ⟨middle, hmiddle, hgoesOn⟩ hstep
  obtain ⟨later, hlater, hgoesOn'⟩ := hstep.record_goesOn hmiddle
  exact ⟨later, hlater, hgoesOn.trans hgoesOn'⟩

/-- A delivery on record was begun by a worker that had its envelope in hand. -/
theorem begun_of_run (h : Sound size p) (hnone : p.records = []) {actions : List Action}
    {r : Delivery.Record} (hr : r ∈ (p.run actions).records) : ∃ before later hand parsed,
      actions = before ++ .begin r.index :: later ∧ hand ∈ (p.run before).hands ∧
      ((p.run before).begun hand parsed).GoesOnTo r := by
  have hp : ¬ ∃ earlier ∈ p.records, earlier.GoesOnTo r := by
    rintro ⟨earlier, hearlier, -⟩
    rw [hnone] at hearlier
    cases hearlier
  obtain ⟨before, a, later, q, hsplit, hbefore, hq, earlier, hearlier, hgoesOn⟩ :=
    exists_act_of_run (P := fun q => ∃ earlier ∈ q.records, earlier.GoesOnTo r) hp ⟨r, hr, .refl r⟩
  rcases ((h.run before).step_of_act hq).record_cases hearlier with
    ⟨first, hfirst, hgoesOn'⟩ | ⟨hand, hhand, parsed, rfl, rfl⟩
  · exact absurd ⟨first, hfirst, hgoesOn'.trans hgoesOn⟩ hbefore
  · have hindex : hand.index = r.index := hgoesOn.index.symm
    exact ⟨before, later, hand, parsed, hindex ▸ hsplit, hhand, hgoesOn⟩

/-! ## Snapshots -/

/-- A delivery considers a registration that was made between these changes: it stands behind
those of its group that were made earlier and are still there, and is called if it matches and
all in front of it pass on. -/
structure Considers (r : Delivery.Record) (earlier later : List Change) (group : Int)
    (x : Registration) (front back : List (Int × Registration)) : Prop where
  placed : r.registry.placed = front ++ (group, x) :: back
  inFront : ∀ e ∈ front, e.1 ≤ group
  behind : ∀ e ∈ back, group ≤ e.1
  earlier : front.filter (·.1 == group) =
    ((Registry.standing earlier).filter (Registry.kept later)).filter (·.1 == group)
  later : back.filter (·.1 == group) = (Registry.standing later).filter (·.1 == group)
  called : (∀ e ∈ front, Delivery.PassesOn r.parcel e.2.handler) →
    ∀ call, Delivery.call? r.parcel x.handler = some call →
      .called x.id call.argument ∈ (r.registry.deliver r.parcel).1

/-- The delivery of an envelope that is taken in the one pool, and begun in the other. -/
structure Snapshot (taking beginning : Pool) (r : Delivery.Record) : Prop where
  index : r.index = taking.taken
  envelope : taking.dispatcher.queue.head? = some (.envelope r.parcel.envelope)
  /-- It is to the registry that is published when it begins. -/
  registry : r.registry = Registry.replay beginning.published
  /-- That has all changes acknowledged by then, those acknowledged before the envelope was taken
  among them, and at most one more, which is about to be acknowledged. -/
  acknowledged : taking.acknowledged <+: beginning.acknowledged
  published : ∃ c : Option Change, beginning.published = beginning.acknowledged ++ c.toList
  /-- What has been seen of it is the beginning of that delivery. -/
  seen : r.events <+: (r.registry.deliver r.parcel).1
  /-- No handler that was taken back before it began is called. -/
  removed : ∀ id group, .remove id group ∈ beginning.published →
    ∀ argument, .called id argument ∉ (r.registry.deliver r.parcel).1
  /-- Every handler that was registered before it began is considered, unless it was taken back
  or all were dropped. -/
  added : ∀ earlier id handler group later,
    beginning.published = earlier ++ .add id handler group :: later →
    .remove id group ∉ later → .clear ∉ later →
    ∃ front back, Considers r earlier later group.toInt ⟨id, handler⟩ front back

/-- Each delivery on record after these steps is to one registry from its beginning to its
end, and later steps do not change to which. -/
structure Snapshots (p : Pool) (actions : List Action) : Prop where
  begun : ∀ r ∈ (p.run actions).records, ∃ before between later,
    actions = before ++ .take :: (between ++ .begin r.index :: later) ∧
      Snapshot (p.run before) (p.run (before ++ .take :: between)) r ∧
      -- where no task is interrupted it is the one that all changes acknowledged before the
      -- envelope was taken have come to
      (p.Cooperative actions → r.registry = Registry.replay (p.run before).acknowledged)
  complete : ∀ r ∈ (p.run actions).delivered, r.IsComplete
  suspended : ∀ u ∈ (p.run actions).underWay, u.2.IsAt u.1.delivery
  unaffected : ∀ r ∈ (p.run actions).records, ∀ more,
    ∃ later ∈ (p.run (actions ++ more)).records, r.GoesOnTo later

theorem Accounts.seen (h : Accounts [] p) {r : Delivery.Record} (hr : r ∈ p.records) :
    r.events <+: (r.registry.deliver r.parcel).1 := by
  rcases List.mem_append.1 hr with hdelivered | hunderWay
  · have hcomplete : r.events = (r.registry.deliver r.parcel).1 := h.complete r hdelivered
    exact hcomplete ▸ List.prefix_refl _
  · obtain ⟨u, hu, rfl⟩ := List.mem_map.1 hunderWay
    rw [(h.suspended u hu).2]
    exact List.prefix_append _ _

theorem kept_of_not_mem {later : List Change} {id : HandlerId} {group : Int32} {handler : Handler}
    (hremove : .remove id group ∉ later) (hclear : .clear ∉ later) :
    Registry.kept later (group.toInt, ⟨id, handler⟩) := by
  unfold Registry.kept
  rw [List.all_eq_true]
  intro c hc
  cases c with
  | add _ _ _ => rfl
  | clear => exact absurd hc hclear
  | remove id' group' =>
    have hother : ¬ (group.toInt = group'.toInt ∧ id = id') := by
      rintro ⟨hgroup, rfl⟩
      rw [Int32.toInt_inj.1 hgroup] at hremove
      exact hremove hc
    simpa [Change.keeps, imp_iff_not_or] using hother

theorem Chronicle.nodup_published (h : Chronicle p) : (Registry.added p.published).Nodup := by
  obtain ⟨rest, hrest⟩ := p.published_prefix_made
  have hall : p.acknowledged ++ p.control.pending = p.published ++ (rest ++ p.control.mailbox) := by
    rw [← List.append_assoc, hrest, made, Control.pending, List.append_assoc]
  have honce := h.once
  rw [ids, hall, Registry.added_append] at honce
  exact (List.nodup_append.1 (List.nodup_append.1 honce).1).1

/-- No delivery to the registry calls what has been taken back. -/
theorem Chronicle.not_called (h : Chronicle p) {id : HandlerId} {group : Int32}
    (hmem : .remove id group ∈ p.published) (parcel : Delivery.Parcel) (argument : Argument) :
    .called id argument ∉ (p.dispatcher.registry.deliver parcel).1 := by
  intro hcalled
  have haccepted := h.accepted.of_prefix p.published_prefix_made
  obtain ⟨x, hx, hid⟩ := Delivery.registered_of_walkThrough hcalled
  rw [← Registry.map_placed] at hx
  obtain ⟨e, he, rfl⟩ := List.mem_map.1 hx
  have hlists := Registry.lists_replay h.nodup_published
  rw [← h.published] at hlists
  exact haccepted.gone h.nodup_published hmem e ((hlists.mem_iff e).1 he) hid

/-- A registration that stands is considered by every delivery to the registry. -/
theorem Chronicle.considers {r : Delivery.Record} {earlier later : List Change}
    {id : HandlerId} {handler : Handler} {group : Int32} (h : Chronicle p)
    (hsplit : p.published = earlier ++ .add id handler group :: later)
    (hr : r.registry = p.dispatcher.registry)
    (hkept : Registry.kept later (group.toInt, ⟨id, handler⟩)) :
    ∃ front back, Considers r earlier later group.toInt ⟨id, handler⟩ front back := by
  have hlists := Registry.lists_replay h.nodup_published
  have hids := h.nodup_published.sublist (Registry.standing_sublist_added _)
  rw [← h.published, ← hr] at hlists
  have hstanding : Registry.standing p.published =
      (Registry.standing earlier).filter (Registry.kept later) ++
        (group.toInt, ⟨id, handler⟩) :: Registry.standing later := by
    rw [hsplit, List.append_cons, Registry.standing_append, Registry.standing_concat]
    simp [Registry.stand, Change.keeps, Change.placed?, hkept]
  rw [hstanding] at hlists hids
  obtain ⟨front, back, hplaced, hfront, hback, hearlier, hlater⟩ := hlists.split hids
  refine ⟨front, back, hplaced, hfront, hback, hearlier, hlater, ?_⟩
  intro hpasses call hcall
  rw [Registry.deliver_eq, ← Registry.map_placed, hplaced, List.map_append, List.map_cons]
  apply Delivery.called_of_passesOn _ hcall
  intro x hx
  obtain ⟨e, he, rfl⟩ := List.mem_map.1 hx
  exact hpasses e he

theorem acknowledged_run (h : Sound size p) (actions : List Action) :
    p.acknowledged <+: (p.run actions).acknowledged :=
  h.run_induction (P := fun q => p.acknowledged <+: q.acknowledged) (List.prefix_refl _)
    (fun hq hstep => hq.trans hstep.goesOn.acknowledged) actions

/-- The delivery that a worker begins, when it has taken the envelope some steps before. -/
theorem snapshot_of_begun {between : List Action} {r : Delivery.Record} {hand : Hand}
    {parsed : Option Parsed.Update} (h : Sound size p) (htaken : p.taken = hand.index)
    (hqueue : p.dispatcher.queue.head? = some (.envelope hand.envelope))
    (hbegun : ((p.run between).begun hand parsed).GoesOnTo r)
    (hseen : r.events <+: (r.registry.deliver r.parcel).1) : Snapshot p (p.run between) r := by
  have hchronicle := (h.run between).chronicle
  have hregistry : r.registry = (p.run between).dispatcher.registry := hbegun.registry
  constructor
  case index => exact hbegun.index.trans htaken.symm
  case envelope =>
    rw [hqueue, hbegun.parcel]
    rfl
  case registry => exact hregistry.trans hchronicle.published
  case acknowledged => exact acknowledged_run h between
  case published => exact ⟨_, rfl⟩
  case seen => exact hseen
  case removed =>
    intro id group hmem argument
    rw [hregistry]
    exact hchronicle.not_called hmem r.parcel argument
  case added =>
    intro earlier id handler group later hsplit hremove hclear
    exact hchronicle.considers hsplit hregistry (kept_of_not_mem hremove hclear)

/-- Where no task is interrupted nothing happens to the registrations while a worker has an
envelope in hand. -/
theorem published_of_holds (h : Sound size p) {actions : List Action} {index : Nat}
    {envelope : Envelope} (hcooperative : p.Cooperative actions) (hindex : index < p.taken)
    (hholds : (p.run actions).Holds index envelope) :
    (p.run actions).published = p.published := by
  induction actions generalizing p with
  | nil => rfl
  | cons a rest ih =>
    obtain ⟨hyields, hrest⟩ := hcooperative
    obtain ⟨hand, hhand, -⟩ := holds_of_run h hindex hholds
    obtain ⟨i, hworker⟩ := hyields.workers (List.ne_nil_of_mem hhand)
    cases hq : p.act a with
    | none =>
      rw [hq] at hrest
      rw [run_cons_of_act_none hq] at hholds ⊢
      exact ih h hrest hindex hholds
    | some q =>
      rw [hq] at hrest
      rw [run_cons_of_act hq] at hholds ⊢
      have hstep := h.step_of_act hq
      rw [ih (h.act hq) hrest (Nat.lt_of_lt_of_le hindex hstep.goesOn.taken) hholds]
      rcases hworker with rfl | rfl
      · cases hstep with
        | nothing hnothing => rcases hnothing with hno | hno <;> cases hno
        | parse _ _ => rfl
      · cases hstep with
        | nothing hnothing => rcases hnothing with hno | hno <;> cases hno
        | begin _ _ =>
          rw [published, published, (settle_frame _ _ _).control, (settle_frame _ _ _).acknowledged]

theorem published_of_awaitsMessage (h : p.awaitsMessage) : p.published = p.acknowledged := by
  unfold awaitsMessage at h
  split at h
  · rename_i hturn
    rw [published, hturn]
    exact List.append_nil _
  · cases h

/-- So what is published when a worker begins a delivery is what was acknowledged before it took
the envelope. -/
theorem published_eq_acknowledged (h : Sound size p) {between : List Action} {q : Pool}
    {envelope : Envelope} (hcooperative : p.Cooperative (.take :: between))
    (htake : p.act .take = some q) (hgrasped : q.Holds p.taken envelope)
    (hholds : (p.run (.take :: between)).Holds p.taken envelope) :
    (p.run (.take :: between)).published = p.acknowledged := by
  obtain ⟨hyields, hrest⟩ := hcooperative
  have hawaits : p.awaitsMessage := by
    by_contra hnot
    rcases hyields.control (Bool.eq_false_iff.2 hnot) with hno | hno | hno <;> cases hno
  rw [htake] at hrest
  rw [run_cons_of_act htake] at hholds ⊢
  rw [← published_of_awaitsMessage hawaits]
  have hstep := h.step_of_act htake
  have hindex : p.taken < q.taken := by
    obtain ⟨hand, hhand, hnumber, -⟩ := hgrasped
    have hmem : p.taken ∈ numbers q.hands := List.mem_map.2 ⟨hand, hhand, hnumber⟩
    have hrange := (h.act htake).accounts.indices.mem_iff.1 (List.mem_append_left _ hmem)
    exact List.mem_range.1 hrange
  rw [published_of_holds (h.act htake) hrest hindex hholds]
  cases hstep with
  | nothing hnothing => rcases hnothing with hno | hno <;> cases hno
  | leave _ _ => rfl
  | take _ _ => rfl

end Pool

end UpdatePipeline
