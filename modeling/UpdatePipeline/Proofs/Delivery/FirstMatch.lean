import UpdatePipeline.Proofs.Delivery
import UpdatePipeline.Proofs.Registry
set_option autoImplicit false

/-!
# The first handler that ends a delivery

A delivery calls the handlers that match, in the order of the registry, up to the first whose
callback ends it, and leaves the rest alone: `uses` says which filters and callbacks a handler
has run, and a delivery that keeps a log (`deliverWith`) has run those of the handlers that were
tried and no others.  A delivery to handlers behind each other goes on where the first ones did
not end it (`walkThrough_append_of_none`), so a handler that does not match, skips or fails can
stand anywhere without a difference to the others (`deliver_firstMatchWins`).
-/

namespace UpdatePipeline

namespace Delivery

/-! ## Matching -/

/-- What the callback of a handler that matches is given, and how it ends. -/
structure Call where
  argument : Argument
  ending : Ending

/-- Whether a filter lets an update pass, which it does not if it fails. -/
def accepts (f : Filter) (u : Parsed.Update) : Bool :=
  match f.check u with
  | .ok answer => answer
  | .error _ => false

/-- A raw handler matches always.  A typed one matches if there is a parsed update, it is of the
handler's kind, and the filter, if there is one, lets it pass. -/
def call? (p : Parcel) : Handler → Option Call
  | .raw callback => some ⟨.envelope p.envelope, (callback p.envelope).ending⟩
  | .typed h => p.parsed.bind fun u =>
    if u.kind = h.kind ∧ h.filter.all (accepts · u) then
      some ⟨.parsed u, (h.callback u).ending⟩
    else none

/-- The handler does not match, or its callback skips or fails. -/
def PassesOn (p : Parcel) (h : Handler) : Prop :=
  ∀ call, call? p h = some call →
    call.ending = .finished .skip ∨ call.ending.failure?.isSome

/-- What a typed handler that an update is offered to comes to. -/
theorem wants_cases (h : TypedHandler) (u : Parsed.Update) :
    (h.wants u = .ok true ∧ u.kind = h.kind ∧ h.filter.all (accepts · u)) ∨
      ((h.wants u = .ok false ∨ ∃ message, h.wants u = .error message) ∧
        ¬ (u.kind = h.kind ∧ h.filter.all (accepts · u))) := by
  unfold TypedHandler.wants
  by_cases hkind : u.kind = h.kind
  · rw [if_pos hkind]
    cases h.filter with
    | none => simp [hkind]
    | some f =>
      cases hcheck : f.check u with
      | error message => simp [accepts, hcheck]
      | ok answer =>
        cases answer with
        | false => simp [accepts, hcheck]
        | true => simp [accepts, hcheck, hkind]
  · rw [if_neg hkind]
    simp [hkind]

/-- A handler that matches is offered the envelope with effect. -/
theorem offer_of_call {p : Parcel} {h : Handler} {call : Call} (hcall : call? p h = some call) :
    ∃ reaction, h.offer p.envelope p.parsed = .accepted call.argument reaction ∧
      reaction.ending = call.ending := by
  cases h with
  | raw callback =>
    obtain rfl := Option.some.inj hcall
    exact ⟨_, rfl, rfl⟩
  | typed h =>
    obtain ⟨u, hparsed, hmatch⟩ := Option.bind_eq_some_iff.1 hcall
    unfold Handler.offer
    rw [hparsed]
    rcases wants_cases h u with ⟨hwants, hmatches⟩ | ⟨-, hmatches⟩
    · rw [if_pos hmatches] at hmatch
      obtain rfl := Option.some.inj hmatch
      exact ⟨h.callback u, by simp [hwants], rfl⟩
    · rw [if_neg hmatches] at hmatch
      cases hmatch

theorem offer_of_no_call {p : Parcel} {h : Handler} (hcall : call? p h = none) :
    h.offer p.envelope p.parsed = .declined ∨
      ∃ message, h.offer p.envelope p.parsed = .filterFailed message := by
  cases h with
  | raw callback => cases hcall
  | typed h =>
    unfold Handler.offer
    cases hparsed : p.parsed with
    | none => exact .inl rfl
    | some u =>
      simp only [call?, hparsed, Option.bind_some] at hcall
      rcases wants_cases h u with ⟨-, hmatches⟩ | ⟨hwants, -⟩
      · rw [if_pos hmatches] at hcall
        cases hcall
      · rcases hwants with hwants | ⟨message, hwants⟩
        · simp [hwants]
        · simp [hwants]

/-! ## Deliveries behind each other -/

/-- What is left out behind a handler that ends the delivery makes no difference to it. -/
theorem walkThrough_append_of_some {p : Parcel} {tried : List Registration} {id : HandlerId}
    (h : (walkThrough p tried).2 = some id) (rest : List Registration) :
    walkThrough p (tried ++ rest) = walkThrough p tried := by
  induction tried with
  | nil => cases h
  | cons r tried ih =>
    rw [List.cons_append, walkThrough_cons, walkThrough_cons]
    rw [walkThrough_cons] at h
    cases hoffer : r.handler.offer p.envelope p.parsed with
    | declined =>
      simp only [hoffer] at h
      exact ih h
    | filterFailed message =>
      simp only [hoffer] at h
      simp only [ih h]
    | accepted argument reaction =>
      by_cases hfinal : reaction.ending.isFinal
      · simp [hfinal]
      · simp only [hoffer, hfinal] at h
        simp [hfinal, ih h]

/-- A delivery that is not ended goes on with what is behind. -/
theorem walkThrough_append_of_none {p : Parcel} {tried : List Registration}
    (h : (walkThrough p tried).2 = none) (rest : List Registration) :
    walkThrough p (tried ++ rest) =
      ((walkThrough p tried).1 ++ (walkThrough p rest).1, (walkThrough p rest).2) := by
  induction tried with
  | nil => rfl
  | cons r tried ih =>
    rw [List.cons_append, walkThrough_cons, walkThrough_cons]
    rw [walkThrough_cons] at h
    cases hoffer : r.handler.offer p.envelope p.parsed with
    | declined =>
      simp only [hoffer] at h
      exact ih h
    | filterFailed message =>
      simp only [hoffer] at h
      simp [ih h]
    | accepted argument reaction =>
      by_cases hfinal : reaction.ending.isFinal
      · simp [hoffer, hfinal] at h
      · simp only [hoffer, hfinal] at h
        simp [hfinal, ih h]

theorem isFinal_eq_false_iff {e : Ending} :
    e.isFinal = false ↔ e = .finished .skip ∨ e.failure?.isSome := by
  cases e with
  | finished outcome => cases outcome <;> simp [Ending.isFinal, Ending.failure?]
  | failed message => simp [Ending.isFinal, Ending.failure?]
  | panicked message => simp [Ending.isFinal, Ending.failure?]

theorem isFinal_iff {e : Ending} :
    e.isFinal ↔ e = .finished .handled ∨ e = .finished .abort := by
  cases e with
  | finished outcome => cases outcome <;> simp [Ending.isFinal]
  | failed message => simp [Ending.isFinal]
  | panicked message => simp [Ending.isFinal]

/-- The callback called in an event, and with what. -/
def Event.call? : Event → Option (HandlerId × Argument)
  | .called handler argument => some (handler, argument)
  | .reported _ => none

/-- The callbacks called, and with what. -/
def calls (events : List Event) : List (HandlerId × Argument) := events.filterMap Event.call?

theorem calls_failureEvents (p : Parcel) (id : HandlerId) (ending : Ending) :
    calls (failureEvents p id ending) = [] := by
  unfold failureEvents
  cases ending.failure? with
  | none => simp [calls]
  | some message => simp [calls, Event.call?]

/-- The call that a handler takes if it is tried. -/
def callOf (p : Parcel) (r : Registration) : Option (HandlerId × Argument) :=
  (call? p r.handler).map fun call => (r.id, call.argument)

/-- Of a handler that does not match nothing is seen but that its filter failed. -/
theorem walkThrough_of_no_call {p : Parcel} {r : Registration} (hcall : call? p r.handler = none) :
    (walkThrough p [r]).2 = none ∧ calls (walkThrough p [r]).1 = [] := by
  rw [walkThrough_cons]
  rcases offer_of_no_call hcall with hoffer | ⟨message, hoffer⟩
  · simp [hoffer, walkThrough, walk, calls]
  · simp [hoffer, walkThrough, walk, calls, Event.call?]

theorem walkThrough_of_call {p : Parcel} {r : Registration} {call : Call}
    (hcall : call? p r.handler = some call) :
    walkThrough p [r] = (.called r.id call.argument :: failureEvents p r.id call.ending,
      if call.ending.isFinal then some r.id else none) := by
  obtain ⟨reaction, hoffer, hending⟩ := offer_of_call hcall
  rw [walkThrough_cons]
  simp only [hoffer, hending]
  by_cases hfinal : call.ending.isFinal
  · -- a callback that ends the delivery has not failed
    rcases isFinal_iff.1 hfinal with hended | hended
    · simp [hended, Ending.isFinal, failureEvents, Ending.failure?]
    · simp [hended, Ending.isFinal, failureEvents, Ending.failure?]
  · simp [hfinal, walkThrough, walk]

theorem calls_walkThrough_singleton (p : Parcel) (r : Registration) :
    calls (walkThrough p [r]).1 = (callOf p r).toList := by
  unfold callOf
  cases hcall : call? p r.handler with
  | none => simp [walkThrough_of_no_call hcall]
  | some call =>
    have hfailures := calls_failureEvents p r.id call.ending
    unfold calls at hfailures
    simp [walkThrough_of_call hcall, calls, Event.call?, hfailures]

/-- A handler passes on the deliveries that it does not end. -/
theorem walkThrough_singleton_eq_none_iff {p : Parcel} {r : Registration} :
    (walkThrough p [r]).2 = none ↔ PassesOn p r.handler := by
  unfold PassesOn
  cases hcall : call? p r.handler with
  | none => simp [walkThrough_of_no_call hcall]
  | some call => simp [walkThrough_of_call hcall, ← isFinal_eq_false_iff]

/-- A handler that ends a delivery matched, and its callback handled or aborted. -/
theorem walkThrough_singleton_eq_some {p : Parcel} {r : Registration} {id : HandlerId}
    (h : (walkThrough p [r]).2 = some id) :
    id = r.id ∧ ∃ call, call? p r.handler = some call ∧
      (call.ending = .finished .handled ∨ call.ending = .finished .abort) := by
  cases hcall : call? p r.handler with
  | none => simp [walkThrough_of_no_call hcall] at h
  | some call =>
    simp only [walkThrough_of_call hcall] at h
    by_cases hfinal : call.ending.isFinal
    · rw [if_pos hfinal] at h
      exact ⟨(Option.some.inj h).symm, call, rfl, isFinal_iff.1 hfinal⟩
    · rw [if_neg hfinal] at h
      cases h

theorem walkThrough_eq_none_iff {p : Parcel} {registrations : List Registration} :
    (walkThrough p registrations).2 = none ↔ ∀ r ∈ registrations, PassesOn p r.handler := by
  induction registrations with
  | nil => simp [walkThrough, walk]
  | cons r rest ih =>
    rw [List.forall_mem_cons, ← ih, ← walkThrough_singleton_eq_none_iff, ← List.singleton_append]
    cases hfirst : (walkThrough p [r]).2 with
    | none =>
      rw [walkThrough_append_of_none hfirst]
      simp
    | some id =>
      rw [walkThrough_append_of_some hfirst, hfirst]
      simp

/-! ## What a delivery runs -/

/-- How the code of the handlers is run. -/
structure Code (m : Type → Type) where
  /-- Asks the filter of a handler. -/
  ask : HandlerId → Filter → Parsed.Update → m (Except String Bool)
  /-- Runs the callback of a handler. -/
  run : HandlerId → Argument → Reaction → m Ending

section

variable {m : Type → Type} [Monad m]

/-- Offers the envelope to a handler, whose filter is run by `code`. -/
def offerWith (code : Code m) (p : Parcel) (r : Registration) : m Offer :=
  match r.handler, p.parsed with
  | .raw callback, _ => pure (.accepted (.envelope p.envelope) (callback p.envelope))
  | .typed _, none => pure .declined
  | .typed h, some u =>
    if u.kind = h.kind then
      match h.filter with
      | none => pure (.accepted (.parsed u) (h.callback u))
      | some f => do
        match ← code.ask r.id f u with
        | .ok true => return .accepted (.parsed u) (h.callback u)
        | .ok false => return .declined
        | .error message => return .filterFailed message
    else pure .declined

/-- A delivery whose filters and callbacks are run by `code`. -/
def deliverWith (code : Code m) (p : Parcel) : List Registration → m (Option HandlerId)
  | [] => pure none
  | r :: rest => do
    match ← offerWith code p r with
    | .declined | .filterFailed _ => deliverWith code p rest
    | .accepted argument reaction =>
      let ending ← code.run r.id argument reaction
      if ending.isFinal then return some r.id else deliverWith code p rest

end

/-- Code that is just run. -/
def plain : Code Id where
  ask _ f u := pure (f.check u)
  run _ _ reaction := pure reaction.ending

/-- What was run of a handler. -/
inductive Use where
  | asked (handler : HandlerId)
  | called (handler : HandlerId) (argument : Argument)

/-- Code that is run and kept account of. -/
def logged : Code (StateM (List Use)) where
  ask id f u := do
    modify (· ++ [.asked id])
    return f.check u
  run id argument reaction := do
    modify (· ++ [.called id argument])
    return reaction.ending

/-- Whether a handler's filter has to be asked: only about updates of the handler's kind. -/
def asks (p : Parcel) : Handler → Bool
  | .raw _ => false
  | .typed h => h.filter.isSome && p.parsed.any fun u => u.kind = h.kind

/-- What is run of a handler that is tried. -/
def uses (p : Parcel) (r : Registration) : List Use :=
  (if asks p r.handler then [.asked r.id] else []) ++
    ((call? p r.handler).map (.called r.id ·.argument)).toList

theorem run_offerWith_plain (p : Parcel) (r : Registration) :
    (offerWith plain p r).run = r.handler.offer p.envelope p.parsed := by
  unfold offerWith Handler.offer TypedHandler.wants
  cases r.handler with
  | raw callback => simp
  | typed h =>
    cases p.parsed with
    | none => simp
    | some u =>
      by_cases hkind : u.kind = h.kind
      · cases hfilter : h.filter with
        | none => simp [hkind, hfilter]
        | some f =>
          simp only [hkind, hfilter, plain, if_true]
          cases hcheck : f.check u with
          | error message => simp
          | ok answer => cases answer <;> simp
      · simp [hkind]

/-- A filter is asked on the way to the handler's answer, if at all. -/
theorem run_offerWith_logged (p : Parcel) (r : Registration) (log : List Use) :
    ((offerWith logged p r).run log).run =
      (r.handler.offer p.envelope p.parsed,
        log ++ if asks p r.handler then [.asked r.id] else []) := by
  unfold offerWith Handler.offer TypedHandler.wants asks
  cases r.handler with
  | raw callback => simp
  | typed h =>
    cases p.parsed with
    | none => simp
    | some u =>
      by_cases hkind : u.kind = h.kind
      · cases hfilter : h.filter with
        | none => simp [hkind, hfilter]
        | some f =>
          simp only [hkind, hfilter, logged, if_true]
          cases hcheck : f.check u with
          | error message => simp [hkind]
          | ok answer => cases answer <;> simp [hkind]
      · simp [hkind]

theorem run_deliverWith_plain (p : Parcel) (registrations : List Registration) :
    (deliverWith plain p registrations).run = (walkThrough p registrations).2 := by
  induction registrations with
  | nil => simp [deliverWith, walkThrough, walk]
  | cons r rest ih =>
    rw [walkThrough_cons]
    simp only [deliverWith, Id.run_bind, run_offerWith_plain]
    cases r.handler.offer p.envelope p.parsed with
    | declined => exact ih
    | filterFailed message => exact ih
    | accepted argument reaction =>
      have hrun : (plain.run r.id argument reaction).run = reaction.ending := rfl
      cases hfinal : reaction.ending.isFinal with
      | false => simp [hrun, hfinal, ih]
      | true => simp [hrun, hfinal]

/-- A handler's uses are logged, and unless it ends the delivery those of the others follow. -/
theorem run_deliverWith_logged_cons (p : Parcel) (r : Registration) (rest : List Registration)
    (log : List Use) :
    ((deliverWith logged p (r :: rest)).run log).run =
      match (walkThrough p [r]).2 with
      | some id => (some id, log ++ uses p r)
      | none => ((deliverWith logged p rest).run (log ++ uses p r)).run := by
  simp only [deliverWith, StateT.run_bind, Id.run_bind, run_offerWith_logged]
  unfold uses
  cases hcall : call? p r.handler with
  | none =>
    rw [(walkThrough_of_no_call hcall).1]
    rcases offer_of_no_call hcall with hoffer | ⟨message, hoffer⟩
    · simp [hoffer]
    · simp [hoffer]
  | some call =>
    obtain ⟨reaction, hoffer, hending⟩ := offer_of_call hcall
    rw [walkThrough_of_call hcall]
    simp only [hoffer]
    cases hfinal : call.ending.isFinal with
    | false => simp [logged, hending, hfinal]
    | true => simp [logged, hending, hfinal]

/-! ## The course of a delivery -/

/-- How a delivery ends, when these were tried and these were not. -/
inductive Ends (p : Parcel) : List Registration → List Registration → Option HandlerId → Prop where
  /-- Every handler was tried, and passed on. -/
  | unclaimed {tried : List Registration} :
      (∀ r ∈ tried, PassesOn p r.handler) → Ends p tried [] none
  /-- The last handler that was tried is the first that did not pass on. -/
  | claimed {earlier untried : List Registration} {last : Registration} {call : Call} :
      (∀ r ∈ earlier, PassesOn p r.handler) → call? p last.handler = some call →
      call.ending = .finished .handled ∨ call.ending = .finished .abort →
      Ends p (earlier ++ [last]) untried (some last.id)

theorem Ends.cons {p : Parcel} {r : Registration} {tried untried : List Registration}
    {endedBy : Option HandlerId} (hpasses : PassesOn p r.handler)
    (h : Ends p tried untried endedBy) : Ends p (r :: tried) untried endedBy := by
  cases h with
  | unclaimed hall => exact .unclaimed (List.forall_mem_cons.2 ⟨hpasses, hall⟩)
  | claimed hearlier hcall hending =>
    rw [← List.cons_append]
    exact .claimed (List.forall_mem_cons.2 ⟨hpasses, hearlier⟩) hcall hending

/-- What a delivery to these registrations comes to, with what is seen of it and by whom it is
ended. -/
structure Course (p : Parcel) (registrations tried untried : List Registration)
    (result : List Event × Option HandlerId) : Prop where
  split : registrations = tried ++ untried
  /-- The handlers that were tried and match are called, in their order. -/
  called : calls result.1 = tried.filterMap (callOf p)
  /-- Their filters and callbacks are run, and nothing of the others. -/
  run : ∀ log, ((deliverWith logged p registrations).run log).run =
    (result.2, log ++ tried.flatMap (uses p))
  ends : Ends p tried untried result.2

/-- The delivery is over where a handler ends it. -/
theorem Course.last {p : Parcel} {r : Registration} {id : HandlerId}
    (h : (walkThrough p [r]).2 = some id) (rest : List Registration) :
    Course p (r :: rest) [r] rest (walkThrough p (r :: rest)) := by
  have hwalk := walkThrough_append_of_some h rest
  rw [List.singleton_append] at hwalk
  constructor
  case split => rfl
  case called =>
    rw [hwalk, calls_walkThrough_singleton]
    cases hcall : callOf p r <;> simp [hcall]
  case run =>
    intro log
    rw [run_deliverWith_logged_cons, h, hwalk, h]
    simp
  case ends =>
    obtain ⟨rfl, call, hcall, hending⟩ := walkThrough_singleton_eq_some h
    rw [hwalk, h, ← List.nil_append [r]]
    exact .claimed nofun hcall hending

theorem Course.cons {p : Parcel} {r : Registration} {rest tried untried : List Registration}
    (h : (walkThrough p [r]).2 = none) (hrest : Course p rest tried untried (walkThrough p rest)) :
    Course p (r :: rest) (r :: tried) untried (walkThrough p (r :: rest)) := by
  have hwalk := walkThrough_append_of_none h rest
  rw [List.singleton_append] at hwalk
  constructor
  case split => rw [hrest.split, List.cons_append]
  case called =>
    have hbehind := hrest.called
    have hown := calls_walkThrough_singleton p r
    unfold calls at hbehind hown ⊢
    rw [hwalk, List.filterMap_append, hown, hbehind, List.filterMap_cons]
    cases callOf p r <;> simp
  case run =>
    intro log
    rw [run_deliverWith_logged_cons, h, hwalk]
    simp only [hrest.run, List.flatMap_cons, List.append_assoc]
  case ends =>
    rw [hwalk]
    exact hrest.ends.cons (walkThrough_singleton_eq_none_iff.1 h)

theorem exists_course (p : Parcel) (registrations : List Registration) :
    ∃ tried untried, Course p registrations tried untried (walkThrough p registrations) := by
  induction registrations with
  | nil =>
    have hends : Ends p [] [] none := .unclaimed nofun
    exact ⟨[], [], rfl, rfl, fun log => by simp [deliverWith, walkThrough, walk], hends⟩
  | cons r rest ih =>
    obtain ⟨tried, untried, hrest⟩ := ih
    cases hfirst : (walkThrough p [r]).2 with
    | none => exact ⟨r :: tried, untried, .cons hfirst hrest⟩
    | some id => exact ⟨[r], rest, .last hfirst rest⟩

/-- A handler that matches is called if all in front of it pass on. -/
theorem called_of_passesOn {p : Parcel} {front : List Registration} {r : Registration}
    {call : Call} (hfront : ∀ x ∈ front, PassesOn p x.handler)
    (hcall : call? p r.handler = some call) (back : List Registration) :
    .called r.id call.argument ∈ (walkThrough p (front ++ r :: back)).1 := by
  have hown : .called r.id call.argument ∈ (walkThrough p [r]).1 := by
    rw [walkThrough_of_call hcall]
    exact List.mem_cons_self
  have hrest : .called r.id call.argument ∈ (walkThrough p (r :: back)).1 := by
    rw [← List.singleton_append]
    cases hended : (walkThrough p [r]).2 with
    | some id =>
      rw [walkThrough_append_of_some hended]
      exact hown
    | none =>
      rw [walkThrough_append_of_none hended]
      exact List.mem_append_left _ hown
  rw [walkThrough_append_of_none (walkThrough_eq_none_iff.2 hfront)]
  exact List.mem_append_right _ hrest

/-! ## Handlers that pass on -/

/-- One more handler makes no difference to a delivery but what is seen of this handler. -/
structure Inserted (p : Parcel) (x : Registration)
    (result inserted : List Event × Option HandlerId) : Prop where
  endedBy : inserted.2 = result.2
  seen : ∃ before own behind, result.1 = before ++ behind ∧ inserted.1 = before ++ own ++ behind ∧
    (own = [] ∨ own = (walkThrough p [x]).1)

theorem inserted_of_passesOn {p : Parcel} {x : Registration} (hx : PassesOn p x.handler)
    (before behind : List Registration) :
    Inserted p x (walkThrough p (before ++ behind)) (walkThrough p (before ++ x :: behind)) := by
  have hnone := walkThrough_singleton_eq_none_iff.2 hx
  have hx' := walkThrough_append_of_none hnone behind
  rw [List.singleton_append] at hx'
  cases hbefore : (walkThrough p before).2 with
  | some id =>
    -- the handler is not tried
    rw [walkThrough_append_of_some hbefore, walkThrough_append_of_some hbefore]
    exact ⟨rfl, (walkThrough p before).1, [], [], by simp, by simp, .inl rfl⟩
  | none =>
    rw [walkThrough_append_of_none hbefore, walkThrough_append_of_none hbefore, hx']
    exact ⟨rfl, (walkThrough p before).1, (walkThrough p [x]).1, (walkThrough p behind).1, rfl,
      by simp, .inr rfl⟩

/-- How the handlers of a registry share a delivery. -/
structure FirstMatchWins (registry : Registry) (p : Parcel) : Prop where
  /-- Handlers are tried by group, and in a group by their registration. -/
  inOrder : registry.InOrder
  /-- It is the same delivery whichever callbacks suspend it. -/
  inPieces : ∀ suspends, whole (walk suspends p registry.toList) = registry.deliver p
  /-- It ends as the delivery does that runs all filters and callbacks as `Code`. -/
  asCode : (deliverWith plain p registry.toList).run = (registry.deliver p).2
  /-- The handlers are tried up to the first that handles or aborts. -/
  course : ∃ tried untried, Course p registry.toList tried untried (registry.deliver p)
  /-- Nobody ends the delivery if and only if all that match skip or fail. -/
  unclaimed : (registry.deliver p).2 = none ↔ ∀ r ∈ registry.toList, PassesOn p r.handler
  /-- A handler that passes on makes no difference to the others, wherever it stands. -/
  inserted : ∀ (other : Registry) before x behind, registry.toList = before ++ behind →
    other.toList = before ++ x :: behind → PassesOn p x.handler →
    Inserted p x (registry.deliver p) (other.deliver p)
  /-- So it makes none in whatever group it is registered. -/
  added : ∀ id handler group, PassesOn p handler →
    Inserted p ⟨id, handler⟩ (registry.deliver p) ((registry.add id handler group).deliver p)

/-- For any handlers, filters and callbacks, and for any envelope, parsed or not. -/
theorem deliver_firstMatchWins (registry : Registry) (p : Parcel) : FirstMatchWins registry p := by
  have hinserted : ∀ (other : Registry) before x behind, registry.toList = before ++ behind →
      other.toList = before ++ x :: behind → PassesOn p x.handler →
      Inserted p x (registry.deliver p) (other.deliver p) := by
    intro other before x behind hregistry hother hx
    rw [Registry.deliver_eq, Registry.deliver_eq, hregistry, hother]
    exact inserted_of_passesOn hx before behind
  constructor
  case inOrder => exact registry.inOrder
  case inPieces =>
    intro suspends
    rw [Registry.deliver_eq, walkThrough_eq suspends]
  case asCode => exact run_deliverWith_plain p registry.toList
  case course => exact exists_course p registry.toList
  case unclaimed => exact walkThrough_eq_none_iff
  case inserted => exact hinserted
  case added =>
    intro id handler group hpasses
    obtain ⟨before, behind, hregistry, hadded⟩ := registry.toList_add id handler group
    exact hinserted _ before _ behind hregistry hadded hpasses

end Delivery

end UpdatePipeline
