import UpdatePipeline.Delivery
set_option autoImplicit false

/-!
# Deliveries in pieces

A delivery that is suspended and resumed, however often, comes to what a delivery comes to
that is not: at every point what has been seen of it and what remains of it make up the
whole (`walkThrough_eq`, `remainder_eq_resume`).  Each resumption leaves fewer
registrations to try.
-/

namespace UpdatePipeline

namespace Delivery

/-- What can be seen of a delivery to these registrations, whatever time its callbacks
take, and the handler that ends it. -/
def walkThrough (p : Parcel) (registrations : List Registration) :
    List Event × Option HandlerId :=
  match walk (fun _ => false) p registrations with
  | (events, .finished endedBy) => (events, endedBy)
  | (events, .suspended _ _) => (events, none)

/-- What remains of a suspended delivery. -/
def Suspended.remainder (s : Suspended) : List Event × Option HandlerId :=
  if s.ending.isFinal then ([], some s.handler)
  else
    (failureEvents s.parcel s.handler s.ending ++ (walkThrough s.parcel s.rest).1,
      (walkThrough s.parcel s.rest).2)

/-- What remains of a delivery that has come to a status. -/
def Status.remainder : Status → List Event × Option HandlerId
  | .finished endedBy => ([], endedBy)
  | .suspended _ s => s.remainder

/-- What was seen, with what remains. -/
def whole (r : List Event × Status) : List Event × Option HandlerId :=
  (r.1 ++ r.2.remainder.1, r.2.remainder.2)

theorem walkThrough_cons (p : Parcel) (r : Registration) (rest : List Registration) :
    walkThrough p (r :: rest) =
      match r.handler.offer p.envelope p.parsed with
      | .declined => walkThrough p rest
      | .filterFailed message =>
        (.reported (.filterFailed r.id p.envelope.update.name message) ::
          (walkThrough p rest).1, (walkThrough p rest).2)
      | .accepted argument reaction =>
        if reaction.ending.isFinal then ([.called r.id argument], some r.id)
        else
          (.called r.id argument ::
            (failureEvents p r.id reaction.ending ++ (walkThrough p rest).1),
            (walkThrough p rest).2) := by
  unfold walkThrough
  rw [walk]
  rcases walk (fun _ => false) p rest with ⟨events, endedBy | ⟨delay, s⟩⟩
  all_goals
    cases r.handler.offer p.envelope p.parsed with
    | declined => rfl
    | filterFailed message => rfl
    | accepted argument reaction => cases hfinal : reaction.ending.isFinal <;> simp [hfinal]

/-- Wherever a delivery is suspended, what was seen of it and what remains make up the
whole. -/
theorem walkThrough_eq (suspends : Reaction → Bool) (p : Parcel)
    (registrations : List Registration) :
    walkThrough p registrations = whole (walk suspends p registrations) := by
  induction registrations with
  | nil => rfl
  | cons r rest ih =>
    rw [walkThrough_cons, walk, ih]
    cases r.handler.offer p.envelope p.parsed with
    | declined => rfl
    | filterFailed message => rfl
    | accepted argument reaction =>
      by_cases hsuspends : suspends reaction
      · by_cases hfinal : reaction.ending.isFinal
        · simp [whole, Status.remainder, Suspended.remainder, hsuspends, hfinal]
        · simp [whole, Status.remainder, Suspended.remainder, hsuspends, hfinal, ih]
      · by_cases hfinal : reaction.ending.isFinal
        · simp [whole, Status.remainder, hsuspends, hfinal]
        · simp [whole, hsuspends, hfinal]

theorem remainder_eq_resume (s : Suspended) : s.remainder = whole s.resume := by
  unfold Suspended.remainder Suspended.resume
  split
  · rfl
  · rw [walkThrough_eq takesTime, whole, whole, List.append_assoc]

/-- A delivery is suspended in what it was begun with, and what is left to try are the
registrations behind the one whose callback is running. -/
theorem split_of_walk {suspends : Reaction → Bool} {p : Parcel}
    {registrations : List Registration} {delay : Duration} {s : Suspended}
    (h : (walk suspends p registrations).2 = .suspended delay s) :
    s.parcel = p ∧ ∃ tried r, registrations = tried ++ r :: s.rest := by
  induction registrations with
  | nil => cases h
  | cons r rest ih =>
    -- unless it is suspended at once, it is so in what follows
    have hlater : (walk suspends p rest).2 = .suspended delay s →
        s.parcel = p ∧ ∃ tried r', r :: rest = tried ++ r' :: s.rest := by
      intro hrest
      obtain ⟨hparcel, tried, r', hsplit⟩ := ih hrest
      refine ⟨hparcel, r :: tried, r', ?_⟩
      rw [hsplit]
      rfl
    rw [walk] at h
    cases hoffer : r.handler.offer p.envelope p.parsed with
    | declined =>
      rw [hoffer] at h
      exact hlater h
    | filterFailed message =>
      rw [hoffer] at h
      exact hlater h
    | accepted argument reaction =>
      simp only [hoffer] at h
      split at h
      · obtain ⟨-, rfl⟩ := Status.suspended.inj h
        exact ⟨rfl, [], r, rfl⟩
      · split at h
        · cases h
        · exact hlater h

/-- So with every suspension there are fewer registrations to try. -/
theorem suspended_of_walk {suspends : Reaction → Bool} {p : Parcel}
    {registrations : List Registration} {delay : Duration} {s : Suspended}
    (h : (walk suspends p registrations).2 = .suspended delay s) :
    s.parcel = p ∧ s.rest.length < registrations.length := by
  obtain ⟨hparcel, tried, r, hsplit⟩ := split_of_walk h
  refine ⟨hparcel, ?_⟩
  rw [hsplit, List.length_append, List.length_cons]
  omega

theorem not_called_of_failureEvents {p : Parcel} {handler id : HandlerId} {ending : Ending}
    {argument : Argument} : .called id argument ∉ failureEvents p handler ending := by
  unfold failureEvents
  cases ending.failure? with
  | none => simp
  | some message => simp

/-- Who is called is registered. -/
theorem registered_of_walk {suspends : Reaction → Bool} {p : Parcel}
    {registrations : List Registration} {id : HandlerId} {argument : Argument}
    (h : .called id argument ∈ (walk suspends p registrations).1) :
    ∃ r ∈ registrations, r.id = id := by
  induction registrations with
  | nil => cases h
  | cons r rest ih =>
    have hlater : .called id argument ∈ (walk suspends p rest).1 → ∃ r' ∈ r :: rest, r'.id = id := by
      intro hrest
      obtain ⟨r', hr', hid⟩ := ih hrest
      exact ⟨r', List.mem_cons_of_mem _ hr', hid⟩
    rw [walk] at h
    cases hoffer : r.handler.offer p.envelope p.parsed with
    | declined =>
      rw [hoffer] at h
      exact hlater h
    | filterFailed message =>
      simp only [hoffer] at h
      rcases List.mem_cons.1 h with heq | hrest
      · cases heq
      · exact hlater hrest
    | accepted argument' reaction =>
      have hown : Event.called id argument = .called r.id argument' →
          ∃ r' ∈ r :: rest, r'.id = id := by
        intro heq
        exact ⟨r, List.mem_cons_self, (Event.called.inj heq).1.symm⟩
      simp only [hoffer] at h
      split at h
      · exact hown (List.mem_singleton.1 h)
      · split at h
        · exact hown (List.mem_singleton.1 h)
        · rcases List.mem_cons.1 h with heq | hrest
          · exact hown heq
          · rcases List.mem_append.1 hrest with hfailure | hrest
            · exact absurd hfailure not_called_of_failureEvents
            · exact hlater hrest

theorem split_of_resume {s s' : Suspended} {delay : Duration}
    (h : s.resume.2 = .suspended delay s') :
    s'.parcel = s.parcel ∧ ∃ tried r, s.rest = tried ++ r :: s'.rest := by
  unfold Suspended.resume at h
  split at h
  · cases h
  · exact split_of_walk h

theorem suspended_of_resume {s s' : Suspended} {delay : Duration}
    (h : s.resume.2 = .suspended delay s') :
    s'.parcel = s.parcel ∧ s'.rest.length < s.rest.length := by
  unfold Suspended.resume at h
  split at h
  · cases h
  · exact suspended_of_walk h

theorem registered_of_resume {s : Suspended} {id : HandlerId} {argument : Argument}
    (h : .called id argument ∈ s.resume.1) : ∃ r ∈ s.rest, r.id = id := by
  unfold Suspended.resume at h
  split at h
  · cases h
  · rcases List.mem_append.1 h with hfailure | hrest
    · exact absurd hfailure not_called_of_failureEvents
    · exact registered_of_walk hrest

theorem registered_of_walkThrough {p : Parcel} {registrations : List Registration}
    {id : HandlerId} {argument : Argument}
    (h : .called id argument ∈ (walkThrough p registrations).1) :
    ∃ r ∈ registrations, r.id = id := by
  have hseen : (walkThrough p registrations).1 = (walk (fun _ => false) p registrations).1 := by
    unfold walkThrough
    rcases walk (fun _ => false) p registrations with ⟨events, endedBy | ⟨delay, s⟩⟩
    · rfl
    · rfl
  rw [hseen] at h
  exact registered_of_walk h

end Delivery

theorem Registry.deliver_eq (registry : Registry) (p : Delivery.Parcel) :
    registry.deliver p = Delivery.walkThrough p registry.toList := rfl

end UpdatePipeline
