import UpdatePipeline.Proofs.Delivery.FirstMatch
import UpdatePipeline.Proofs.Dispatcher.Instant
set_option autoImplicit false

/-!
# What is queued is delivered

Workers that are never busy deliver the envelopes in the order in which these were queued: at
every moment the first ones are delivered and the rest waits (`Dispatcher.Delivering`).  Where
every callback ends the delivery and one handler takes whatever comes, an envelope leads to
exactly one call (`Registry.calls_serve`).
-/

namespace UpdatePipeline

open Delivery (Parcel calls call? callOf walkThrough)

/-! ## One call for an envelope -/

/-- Every callback of the handler ends the delivery. -/
def Handler.IsFinal : Handler → Prop
  | .typed h => ∀ u, (h.callback u).ending.isFinal
  | .raw callback => ∀ e, (callback e).ending.isFinal

/-- Whether the handler takes every envelope. -/
def Handler.isRaw : Handler → Bool
  | .typed _ => false
  | .raw _ => true

/-- A callback is given the envelope, or a form into which it was parsed. -/
def Argument.IsOf (envelope : Envelope) : Argument → Prop
  | .envelope e => e = envelope
  | .parsed u => ∃ caches : Parsed.Caches, (caches.read envelope).1 = some u

namespace Delivery

theorem Call.isFinal_of_handler {p : Parcel} {h : Handler} (hfinal : h.IsFinal) {call : Call}
    (hcall : call? p h = some call) : call.ending.isFinal := by
  cases h with
  | raw callback =>
    obtain rfl := Option.some.inj hcall
    exact hfinal p.envelope
  | typed h =>
    obtain ⟨u, -, hmatch⟩ := Option.bind_eq_some_iff.1 hcall
    split at hmatch
    · obtain rfl := Option.some.inj hmatch
      exact hfinal u
    · cases hmatch

theorem isOf_of_call {e : Envelope} {caches : Parsed.Caches} {h : Handler} {call : Call}
    (hcall : call? ⟨e, (caches.read e).1⟩ h = some call) : call.argument.IsOf e := by
  cases h with
  | raw callback =>
    obtain rfl := Option.some.inj hcall
    rfl
  | typed h =>
    obtain ⟨u, hparsed, hmatch⟩ := Option.bind_eq_some_iff.1 hcall
    split at hmatch
    · obtain rfl := Option.some.inj hmatch
      exact ⟨caches, hparsed⟩
    · cases hmatch

/-- Where every callback ends the delivery only the first handler that matches is called. -/
theorem calls_walkThrough_of_isFinal {p : Parcel} {registrations : List Registration}
    (hfinal : ∀ r ∈ registrations, r.handler.IsFinal) :
    calls (walkThrough p registrations).1 = (registrations.findSome? (callOf p)).toList := by
  induction registrations with
  | nil => rfl
  | cons r rest ih =>
    obtain ⟨hr, hrest⟩ := List.forall_mem_cons.1 hfinal
    have hfirst := calls_walkThrough_singleton p r
    rw [← List.singleton_append, List.findSome?_append]
    cases hcall : call? p r.handler with
    | none =>
      have hnone : callOf p r = none := by rw [callOf, hcall]; rfl
      have hpasses := walkThrough_of_no_call hcall
      rw [walkThrough_append_of_none hpasses.1, calls, List.filterMap_append, ← calls, ← calls,
        hpasses.2, ih hrest]
      simp [hnone]
    | some call =>
      have hended : (walkThrough p [r]).2 = some r.id := by
        rw [walkThrough_of_call hcall, if_pos (Call.isFinal_of_handler hr hcall)]
      have hsome : callOf p r = some (r.id, call.argument) := by rw [callOf, hcall]; rfl
      rw [walkThrough_append_of_some hended, hfirst]
      simp [hsome]

end Delivery

namespace Registry

theorem serve_append (r : Registry) (caches : Parsed.Caches) (front back : List Envelope) :
    r.serve caches (front ++ back) =
      ((r.serve caches front).1 ++ (r.serve (r.serve caches front).2 back).1,
        (r.serve (r.serve caches front).2 back).2) := by
  induction front generalizing caches with
  | nil => rfl
  | cons e rest ih =>
    rw [List.cons_append, serve, serve, ih]
    simp only [List.append_assoc]

/-- If every callback ends the delivery and some handler takes every envelope then each envelope
leads to one call, which is given that envelope. -/
theorem calls_serve {r : Registry} (hfinal : ∀ x ∈ r.toList, x.handler.IsFinal)
    (hraw : ∃ x ∈ r.toList, x.handler.isRaw) (caches : Parsed.Caches)
    (envelopes : List Envelope) :
    List.Forall₂ (fun e call => call.2.IsOf e) envelopes (calls (r.serve caches envelopes).1) := by
  induction envelopes generalizing caches with
  | nil => exact .nil
  | cons e rest ih =>
    have hone : ∃ call, r.toList.findSome? (callOf ⟨e, (caches.read e).1⟩) = some call := by
      obtain ⟨x, hx, hisRaw⟩ := hraw
      rw [← Option.isSome_iff_exists, List.findSome?_isSome_iff]
      refine ⟨x, hx, ?_⟩
      unfold callOf
      cases hhandler : x.handler with
      | typed h => simp [hhandler, Handler.isRaw] at hisRaw
      | raw callback => rfl
    obtain ⟨call, hcall⟩ := hone
    have hdeliver : calls (r.deliver ⟨e, (caches.read e).1⟩).1 = [call] := by
      rw [deliver_eq, Delivery.calls_walkThrough_of_isFinal hfinal, hcall]
      rfl
    have hisOf : call.2.IsOf e := by
      obtain ⟨x, -, hx⟩ := List.exists_of_findSome?_eq_some hcall
      obtain ⟨c, hc, rfl⟩ := Option.map_eq_some_iff.1 hx
      exact Delivery.isOf_of_call hc
    rw [serve, calls, List.filterMap_append, ← calls, ← calls, hdeliver]
    exact .cons hisOf (ih _)

end Registry

/-! ## The queue from a moment on -/

namespace Dispatcher

/-- Of the envelopes that have been queued since then all but the last ones, which wait, have
been delivered in order. -/
structure Delivering (begun : Dispatcher) (phase : Phase) (queued waiting : List Envelope)
    (called : List (HandlerId × Argument)) (d : Dispatcher) : Prop where
  inPhase : d.InPhase phase waiting
  registry : d.registry = begun.registry
  delivered : ∃ done, queued = done ++ waiting ∧
    called = calls (begun.registry.serve begun.caches done).1 ∧
    d.caches = (begun.registry.serve begun.caches done).2

variable {begun d : Dispatcher} {phase : Phase} {queued waiting : List Envelope}
  {called : List (HandlerId × Argument)}

namespace Delivering

/-- At first nothing is queued and nothing delivered. -/
theorem begin (h : d.InPhase phase []) : Delivering d phase [] [] [] d :=
  ⟨h, rfl, [], rfl, rfl, rfl⟩

theorem enqueue (h : Delivering begun phase queued waiting called d) (hphase : phase.isSteady)
    (envelope : Envelope) :
    Delivering begun phase (queued ++ [envelope]) (waiting ++ [envelope]) called
      (d.enqueue envelope) where
  inPhase := h.inPhase.enqueue hphase envelope
  registry := h.registry
  delivered := by
    obtain ⟨done, rfl, hcalled, hcaches⟩ := h.delivered
    exact ⟨done, List.append_assoc _ _ _, hcalled, hcaches⟩

/-- Where there are workers nothing waits any longer than up to the next moment of rest. -/
theorem drain (h : Delivering begun phase queued waiting called d) (hidle : 0 < d.idle)
    (clock : Clock) :
    Delivering begun phase.drained queued [] (called ++ calls (d.drain clock).1)
      (d.drain clock).2.1 := by
  rw [h.inPhase.drain hidle clock]
  refine ⟨h.inPhase.drained _, h.registry, queued, (List.append_nil _).symm, ?_⟩
  obtain ⟨done, rfl, rfl, hcaches⟩ := h.delivered
  rw [Registry.serve_append, hcaches, h.registry]
  exact ⟨List.filterMap_append.symm, rfl⟩

theorem start (h : Delivering begun .absent queued waiting called d) (hkept : d.isDropped = false) :
    Delivering begun .present queued waiting called d.start.2 := by
  obtain ⟨hstart, hpresent⟩ := h.inPhase.start hkept
  rw [hstart]
  exact ⟨hpresent, h.registry, h.delivered⟩

theorem beginStop (h : Delivering begun .present queued waiting called d) :
    Delivering begun .leaving queued waiting called d.beginStop := by
  obtain ⟨hbegun, hleaving⟩ := h.inPhase.beginStop
  rw [hbegun]
  exact ⟨hleaving, h.registry, h.delivered⟩

/-- What does not wait is delivered. -/
theorem called_eq (h : Delivering begun phase queued [] called d) :
    called = calls (begun.registry.serve begun.caches queued).1 := by
  obtain ⟨done, rfl, hcalled, -⟩ := h.delivered
  rw [List.append_nil]
  exact hcalled

end Delivering

end Dispatcher

end UpdatePipeline
