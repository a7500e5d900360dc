import UpdatePipeline.Program
set_option autoImplicit false

/-!
# Traces of programs

What a program did can be put down step by step, each step with the answer it got.
Whatever its surroundings see of it is read off this trace: the requests invoked, the
envelopes queued, the records written.  What a trace leaves in a store depends on its
writes alone, and for each scope on the last write that succeeded
(`Trace.find?_applyTo`).
-/

namespace UpdatePipeline

open Schema

namespace Program

/-- One step of a program, with the answer it got. -/
inductive Event where
  /-- An invocation: the results of its attempts in order, and what it came to. -/
  | invoked (request : Request) (attempts : List Reply) (reply : Reply)
  | resolved (peer : Int64) (answer : Except InvocationError InputPeer)
  | listed (answer : Except IoError (List StateRecord))
  | stored (record : StateRecord) (answer : Except IoError Unit)
  | enqueued (envelope : Envelope)
  | reported (notice : Notice)
  | touched

/-- What a program did, in order. -/
abbrev Trace := List Event

namespace Event

/-- The envelope queued. -/
def envelope? : Event → Option Envelope
  | .enqueued envelope => some envelope
  | _ => none

/-- The request invoked, and what it came to. -/
def invocation? : Event → Option (Request × Reply)
  | .invoked request _ reply => some (request, reply)
  | _ => none

/-- The attempts of the invocation, and what came of each. -/
def attempts : Event → List (Request × Reply)
  | .invoked request attempts _ => attempts.map (request, ·)
  | _ => []

/-- The difference asked for, and the answer. -/
def difference? : Event → Option (DifferenceQuery × Except InvocationError Difference)
  | .invoked (.getDifference query) _ reply => some (query, reply.bind Response.asDifference)
  | _ => none

/-- The channel's difference asked for, and the answer. -/
def channelDifference? :
    Event → Option (ChannelDifferenceQuery × Except InvocationError ChannelDifference)
  | .invoked (.getChannelDifference query) _ reply =>
    some (query, reply.bind Response.asChannelDifference)
  | _ => none

/-- The peer looked up, and the answer. -/
def resolution? : Event → Option (Int64 × Except InvocationError InputPeer)
  | .resolved peer answer => some (peer, answer)
  | _ => none

/-- The record written, and whether that succeeded. -/
def write? : Event → Option (StateRecord × Except IoError Unit)
  | .stored record answer => some (record, answer)
  | _ => none

/-- The records once this has happened: a write that failed stores nothing. -/
def applyTo (m : Records) : Event → Records
  | .stored record (.ok ()) => m.set record
  | _ => m

end Event

namespace Trace

/-- The envelopes queued, in order. -/
def envelopes (t : Trace) : List Envelope := t.filterMap Event.envelope?

/-- The invocations, in order. -/
def invocations (t : Trace) : List (Request × Reply) := t.filterMap Event.invocation?

/-- The attempts of all invocations, in order. -/
def attempts (t : Trace) : List (Request × Reply) := t.flatMap Event.attempts

/-- The invocations of `getDifference`, in order. -/
def differences (t : Trace) : List (DifferenceQuery × Except InvocationError Difference) :=
  t.filterMap Event.difference?

/-- The invocations of `getChannelDifference`, in order. -/
def channelDifferences (t : Trace) :
    List (ChannelDifferenceQuery × Except InvocationError ChannelDifference) :=
  t.filterMap Event.channelDifference?

/-- The peers looked up, in order. -/
def resolutions (t : Trace) : List (Int64 × Except InvocationError InputPeer) :=
  t.filterMap Event.resolution?

/-- The writes, in order. -/
def writes (t : Trace) : List (StateRecord × Except IoError Unit) := t.filterMap Event.write?

/-- The records that the trace leaves of those before it. -/
def applyTo (t : Trace) (m : Records) : Records := t.foldl Event.applyTo m

/-! ## Traces in pieces -/

section Append

variable (s t : Trace)

@[simp] theorem envelopes_append : envelopes (s ++ t) = s.envelopes ++ t.envelopes :=
  List.filterMap_append

@[simp] theorem invocations_append : invocations (s ++ t) = s.invocations ++ t.invocations :=
  List.filterMap_append

@[simp] theorem attempts_append : attempts (s ++ t) = s.attempts ++ t.attempts :=
  List.flatMap_append

theorem attempts_concat (e : Event) : attempts (s ++ [e]) = s.attempts ++ e.attempts := by
  rw [attempts_append]
  exact congrArg (s.attempts ++ ·) (List.append_nil _)

/-- A step that queues nothing does not change what is queued. -/
theorem envelopes_concat_of_none {e : Event} (h : e.envelope? = none) :
    envelopes (s ++ [e]) = s.envelopes := by
  have hnothing : envelopes [e] = [] := List.filterMap_cons_none h
  rw [envelopes_append, hnothing, List.append_nil]

@[simp] theorem differences_append : differences (s ++ t) = s.differences ++ t.differences :=
  List.filterMap_append

@[simp] theorem channelDifferences_append :
    channelDifferences (s ++ t) = s.channelDifferences ++ t.channelDifferences :=
  List.filterMap_append

@[simp] theorem resolutions_append : resolutions (s ++ t) = s.resolutions ++ t.resolutions :=
  List.filterMap_append

@[simp] theorem writes_append : writes (s ++ t) = s.writes ++ t.writes :=
  List.filterMap_append

end Append

/-! ## Traces of one kind of step -/

/-- What queuing these envelopes puts down. -/
def ofEnvelopes (es : List Envelope) : Trace := es.map .enqueued

/-- What reporting these notices puts down. -/
def ofNotices (ns : List Notice) : Trace := ns.map .reported

/-- Steps of a kind that does not show under `f` show nothing at all there. -/
theorem filterMap_map_eq_nil {α β : Type} {f : Event → Option α} {g : β → Event}
    (h : ∀ b, f (g b) = none) (l : List β) : (l.map g).filterMap f = [] := by
  rw [List.filterMap_map, List.filterMap_eq_nil_iff]
  intro b _
  exact h b

section OfEnvelopes

variable (es : List Envelope)

@[simp] theorem envelopes_ofEnvelopes : (ofEnvelopes es).envelopes = es := by
  induction es with
  | nil => rfl
  | cons e rest ih => simpa [ofEnvelopes, envelopes, Event.envelope?] using ih

@[simp] theorem invocations_ofEnvelopes : (ofEnvelopes es).invocations = [] :=
  filterMap_map_eq_nil (fun _ => rfl) es

@[simp] theorem differences_ofEnvelopes : (ofEnvelopes es).differences = [] :=
  filterMap_map_eq_nil (fun _ => rfl) es

@[simp] theorem channelDifferences_ofEnvelopes : (ofEnvelopes es).channelDifferences = [] :=
  filterMap_map_eq_nil (fun _ => rfl) es

@[simp] theorem resolutions_ofEnvelopes : (ofEnvelopes es).resolutions = [] :=
  filterMap_map_eq_nil (fun _ => rfl) es

@[simp] theorem writes_ofEnvelopes : (ofEnvelopes es).writes = [] :=
  filterMap_map_eq_nil (fun _ => rfl) es

end OfEnvelopes

section OfNotices

variable (ns : List Notice)

@[simp] theorem envelopes_ofNotices : (ofNotices ns).envelopes = [] :=
  filterMap_map_eq_nil (fun _ => rfl) ns

@[simp] theorem invocations_ofNotices : (ofNotices ns).invocations = [] :=
  filterMap_map_eq_nil (fun _ => rfl) ns

@[simp] theorem differences_ofNotices : (ofNotices ns).differences = [] :=
  filterMap_map_eq_nil (fun _ => rfl) ns

@[simp] theorem channelDifferences_ofNotices : (ofNotices ns).channelDifferences = [] :=
  filterMap_map_eq_nil (fun _ => rfl) ns

@[simp] theorem resolutions_ofNotices : (ofNotices ns).resolutions = [] :=
  filterMap_map_eq_nil (fun _ => rfl) ns

@[simp] theorem writes_ofNotices : (ofNotices ns).writes = [] :=
  filterMap_map_eq_nil (fun _ => rfl) ns

end OfNotices

/-! ## Requests of one kind -/

/-- Only a request for the account's difference gets one. -/
theorem differences_eq_nil {t : Trace}
    (h : ∀ r ∈ t.invocations.map (·.1), ∀ q, r ≠ .getDifference q) : t.differences = [] := by
  rw [differences, List.filterMap_eq_nil_iff]
  intro e he
  cases e with
  | invoked request attempts reply =>
    have hmem : request ∈ t.invocations.map (·.1) :=
      List.mem_map.2 ⟨(request, reply), List.mem_filterMap.2 ⟨_, he, rfl⟩, rfl⟩
    cases request with
    | getDifference q => exact absurd rfl (h _ hmem q)
    | _ => rfl
  | _ => rfl

/-! ## What a trace leaves in a store -/

/-- The last record written for a scope with success. -/
def stored? (t : Trace) (scope : Scope) : Option StateRecord :=
  (t.writes.filter fun w => w.1.scope = scope && w.2.isOk).getLast?.map (·.1)

/-- What was written later stands over what was written before. -/
theorem stored?_append (s t : Trace) (scope : Scope) :
    stored? (s ++ t) scope = (t.stored? scope).or (s.stored? scope) := by
  rw [stored?, stored?, stored?, writes_append, List.filter_append, List.getLast?_append]
  cases (t.writes.filter fun w => w.1.scope = scope && w.2.isOk).getLast? <;> rfl

/-- Of a single write its own scope keeps the record, if it succeeded. -/
theorem stored?_of_writes_eq {t : Trace} {record : StateRecord} {answer : Except IoError Unit}
    (h : t.writes = [(record, answer)]) (scope : Scope) :
    t.stored? scope = if record.scope = scope ∧ answer.isOk then some record else none := by
  rw [stored?, h]
  by_cases hscope : record.scope = scope
  · cases answer <;> simp [hscope, Except.isOk, Except.toBool]
  · simp [hscope]

/-- The writes of one scope, in order. -/
def writesTo (t : Trace) (scope : Scope) : List (StateRecord × Except IoError Unit) :=
  t.writes.filter fun w => w.1.scope = scope

/-- What stays of a scope is settled by the writes to it. -/
theorem stored?_eq_writesTo (t : Trace) (scope : Scope) :
    t.stored? scope = ((t.writesTo scope).filter fun w => w.2.isOk).getLast?.map (·.1) := by
  rw [stored?, writesTo, List.filter_filter]
  simp only [Bool.and_comm]

theorem map_writesTo (t : Trace) (scope : Scope) :
    (t.writesTo scope).map (·.1) = (t.writes.map (·.1)).filter (·.scope = scope) := by
  rw [writesTo, List.filter_map]
  rfl

/-- Where no write fails the last one of a scope stays. -/
theorem stored?_of_writes_ok {t : Trace} (h : ∀ w ∈ t.writes, w.2.isOk) (scope : Scope) :
    t.stored? scope = ((t.writes.map (·.1)).filter (·.scope = scope)).getLast? := by
  have hall : ((t.writesTo scope).filter fun w => w.2.isOk) = t.writesTo scope :=
    List.filter_eq_self.2 fun w hw => h w (List.mem_filter.1 hw).1
  rw [stored?_eq_writesTo, hall, ← map_writesTo, List.getLast?_map]

/-- A step's own write comes before those of the steps behind it. -/
theorem stored?_cons (e : Event) (t : Trace) (scope : Scope) :
    stored? (e :: t) scope = (t.stored? scope).or (stored? [e] scope) :=
  stored?_append [e] t scope

/-- What one step leaves of a scope: its own record, if it wrote one with success. -/
theorem find?_event_applyTo (e : Event) (m : Records) (scope : Scope) :
    (e.applyTo m).find? scope = (stored? [e] scope).or (m.find? scope) := by
  cases e with
  | stored record answer =>
    cases answer with
    | error _ => simp [Event.applyTo, stored?, writes, Event.write?, Except.isOk, Except.toBool]
    | ok _ =>
      by_cases h : scope = record.scope
      · simp [Event.applyTo, stored?, writes, Event.write?, Except.isOk, Except.toBool,
          Records.find?_set, h]
      · simp [Event.applyTo, stored?, writes, Event.write?, Except.isOk, Except.toBool,
          Records.find?_set, h, Ne.symm h]
  | _ => rfl

theorem applyTo_append (s t : Trace) (m : Records) :
    applyTo (s ++ t) m = t.applyTo (s.applyTo m) :=
  List.foldl_append

/-- A scope's record is the last one written for it with success, and without one it is
what it was. -/
theorem find?_applyTo (t : Trace) (m : Records) (scope : Scope) :
    (t.applyTo m).find? scope = (t.stored? scope).or (m.find? scope) := by
  induction t generalizing m with
  | nil => rfl
  | cons e t ih =>
    have hstep : applyTo (e :: t) m = applyTo t (e.applyTo m) := rfl
    rw [hstep, ih, find?_event_applyTo, stored?_cons e t, Option.or_assoc]

end Trace

end Program

end UpdatePipeline
