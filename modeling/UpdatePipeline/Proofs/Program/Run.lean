import UpdatePipeline.Proofs.Program.Trace
set_option autoImplicit false

/-!
# Runs of programs

A run of a program is a trace whose answers led it to its result.  `Program.Runs` says
which traces those are, for any answers whatsoever; the one thing it asks of them is
that an invocation's result follow from the results of its attempts by the retry policy
(`Invocation.Ends`).

`Surroundings` answer every question of a program, each time as they like: the answers
may depend on all that happened before.  Of the server they promise no more than that
every single invocation returns, and then a program runs to its end
(`Surroundings.run`), which is a run in the sense above (`Surroundings.runs_run`).
-/

namespace UpdatePipeline

open Schema

/-! ## Invocations -/

/-- The results of an invocation's attempts, and what they come to under a policy. -/
inductive Invocation.Ends (policy : RetryPolicy) : Invocation → List Reply → Reply → Prop where
  | finished {i : Invocation} {reply result : Reply} :
      i.onReply policy reply = .finished result → Ends policy i [reply] result
  | retried {i next : Invocation} {reply result : Reply} {delay : Duration}
      {notice : Option Notice} {attempts : List Reply} :
      i.onReply policy reply = .retry delay notice next →
      Ends policy next attempts result → Ends policy i (reply :: attempts) result

/-- A way in which an invocation can go. -/
structure Invocation.Course (policy : RetryPolicy) (request : Request) where
  attempts : List Reply
  reply : Reply
  ends : Invocation.Ends policy { request } attempts reply

/-- An answer at the first attempt ends an invocation under every policy. -/
def Invocation.Course.answered {policy : RetryPolicy} {request : Request} (response : Response) :
    Invocation.Course policy request where
  attempts := [.ok response]
  reply := .ok response
  ends := .finished rfl

/-- A failure at the first attempt ends an invocation that is not tried again. -/
def Invocation.Course.failed {request : Request} (e : InvocationError) :
    Invocation.Course RetryPolicy.never request where
  attempts := [.error e]
  reply := .error e
  ends := .finished rfl

namespace Program

variable {α β : Type} {policy : RetryPolicy}

/-! ## The relation -/

/-- A program comes to a result by a trace. -/
inductive Runs (policy : RetryPolicy) : Program α → Trace → α → Prop where
  | done (a : α) : Runs policy (.done a) [] a
  | invoke {request : Request} {attempts : List Reply} {reply : Reply}
      {next : Reply → Program α} {t : Trace} {a : α} :
      Invocation.Ends policy { request } attempts reply → Runs policy (next reply) t a →
      Runs policy (.invoke request next) (.invoked request attempts reply :: t) a
  | resolve {peer : Int64} {answer : Except InvocationError InputPeer}
      {next : Except InvocationError InputPeer → Program α} {t : Trace} {a : α} :
      Runs policy (next answer) t a →
      Runs policy (.resolve peer next) (.resolved peer answer :: t) a
  | listRecords {answer : Except IoError (List StateRecord)}
      {next : Except IoError (List StateRecord) → Program α} {t : Trace} {a : α} :
      Runs policy (next answer) t a → Runs policy (.listRecords next) (.listed answer :: t) a
  | storeRecord {record : StateRecord} {answer : Except IoError Unit}
      {next : Except IoError Unit → Program α} {t : Trace} {a : α} :
      Runs policy (next answer) t a →
      Runs policy (.storeRecord record next) (.stored record answer :: t) a
  | enqueue {envelope : Envelope} {next : Program α} {t : Trace} {a : α} :
      Runs policy next t a → Runs policy (.enqueue envelope next) (.enqueued envelope :: t) a
  | report {notice : Notice} {next : Program α} {t : Trace} {a : α} :
      Runs policy next t a → Runs policy (.report notice next) (.reported notice :: t) a
  | touch {next : Program α} {t : Trace} {a : α} :
      Runs policy next t a → Runs policy (.touch next) (.touched :: t) a

theorem runs_pure_iff {a b : α} {t : Trace} :
    Runs policy (pure a) t b ↔ t = [] ∧ b = a := by
  constructor
  · intro h
    cases h
    exact ⟨rfl, rfl⟩
  · rintro ⟨rfl, rfl⟩
    exact .done b

/-- A run of two programs in sequence is a run of the first and then one of the second. -/
theorem runs_bind_iff {p : Program α} {f : α → Program β} {t : Trace} {b : β} :
    Runs policy (p >>= f) t b ↔
      ∃ (t₁ : Trace) (a : α) (t₂ : Trace),
        t = t₁ ++ t₂ ∧ Runs policy p t₁ a ∧ Runs policy (f a) t₂ b := by
  constructor
  · change Runs policy (p.bind f) t b → _
    intro h
    -- the first program's steps are taken off the trace one by one
    induction p generalizing t with
    | done a => exact ⟨[], a, t, rfl, .done a, h⟩
    | invoke request next ih =>
      cases h with
      | invoke ends hrest =>
        obtain ⟨t₁, a, t₂, rfl, h₁, h₂⟩ := ih _ hrest
        exact ⟨_ :: t₁, a, t₂, rfl, .invoke ends h₁, h₂⟩
    | resolve peer next ih =>
      cases h with
      | resolve hrest =>
        obtain ⟨t₁, a, t₂, rfl, h₁, h₂⟩ := ih _ hrest
        exact ⟨_ :: t₁, a, t₂, rfl, .resolve h₁, h₂⟩
    | listRecords next ih =>
      cases h with
      | listRecords hrest =>
        obtain ⟨t₁, a, t₂, rfl, h₁, h₂⟩ := ih _ hrest
        exact ⟨_ :: t₁, a, t₂, rfl, .listRecords h₁, h₂⟩
    | storeRecord record next ih =>
      cases h with
      | storeRecord hrest =>
        obtain ⟨t₁, a, t₂, rfl, h₁, h₂⟩ := ih _ hrest
        exact ⟨_ :: t₁, a, t₂, rfl, .storeRecord h₁, h₂⟩
    | enqueue envelope next ih =>
      cases h with
      | enqueue hrest =>
        obtain ⟨t₁, a, t₂, rfl, h₁, h₂⟩ := ih hrest
        exact ⟨_ :: t₁, a, t₂, rfl, .enqueue h₁, h₂⟩
    | report notice next ih =>
      cases h with
      | report hrest =>
        obtain ⟨t₁, a, t₂, rfl, h₁, h₂⟩ := ih hrest
        exact ⟨_ :: t₁, a, t₂, rfl, .report h₁, h₂⟩
    | touch next ih =>
      cases h with
      | touch hrest =>
        obtain ⟨t₁, a, t₂, rfl, h₁, h₂⟩ := ih hrest
        exact ⟨_ :: t₁, a, t₂, rfl, .touch h₁, h₂⟩
  · rintro ⟨t₁, a, t₂, rfl, h₁, h₂⟩
    change Runs policy (p.bind f) _ b
    induction h₁ with
    | done a => exact h₂
    | invoke ends _ ih => exact .invoke ends (ih h₂)
    | resolve _ ih => exact .resolve (ih h₂)
    | listRecords _ ih => exact .listRecords (ih h₂)
    | storeRecord _ ih => exact .storeRecord (ih h₂)
    | enqueue _ ih => exact .enqueue (ih h₂)
    | report _ ih => exact .report (ih h₂)
    | touch _ ih => exact .touch (ih h₂)

/-! ## Runs of single steps -/

theorem runs_invokeAs_iff {request : Request} {convert : Response → Except InvocationError α}
    {t : Trace} {r : Except InvocationError α} :
    Runs policy (invokeAs request convert) t r ↔
      ∃ attempts reply, Invocation.Ends policy { request } attempts reply ∧
        t = [.invoked request attempts reply] ∧ r = reply.bind convert := by
  constructor
  · intro h
    cases h with
    | invoke ends hrest =>
      cases hrest
      exact ⟨_, _, ends, rfl, rfl⟩
  · rintro ⟨attempts, reply, ends, rfl, rfl⟩
    exact .invoke ends (.done _)

theorem runs_resolvePeer_iff {peer : Int64} {t : Trace} {r : Except InvocationError InputPeer} :
    Runs policy (resolvePeer peer) t r ↔ t = [.resolved peer r] := by
  constructor
  · intro h
    cases h with
    | resolve hrest => cases hrest; rfl
  · rintro rfl
    exact .resolve (.done r)

theorem runs_records_iff {t : Trace} {r : Except IoError (List StateRecord)} :
    Runs policy records t r ↔ t = [.listed r] := by
  constructor
  · intro h
    cases h with
    | listRecords hrest => cases hrest; rfl
  · rintro rfl
    exact .listRecords (.done r)

theorem runs_store_iff {record : StateRecord} {t : Trace} {r : Except IoError Unit} :
    Runs policy (store record) t r ↔ t = [.stored record r] := by
  constructor
  · intro h
    cases h with
    | storeRecord hrest => cases hrest; rfl
  · rintro rfl
    exact .storeRecord (.done r)

theorem runs_notify_iff {notice : Notice} {t : Trace} {u : Unit} :
    Runs policy (notify notice) t u ↔ t = .ofNotices [notice] := by
  constructor
  · intro h
    cases h with
    | report hrest => cases hrest; rfl
  · rintro rfl
    exact .report (.done ())

theorem runs_enqueueAll_iff {es : List Envelope} {t : Trace} {u : Unit} :
    Runs policy (enqueueAll es) t u ↔ t = .ofEnvelopes es := by
  induction es generalizing t with
  | nil =>
    constructor
    · intro h
      cases h
      rfl
    · rintro rfl
      exact .done ()
  | cons e rest ih =>
    constructor
    · intro h
      cases h with
      | enqueue hrest => rw [ih.1 hrest]; rfl
    · rintro rfl
      exact .enqueue (ih.2 rfl)

end Program

/-! ## Surroundings -/

/-- What answers a program: a server whose every invocation returns, and a store that
fails as it likes and otherwise keeps what it was given. -/
structure Surroundings (policy : RetryPolicy) where
  invoke : Program.Trace → (request : Request) → Invocation.Course policy request
  resolve : Program.Trace → Int64 → Except InvocationError InputPeer
  /-- The records stored at the beginning. -/
  records : Records := ∅
  listFault : Program.Trace → Option IoError := fun _ => none
  writeFault : Program.Trace → StateRecord → Option IoError := fun _ _ => none

namespace Surroundings

variable {α : Type} {policy : RetryPolicy}

/-- The answer to a listing of the store. -/
def listing (w : Surroundings policy) (past : Program.Trace) : Except IoError (List StateRecord) :=
  match w.listFault past with
  | some e => .error e
  | none => .ok (past.applyTo w.records).values

/-- The answer to a write. -/
def writing (w : Surroundings policy) (past : Program.Trace) (record : StateRecord) :
    Except IoError Unit :=
  match w.writeFault past record with
  | some e => .error e
  | none => .ok ()

/-- Goes on from one more step. -/
def andThen (past : Program.Trace) (e : Program.Event) (rest : Program.Trace → Program.Trace × α) :
    Program.Trace × α :=
  let (later, a) := rest (past ++ [e])
  (e :: later, a)

/-- What a program does here after all that is past, and what it comes to. -/
def run (w : Surroundings policy) : Program α → Program.Trace → Program.Trace × α
  | .done a, _ => ([], a)
  | .invoke request next, past =>
    let course := w.invoke past request
    andThen past (.invoked request course.attempts course.reply) (w.run (next course.reply))
  | .resolve peer next, past =>
    let answer := w.resolve past peer
    andThen past (.resolved peer answer) (w.run (next answer))
  | .listRecords next, past =>
    let answer := w.listing past
    andThen past (.listed answer) (w.run (next answer))
  | .storeRecord record next, past =>
    let answer := w.writing past record
    andThen past (.stored record answer) (w.run (next answer))
  | .enqueue envelope next, past => andThen past (.enqueued envelope) (w.run next)
  | .report notice next, past => andThen past (.reported notice) (w.run next)
  | .touch next, past => andThen past .touched (w.run next)

/-- Among surroundings a program always comes to its end, and by a run. -/
theorem runs_run (w : Surroundings policy) (p : Program α) (past : Program.Trace) :
    p.Runs policy (w.run p past).1 (w.run p past).2 := by
  induction p generalizing past with
  | done a => exact .done a
  | invoke request next ih => exact .invoke (w.invoke past request).ends (ih _ _)
  | resolve peer next ih => exact .resolve (ih _ _)
  | listRecords next ih => exact .listRecords (ih _ _)
  | storeRecord record next ih => exact .storeRecord (ih _ _)
  | enqueue envelope next ih => exact .enqueue (ih _)
  | report notice next ih => exact .report (ih _)
  | touch next ih => exact .touch (ih _)

/-- Every difference that a program gets is an answer of its surroundings. -/
theorem invoke_of_mem_differences (w : Surroundings policy) {p : Program α} {past : Program.Trace}
    {d : DifferenceQuery × Except InvocationError Difference}
    (hd : d ∈ Program.Trace.differences (w.run p past).1) :
    ∃ earlier, d.2 = (w.invoke earlier (.getDifference d.1)).reply.bind Response.asDifference := by
  induction p generalizing past with
  | done a => cases hd
  | invoke request next ih =>
    cases request with
    | getDifference q =>
      rcases List.mem_cons.1 hd with rfl | hlater
      · exact ⟨past, rfl⟩
      · exact ih _ hlater
    | _ => exact ih _ hd
  | resolve peer next ih => exact ih _ hd
  | listRecords next ih => exact ih _ hd
  | storeRecord record next ih => exact ih _ hd
  | enqueue envelope next ih => exact ih hd
  | report notice next ih => exact ih hd
  | touch next ih => exact ih hd

/-- The same surroundings, but with these records stored at the beginning, each put over those
before it. -/
def holding (w : Surroundings policy) (records : List StateRecord) : Surroundings policy :=
  { w with records := .ofList records }

/-- Nobody answers; the store works. -/
def unanswering : Surroundings RetryPolicy.never where
  invoke _ _ := .failed .dropped
  resolve _ _ := .error .dropped

end Surroundings

end UpdatePipeline
