import UpdatePipeline.Proofs.Program.Trace
import UpdatePipeline.Proofs.Simulation.Respects
set_option autoImplicit false

/-!
# What programs do in a simulation

A simulation carries a program out and keeps no account of it.  `Simulation.trace` is that
account: each step with the answer that the simulation gives to it.  Where two simulations are
related as invocations respect it, an invocation comes to the same in both (`invoked_congr`).
-/

namespace UpdatePipeline

open Schema (Request)

namespace Simulation

variable {α : Type}

/-! ## The account -/

/-- The results of an invocation's attempts, at most `left` of them. -/
def attempts : Nat → Invocation → Simulation → List Reply
  | 0, _, _ => []
  | left + 1, i, s =>
    let answer := (exec (send i.request) s).1
    let arrived := (exec (waitFor answer.delay) (exec (send i.request) s).2).2
    answer.reply :: match i.onReply arrived.config.retry answer.reply with
      | .finished _ => []
      | .retry delay notice next =>
        attempts left next (exec (waitFor delay) (exec (notice.forM report) arrived).2).2

/-- A step of the account: what an invocation comes to here. -/
def invoked (request : Request) (s : Simulation) : Program.Event :=
  .invoked request (attempts s.attemptLimit { request } s) (exec (invoke request) s).1

/-- Everything that a program does, with the answers that it gets here. -/
def trace : Program α → Simulation → Program.Trace
  | .done _, _ => []
  | .invoke request next, s =>
    invoked request s ::
      trace (next (exec (invoke request) s).1) (exec (invoke request) s).2
  | .resolve peer next, s =>
    .resolved peer (s.script.resolve peer) :: trace (next (s.script.resolve peer)) s
  | .listRecords next, s =>
    .listed (exec listRecords s).1 ::
      trace (next (exec listRecords s).1) (exec listRecords s).2
  | .storeRecord record next, s =>
    .stored record (exec (storeRecord record) s).1 ::
      trace (next (exec (storeRecord record) s).1) (exec (storeRecord record) s).2
  | .enqueue envelope next, s =>
    .enqueued envelope :: trace next (exec (onDispatcher fun d => ((), d.enqueue envelope)) s).2
  | .report notice next, s => .reported notice :: trace next (exec (report notice) s).2
  | .touch next, s => .touched :: trace next { s with lastUpdate := s.clock.now }

/-! ## Its steps -/

section Steps

variable (s : Simulation)

theorem exec_perform_invoke (request : Request) (next : Reply → Program α) :
    exec (perform (.invoke request next)) s =
      exec (perform (next (exec (invoke request) s).1)) (exec (invoke request) s).2 := by
  rw [perform, exec_bind]

theorem trace_invoke (request : Request) (next : Reply → Program α) :
    trace (.invoke request next) s =
      invoked request s ::
        trace (next (exec (invoke request) s).1) (exec (invoke request) s).2 := by
  rw [trace]

theorem exec_perform_resolve (peer : Int64)
    (next : Except InvocationError Schema.InputPeer → Program α) :
    exec (perform (.resolve peer next)) s = exec (perform (next (s.script.resolve peer))) s := by
  rw [perform, exec_bind, exec_get]

theorem trace_resolve (peer : Int64) (next : Except InvocationError Schema.InputPeer → Program α) :
    trace (.resolve peer next) s =
      .resolved peer (s.script.resolve peer) :: trace (next (s.script.resolve peer)) s := by
  rw [trace]

theorem exec_perform_storeRecord (record : StateRecord)
    (next : Except IoError Unit → Program α) :
    exec (perform (.storeRecord record next)) s =
      exec (perform (next (exec (storeRecord record) s).1)) (exec (storeRecord record) s).2 := by
  rw [perform, exec_bind]

theorem trace_storeRecord (record : StateRecord) (next : Except IoError Unit → Program α) :
    trace (.storeRecord record next) s =
      .stored record (exec (storeRecord record) s).1 ::
        trace (next (exec (storeRecord record) s).1) (exec (storeRecord record) s).2 := by
  rw [trace]

end Steps

/-! ## Attempts side by side -/

theorem attempts_succ (left : Nat) (i : Invocation) (s : Simulation) :
    attempts (left + 1) i s =
      let answer := (exec (send i.request) s).1
      let arrived := (exec (waitFor answer.delay) (exec (send i.request) s).2).2
      answer.reply :: match i.onReply arrived.config.retry answer.reply with
        | .finished _ => []
        | .retry delay notice next =>
          attempts left next (exec (waitFor delay) (exec (notice.forM report) arrived).2).2 :=
  rfl

variable {Q : Request → Prop} {R : Simulation → Simulation → Prop} {s t : Simulation}

/-- In related simulations an invocation's attempts have the same results. -/
theorem attempts_congr (h : Asking Q R) (left : Nat) {i : Invocation} (hi : Q i.request)
    (hst : R s t) : attempts left i s = attempts left i t := by
  induction left generalizing i s t with
  | zero => rfl
  | succ left ih =>
    obtain ⟨hanswer, hsent⟩ := h.send i.request hi s t hst
    obtain ⟨-, harrived⟩ := h.waitFor (exec (send i.request) t).1.delay _ _ hsent
    rw [attempts_succ, attempts_succ]
    dsimp only
    rw [hanswer, h.retry _ _ harrived]
    congr 1
    split
    · rfl
    · rename_i delay notice next hnext
      obtain ⟨-, hreported⟩ := respects_forM h.report notice _ _ harrived
      obtain ⟨-, hwaited⟩ := h.waitFor delay _ _ hreported
      refine ih ?_ hwaited
      rw [Invocation.request_of_onReply hnext]
      exact hi

theorem invoked_congr (h : Asking Q R) {request : Request} (hrequest : Q request) (hst : R s t) :
    invoked request s = invoked request t := by
  have hlimit : s.attemptLimit = t.attemptLimit := by
    unfold attemptLimit
    rw [h.script s t hst]
  obtain ⟨hreply, -⟩ := h.invoke hrequest s t hst
  unfold invoked
  rw [hreply, hlimit, attempts_congr h _ (i := { request }) hrequest hst]

end Simulation

end UpdatePipeline
