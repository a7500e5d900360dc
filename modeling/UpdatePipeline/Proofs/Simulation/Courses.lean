import UpdatePipeline.Proofs.Program.Run
import UpdatePipeline.Proofs.Simulation.Traces
set_option autoImplicit false

/-!
# Programs of a simulation run to their end

An invocation may take no more attempts than the script has replies left and a policy can
count.  A policy that gives up where nobody answers (`RetryPolicy.EndsInSilence`) never comes
to that limit (`Simulation.ends_attempt`).  What a simulation carries out is then a run of the
program, by the account that is kept of it (`Simulation.runs_trace`).
-/

namespace UpdatePipeline

open Schema (Request)

/-- Where nobody answers no other attempt follows. -/
def RetryPolicy.EndsInSilence (policy : RetryPolicy) : Prop :=
  ∀ attempt : FailedAttempt, attempt.error = .dropped → policy attempt = .giveUp

theorem RetryPolicy.EndsInSilence.onReply {policy : RetryPolicy} (h : policy.EndsInSilence)
    (i : Invocation) : i.onReply policy Script.silence.reply = .finished (.error .dropped) := by
  show i.onReply policy (.error .dropped) = _
  unfold Invocation.onReply
  simp only [h (i.failedAttempt .dropped) rfl]

theorem RetryPolicy.endsInSilence_autoSleep (p : Patience) : (autoSleep p).EndsInSilence := by
  rintro ⟨failCount, waited, error⟩ rfl
  rfl

/-- An attempt takes one of the replies left, unless nobody answers. -/
theorem Script.next_cases (s : Script) (request : Request) :
    ((s.next request).1 = silence ∧ (s.next request).2 = s) ∨
      (s.next request).2.replies.length < s.replies.length := by
  unfold next
  dsimp only
  split
  · rename_i r hfound
    refine .inr ?_
    have htaken := List.find?_some hfound
    have hmem := List.mem_of_find?_eq_some hfound
    dsimp only
    rw [List.length_eraseP_of_mem hmem htaken]
    exact Nat.sub_one_lt (Nat.ne_of_gt (List.length_pos_of_mem hmem))
  · exact .inl ⟨rfl, rfl⟩

namespace Simulation

variable {α : Type} {policy : RetryPolicy} {count : Nat} {s : Simulation}

/-! ## The replies left -/

/-- The client follows this policy, and there are at most so many replies left. -/
structure Supplied (policy : RetryPolicy) (count : Nat) (s : Simulation) : Prop where
  retry : s.config.retry = policy
  replies : s.script.replies.length ≤ count

theorem Supplied.congr {t : Simulation} (h : Supplied policy count s)
    (ht : t.config = s.config ∧ t.script = s.script) : Supplied policy count t := by
  obtain ⟨hconfig, hscript⟩ := ht
  exact ⟨hconfig ▸ h.retry, hscript ▸ h.replies⟩

theorem Supplied.send (h : Supplied policy count s) (request : Request) :
    Supplied policy count (exec (send request) s).2 := by
  refine ⟨h.retry, ?_⟩
  show (s.script.next request).2.replies.length ≤ count
  rcases s.script.next_cases request with ⟨-, hsame⟩ | hless
  · rw [hsame]
    exact h.replies
  · exact Nat.le_trans (Nat.le_of_lt hless) h.replies

theorem probing_supplied : Probing (fun _ => True) (Same (Supplied policy count)) :=
  .of_kept trivial (fun _ _ hs => hs.congr ⟨rfl, rfl⟩) (fun request _ _ hs => hs.send request)
    fun _ _ _ _ hs => hs.congr ⟨rfl, rfl⟩

/-- While time passes the replies do not become more. -/
theorem asking_supplied : Asking (fun _ => True) (Same (Supplied policy count)) where
  clock := probing_supplied.clock
  watchdog _ _ hst := hst.congr Simulation.watchdog
  moveClock _ := respects_same_iff.2 fun _ hs => hs.congr ⟨rfl, rfl⟩
  runUntil _ := respects_same_iff.2 fun _ hs => hs.congr ⟨rfl, rfl⟩
  wake _ _ _ _ _ := probing_supplied.wakeWatchdog fun _ _ => trivial
  drain := respects_same_iff.2 fun _ hs => hs.congr ⟨rfl, rfl⟩
  retry := probing_supplied.retry
  script := probing_supplied.script
  report := probing_supplied.report
  send := probing_supplied.send

/-! ## Invocations -/

theorem exec_attempt_succ (left : Nat) (i : Invocation) (s : Simulation) :
    exec (attempt (left + 1) i) s =
      let answer := (exec (send i.request) s).1
      let arrived := (exec (waitFor answer.delay) (exec (send i.request) s).2).2
      match i.onReply arrived.config.retry answer.reply with
      | .finished result => (result, arrived)
      | .retry delay notice next =>
        exec (attempt left next)
          (exec (waitFor delay) (exec (notice.forM report) arrived).2).2 := by
  rw [attempt, exec_bind, exec_bind, exec_bind, exec_get]
  dsimp only
  generalize i.onReply _ _ = outcome
  cases outcome with
  | finished result => rfl
  | retry delay notice next => rfl

/-- With more attempts than there are replies left an invocation comes to its end by the
policy, and not because the attempts run out. -/
theorem ends_attempt (hsilence : policy.EndsInSilence) {left : Nat} (hleft : count < left)
    (i : Invocation) (h : Supplied policy count s) :
    Invocation.Ends policy i (attempts left i s) (exec (attempt left i) s).1 := by
  -- each attempt but the last takes a reply
  induction left generalizing count i s with
  | zero => exact absurd hleft (Nat.not_lt_zero count)
  | succ left ih =>
    have harrived : ∀ {n : Nat}, Supplied policy n (exec (send i.request) s).2 →
        Supplied policy n (exec (waitFor (exec (send i.request) s).1.delay)
          (exec (send i.request) s).2).2 :=
      fun hsent => respects_same_iff.1 (asking_supplied.waitFor _) _ hsent
    rw [attempts_succ, exec_attempt_succ]
    dsimp only
    rw [(harrived (h.send i.request)).retry]
    rcases s.script.next_cases i.request with ⟨hnobody, -⟩ | hless
    · have hanswer : (exec (send i.request) s).1 = Script.silence := hnobody
      have hgiveUp := hsilence.onReply i
      rw [hanswer, hgiveUp]
      exact .finished hgiveUp
    · cases hnext : i.onReply policy (exec (send i.request) s).1.reply with
      | finished result => exact .finished hnext
      | retry delay notice next =>
        have hsent : Supplied policy (s.script.replies.length - 1) (exec (send i.request) s).2 :=
          ⟨h.retry, Nat.le_sub_one_of_lt hless⟩
        have hreported := respects_same_iff.1 (respects_forM asking_supplied.report notice) _
          (harrived hsent)
        have hwaited := respects_same_iff.1 (asking_supplied.waitFor delay) _ hreported
        have hfewer : s.script.replies.length - 1 < left := by
          have hreplies := h.replies
          omega
        exact .retried hnext (ih hfewer next hwaited)

theorem exec_invoke (request : Request) (s : Simulation) :
    exec (invoke request) s = exec (attempt s.attemptLimit { request }) s := by
  rw [invoke, exec_bind, exec_get]

theorem ends_invoke (hsilence : policy.EndsInSilence) (hretry : s.config.retry = policy)
    (request : Request) :
    Invocation.Ends policy { request } (attempts s.attemptLimit { request } s)
      (exec (invoke request) s).1 := by
  have hlimit : s.script.replies.length < s.attemptLimit := by
    unfold attemptLimit
    omega
  rw [exec_invoke]
  exact ends_attempt hsilence hlimit { request } ⟨hretry, Nat.le_refl _⟩

/-! ## Programs -/

theorem retry_storeRecord (record : StateRecord) (s : Simulation) :
    (exec (storeRecord record) s).2.config.retry = s.config.retry := by
  unfold storeRecord
  rw [exec_modifyGet]
  dsimp only
  split
  · rfl
  · rfl

/-- What a simulation carries out is a run of the program. -/
theorem runs_trace (hsilence : policy.EndsInSilence) (p : Program α)
    (hretry : s.config.retry = policy) : p.Runs policy (trace p s) (exec (perform p) s).1 := by
  induction p generalizing s with
  | done result => exact .done result
  | invoke request next ih =>
    have hafter : Supplied policy s.script.replies.length (exec (invoke request) s).2 :=
      respects_same_iff.1 (asking_supplied.invoke trivial) s ⟨hretry, Nat.le_refl _⟩
    rw [exec_perform_invoke, trace_invoke]
    exact .invoke (ends_invoke hsilence hretry request) (ih _ hafter.retry)
  | resolve peer next ih =>
    rw [exec_perform_resolve, trace_resolve]
    exact .resolve (ih _ hretry)
  | listRecords next ih => exact .listRecords (ih _ hretry)
  | storeRecord record next ih =>
    rw [exec_perform_storeRecord, trace_storeRecord]
    exact .storeRecord (ih _ ((retry_storeRecord record s).trans hretry))
  | enqueue envelope next ih => exact .enqueue (ih hretry)
  | report notice next ih => exact .report (ih hretry)
  | touch next ih => exact .touch (ih hretry)

end Simulation

end UpdatePipeline
