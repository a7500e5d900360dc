import UpdatePipeline.Proofs.Simulation.Invoking
set_option autoImplicit false

/-!
# Failures of the network

A policy with patience tries a failure of the network again if nothing has failed before in the
same invocation.  So a failure of the first attempt is followed by a wait and another attempt, and
any other is returned at once: a second one always, but also the first behind a flood wait that was
borne (`Simulation.network_failures_at_first`).
-/

namespace UpdatePipeline

open Invocation (Attempt Failure Conduct Concludes span question)
open Schema (Request Response)

/-- What becomes of failures of the network among the attempts of an invocation. -/
structure Invocation.NetworkFailures {α : Type} (delay : Duration) (attempts : List Attempt)
    (result : Except InvocationError α) : Prop where
  /-- When the first attempt fails so, another one is sent as soon as the wait is over. -/
  atFirst : ∀ a rest failure, attempts = a :: rest → a.reply = .error (.io failure) →
    ∃ next ∈ rest.head?, next.instant = a.arrival + delay
  /-- When a later one fails so, it is the last, and its error is the result. -/
  later : AllInTurn (fun earlier a => earlier ≠ [] → ∀ failure, a.reply = .error (.io failure) →
    attempts = earlier ++ [a] ∧ result = .error (.io failure)) attempts

namespace Simulation

variable {α : Type} {p : RetryPolicy.Patience} {begun : Instant} {delay : Duration}
  {convert : Response → Except InvocationError α} {failures : List Failure} {last : Attempt}
  {result : Except InvocationError α}

theorem exists_next_of_network (hconduct : Conduct (.autoSleep p) begun failures)
    (hsentAt : last.instant = begun + span failures)
    (hends : Concludes (.autoSleep p) convert failures last.reply result)
    (hdelay : p.networkDelay = some delay) {a : Attempt} {rest : List Attempt} {failure : IoError}
    (hmade : made failures last = a :: rest) (hfails : a.reply = .error (.io failure)) :
    ∃ next ∈ rest.head?, next.instant = a.arrival + delay := by
  cases failures with
  | nil =>
    -- the first attempt is the last, but the policy does not give up on it
    obtain ⟨rfl, -⟩ : last = a ∧ [] = rest := List.cons.inj hmade
    rw [hfails] at hends
    exact absurd hends.1 (Invocation.ne_giveUp_of_network ⟨failure, rfl⟩ hdelay)
  | cons f later =>
    obtain ⟨rfl, rfl⟩ : f.attempt = a ∧ made later last = rest := List.cons.inj hmade
    have hnetwork : f.error.IsOfNetwork := ⟨failure, Except.error.inj hfails⟩
    obtain ⟨-, hgranted⟩ := hconduct.network_first [] f later rfl hnetwork
    obtain rfl : delay = f.wait := Option.some.inj (hdelay.symm.trans hgranted)
    have hfirst : f.instant = begun + span [] := hconduct.sentAt [] f later rfl
    rw [← Invocation.add_span_concat hfirst]
    cases later with
    | nil => exact ⟨last, rfl, hsentAt⟩
    | cons f' later => exact ⟨f'.attempt, rfl, hconduct.sentAt [f] f' later rfl⟩

theorem returned_of_network (hconduct : Conduct (.autoSleep p) begun failures)
    (hends : Concludes (.autoSleep p) convert failures last.reply result) :
    AllInTurn (fun earlier a => earlier ≠ [] → ∀ failure, a.reply = .error (.io failure) →
      made failures last = earlier ++ [a] ∧ result = .error (.io failure))
      (made failures last) := by
  refine allInTurn_concat.2 ⟨?_, ?_⟩
  · -- of the attempts that another one followed only the first can have failed so
    refine allInTurn_map.2 (hconduct.network_first.imp fun earlier f hfirst hlater => ?_)
    intro failure hfails
    obtain ⟨rfl, -⟩ := hfirst ⟨failure, Except.error.inj hfails⟩
    exact absurd rfl hlater
  · intro _ failure hfails
    rw [hfails] at hends
    exact ⟨rfl, hends.2⟩

/-- An invocation under a policy with patience comes to its end, and a failure of the network is
tried again after the wait exactly if it is that of the first attempt.  Every other is returned at
once: the second of an invocation, and the first if anything failed before it. -/
theorem network_failures_at_first (p : RetryPolicy.Patience) (delay : Duration)
    (hdelay : p.networkDelay = some delay) (s : Simulation)
    (hretry : s.config.retry = RetryPolicy.autoSleep p) (request : Request)
    (convert : Response → Except InvocationError α) :
    ∃ failures last, Concluded request convert failures last s
        (exec (perform (Program.invokeAs request convert)) s).2
        (exec (perform (Program.invokeAs request convert)) s).1 ∧
      Invocation.NetworkFailures delay (made failures last)
        (exec (perform (Program.invokeAs request convert)) s).1 := by
  have hsilence : s.config.retry.EndsInSilence := by
    rw [hretry]
    exact RetryPolicy.endsInSilence_autoSleep p
  obtain ⟨failures, last, hconcluded⟩ := concluded_perform hsilence request convert
  have hconduct := hconcluded.conduct
  have hends := hconcluded.ends
  rw [hretry] at hconduct hends
  exact ⟨failures, last, hconcluded,
    fun _ _ _ => exists_next_of_network hconduct hconcluded.sentAt hends hdelay,
    returned_of_network hconduct hends⟩

/-- The server asks to wait for a second, then the connection breaks, then there is an answer. -/
def floodThenReset : Simulation :=
  ofConfig { retry := RetryPolicy.autoSleep {} }
    { replies := [
        { reply := .error (.rpc (.ofMessage 420 "FLOOD_WAIT_1")) },
        { reply := .error (.io { message := "reset" }) },
        { reply := .ok (.state { pts := 1, qts := 0, date := 0, seq := 0, unreadCount := 0 }) }],
      resolve := fun _ => .error .dropped }
    (Records.ofList [])

theorem network_failures_at_first_floodThenReset :
    ({} : RetryPolicy.Patience).networkDelay = some (Duration.ofSeconds 1) ∧
      floodThenReset.config.retry = RetryPolicy.autoSleep {} ∧
      ∃ failures last, Concluded .getState Response.asState failures last floodThenReset
          (exec (perform (Program.invokeAs .getState Response.asState)) floodThenReset).2
          (exec (perform (Program.invokeAs .getState Response.asState)) floodThenReset).1 ∧
        Invocation.NetworkFailures (Duration.ofSeconds 1) (made failures last)
          (exec (perform (Program.invokeAs .getState Response.asState)) floodThenReset).1 :=
  ⟨rfl, rfl, network_failures_at_first {} (Duration.ofSeconds 1) rfl floodThenReset rfl .getState
    Response.asState⟩

/-- The first failure of the network in an invocation, met behind a flood wait of one second, is
not followed by another attempt, though there would be an answer. -/
theorem network_failure_behind_flood_is_returned :
    floodThenReset.config.retry = RetryPolicy.autoSleep {} ∧
      ({} : RetryPolicy.Patience).networkDelay = some (Duration.ofSeconds 1) ∧
      ∃ t, exec (perform (Program.invokeAs .getState Response.asState)) floodThenReset =
          (.error (.io { message := "reset" }), t) ∧
        t.observations.reverse.filter Observation.isAttempt =
          [⟨0, .sent .getState (.error (.rpc ⟨420, "FLOOD_WAIT", some 1⟩))⟩,
            ⟨1000, .sent .getState (.error (.io { message := "reset" }))⟩] ∧
        t.script.replies.length = 1 := by
  have hreplies : floodThenReset.script.replies.length = 3 := rfl
  obtain ⟨left, hleft⟩ : ∃ left, floodThenReset.attemptLimit = left + 3 :=
    ⟨Invocation.maxFailCount + 1, by rw [attemptLimit, hreplies]; omega⟩
  refine ⟨rfl, rfl, ?_⟩
  rw [exec_perform_invokeAs_within, hleft]
  exact ⟨_, rfl, rfl, rfl⟩

end Simulation

end UpdatePipeline
