import UpdatePipeline.Notice
set_option autoImplicit false

/-!
# Retry policies

A policy decides after each failed attempt of an invocation whether another one
follows, and after which wait.
-/

namespace UpdatePipeline

/-- What a policy is asked about. -/
structure FailedAttempt where
  /-- How many attempts have failed, this one included. -/
  failCount : Nat
  /-- The sum of the waits so far. -/
  waited : Duration
  error : InvocationError
  deriving DecidableEq, Repr

/-- What a policy answers. -/
inductive Verdict where
  | giveUp
  /-- Try again after a wait; the notice says why. -/
  | retryAfter (delay : Duration) (notice : Option Notice)
  deriving DecidableEq, Repr, Inhabited

/-- A policy. -/
abbrev RetryPolicy := FailedAttempt → Verdict

/-- The wait a verdict grants. -/
def Verdict.delay? : Verdict → Option Duration
  | .giveUp => none
  | .retryAfter delay _ => some delay

namespace RetryPolicy

/-- Never tries again. -/
def never : RetryPolicy := fun _ => .giveUp

/-- How long `autoSleep` waits. -/
structure Patience where
  /-- Longer flood waits are not waited for. -/
  threshold : Duration := Duration.ofSeconds 10
  /-- The wait after a failure of the network, if that is tried again at all. -/
  networkDelay : Option Duration := some (Duration.ofSeconds 1)
  deriving DecidableEq, Repr, Inhabited

/-- Waits as long as the server asks, up to a threshold in whole seconds, and once
after a failure of the network that is the invocation's first failure. -/
def autoSleep (p : Patience) : RetryPolicy := fun attempt =>
  let forFlood : Option Verdict := do
    let seconds ← attempt.error.floodWait?
    if seconds.toNat ≤ p.threshold / 1000 then
      some (.retryAfter (Duration.ofSeconds seconds.toNat) (some (.waitingForFlood seconds)))
    else none
  let forNetwork : Option Verdict :=
    match attempt.error, p.networkDelay with
    | .io _, some delay =>
      if attempt.failCount = 1 then some (.retryAfter delay (some (.waitingForNetwork delay))) else none
    | _, _ => none
  (forFlood.or forNetwork).getD .giveUp

/-- Tries again after a fixed wait while neither the failures nor the waits exceed
their limits. -/
def limited (maxFails : Nat) (maxWaited delay : Duration) : RetryPolicy := fun attempt =>
  if attempt.failCount ≤ maxFails ∧ attempt.waited < maxWaited then .retryAfter delay none
  else .giveUp

end RetryPolicy

end UpdatePipeline
