import UpdatePipeline.Retry
import UpdatePipeline.Schema.Request
set_option autoImplicit false

/-!
# Invocations

An invocation sends one request until an attempt succeeds or the retry policy gives
up.  It is a small machine: an attempt's result takes it either to its own result or
to a wait before the next attempt.
-/

namespace UpdatePipeline

open Schema (Request Response)

/-- The result of one attempt, or of a whole invocation. -/
abbrev Reply := Except InvocationError Response

/-- An invocation under way. -/
structure Invocation where
  request : Request
  /-- One more than the attempts that failed; counting stops at `maxFailCount`. -/
  failCount : Nat := 1
  /-- The sum of the waits so far. -/
  waited : Duration := 0
  deriving DecidableEq, Repr

namespace Invocation

/-- The highest count of failures that a policy is told. -/
def maxFailCount : Nat := UInt32.size - 1

/-- How an invocation goes on after an attempt. -/
inductive Next where
  | finished (result : Reply)
  /-- Another attempt follows after a wait. -/
  | retry (delay : Duration) (notice : Option Notice) (next : Invocation)

/-- The failed attempt as the policy sees it. -/
def failedAttempt (i : Invocation) (e : InvocationError) : FailedAttempt :=
  ⟨i.failCount, i.waited, e⟩

/-- The invocation after one more failure and a wait. -/
def afterFailure (i : Invocation) (delay : Duration) : Invocation :=
  { i with failCount := min (i.failCount + 1) maxFailCount, waited := i.waited + delay }

/-- What the result of an attempt leads to. -/
def onReply (policy : RetryPolicy) (i : Invocation) : Reply → Next
  | .ok response => .finished (.ok response)
  | .error e =>
    match policy (i.failedAttempt e) with
    | .giveUp => .finished (.error e)
    | .retryAfter delay notice => .retry delay notice (i.afterFailure delay)

end Invocation

end UpdatePipeline
