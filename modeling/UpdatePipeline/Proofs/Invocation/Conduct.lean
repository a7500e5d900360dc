import UpdatePipeline.Simulation.Script
set_option autoImplicit false

/-!
# How an invocation is conducted

All attempts of an invocation but the last failed, and after each of these failures the policy
granted a wait: asked about that very error, about how many attempts had failed, counting no
further than the limit, and about the sum of the waits granted before
(`Invocation.Conduct`).  An attempt is sent when the wait before it is over.  The last attempt
succeeded, or the policy gave up (`Invocation.Concludes`).
-/

namespace UpdatePipeline

open Schema (Request Response)

/-- It holds of each element of a list together with those before it. -/
def AllInTurn {α : Type} (P : List α → α → Prop) (l : List α) : Prop :=
  ∀ before a behind, l = before ++ a :: behind → P before a

section AllInTurn

variable {α : Type} {P : List α → α → Prop} {l : List α} {a : α}

theorem allInTurn_nil : AllInTurn P [] := by
  intro before a behind h
  simp at h

theorem allInTurn_concat : AllInTurn P (l ++ [a]) ↔ AllInTurn P l ∧ P l a := by
  constructor
  · intro h
    refine ⟨?_, h l a [] rfl⟩
    rintro before b behind rfl
    exact h before b (behind ++ [a]) (by simp)
  · rintro ⟨hearlier, hlast⟩ before b behind hsplit
    rcases List.eq_nil_or_concat behind with rfl | ⟨rest, c, rfl⟩
    · obtain ⟨rfl, hsame⟩ := List.append_inj' hsplit rfl
      obtain rfl := List.singleton_inj.1 hsame
      exact hlast
    · have hregrouped : l ++ [a] = (before ++ b :: rest) ++ [c] := by simpa using hsplit
      exact hearlier before b rest (List.append_inj' hregrouped rfl).1

theorem AllInTurn.imp {Q : List α → α → Prop} (h : AllInTurn P l)
    (hPQ : ∀ before a, P before a → Q before a) : AllInTurn Q l :=
  fun before a behind hsplit => hPQ before a (h before a behind hsplit)

theorem allInTurn_map {β : Type} {f : α → β} {Q : List β → β → Prop} :
    AllInTurn Q (l.map f) ↔ AllInTurn (fun before a => Q (before.map f) (f a)) l := by
  constructor
  · rintro h before a behind rfl
    exact h (before.map f) (f a) (behind.map f) (by simp)
  · intro h before b behind hsplit
    obtain ⟨before, rest, rfl, rfl, hrest⟩ := List.map_eq_append_iff.1 hsplit
    obtain ⟨a, behind, rfl, rfl, -⟩ := List.map_eq_cons_iff.1 hrest
    exact h before a behind rfl

end AllInTurn

namespace Invocation

/-! ## Attempts -/

/-- An attempt, and the answer that is then on its way. -/
structure Attempt where
  instant : Instant
  answer : ScriptedReply

namespace Attempt

/-- The reply that the answer brings. -/
def reply (a : Attempt) : Reply := a.answer.reply

/-- When the reply is there. -/
def arrival (a : Attempt) : Instant := a.instant + a.answer.delay

end Attempt

/-- An attempt that failed, and the wait after which another one followed. -/
structure Failure where
  instant : Instant
  error : InvocationError
  /-- How long the reply was on its way. -/
  travel : Duration
  wait : Duration
  notice : Option Notice

/-- The attempt that failed. -/
def Failure.attempt (f : Failure) : Attempt where
  instant := f.instant
  answer := { reply := .error f.error, delay := f.travel }

/-- The sum of the waits. -/
def waits (failures : List Failure) : Duration := failures.foldl (fun sum f => sum + f.wait) 0

/-- How long the failures and the waits have taken. -/
def span (failures : List Failure) : Duration :=
  failures.foldl (fun sum f => sum + (f.travel + f.wait)) 0

/-- What the policy is asked when an attempt fails after these. -/
def question (failures : List Failure) (e : InvocationError) : FailedAttempt :=
  ⟨min (failures.length + 1) maxFailCount, waits failures, e⟩

/-- The invocation that goes on after these failures. -/
def afterFailures (request : Request) (failures : List Failure) : Invocation where
  request
  failCount := min (failures.length + 1) maxFailCount
  waited := waits failures

section Failures

variable (request : Request) (failures : List Failure) (f : Failure)

theorem waits_concat : waits (failures ++ [f]) = waits failures + f.wait := by
  unfold waits
  rw [List.foldl_append]
  rfl

theorem span_concat : span (failures ++ [f]) = span failures + (f.travel + f.wait) := by
  unfold span
  rw [List.foldl_append]
  rfl

/-- The next attempt is due when the reply has come and the wait is over. -/
theorem add_span_concat {failures : List Failure} {f : Failure} {begun : Instant}
    (h : f.instant = begun + span failures) :
    begun + span (failures ++ [f]) = f.attempt.arrival + f.wait := by
  rw [span_concat]
  show _ = f.instant + f.travel + f.wait
  rw [h]
  simp only [Nat.add_assoc]

theorem failedAttempt_afterFailures (e : InvocationError) :
    (afterFailures request failures).failedAttempt e = question failures e := rfl

theorem afterFailure_afterFailures :
    (afterFailures request failures).afterFailure f.wait =
      afterFailures request (failures ++ [f]) := by
  have hcount : min (min (failures.length + 1) maxFailCount + 1) maxFailCount =
      min ((failures ++ [f]).length + 1) maxFailCount := by
    rw [List.length_append, List.length_singleton]
    omega
  unfold afterFailure afterFailures
  rw [hcount, waits_concat]

end Failures

/-! ## What the policy decides -/

/-- After each failure the policy granted the wait, and each attempt was sent at the end of the
wait before it. -/
structure Conduct (policy : RetryPolicy) (begun : Instant) (failures : List Failure) : Prop where
  granted : AllInTurn
    (fun earlier f => policy (question earlier f.error) = .retryAfter f.wait f.notice) failures
  sentAt : AllInTurn (fun earlier f => f.instant = begun + span earlier) failures

/-- The last attempt ends the invocation: a response is converted, and an error after which the
policy gives up is the result. -/
def Concludes {α : Type} (policy : RetryPolicy) (convert : Response → Except InvocationError α)
    (failures : List Failure) (reply : Reply) (result : Except InvocationError α) : Prop :=
  match reply with
  | .ok response => result = convert response
  | .error e => policy (question failures e) = .giveUp ∧ result = .error e

variable {policy : RetryPolicy} {begun : Instant} {request : Request} {failures : List Failure}
  {reply : Reply}

theorem Conduct.nil : Conduct policy begun [] := ⟨allInTurn_nil, allInTurn_nil⟩

theorem Conduct.concat (h : Conduct policy begun failures) {f : Failure}
    (hgranted : policy (question failures f.error) = .retryAfter f.wait f.notice)
    (hsentAt : f.instant = begun + span failures) : Conduct policy begun (failures ++ [f]) :=
  ⟨allInTurn_concat.2 ⟨h.granted, hgranted⟩, allInTurn_concat.2 ⟨h.sentAt, hsentAt⟩⟩

theorem Concludes.bind {α : Type} {convert : Response → Except InvocationError α} {result : Reply}
    (h : Concludes policy .ok failures reply result) :
    Concludes policy convert failures reply (result.bind convert) := by
  cases reply with
  | ok response =>
    obtain rfl : result = .ok response := h
    rfl
  | error e =>
    obtain ⟨hgaveUp, rfl⟩ := h
    exact ⟨hgaveUp, rfl⟩

theorem onReply_error (i : Invocation) (e : InvocationError) :
    i.onReply policy (.error e) =
      match policy (i.failedAttempt e) with
      | .giveUp => .finished (.error e)
      | .retryAfter delay notice => .retry delay notice (i.afterFailure delay) := rfl

/-- Where the invocation is finished, the attempt ended it. -/
theorem concludes_of_onReply {result : Reply}
    (h : (afterFailures request failures).onReply policy reply = .finished result) :
    Concludes policy .ok failures reply result := by
  cases reply with
  | ok response => exact (Next.finished.inj h).symm
  | error e =>
    rw [onReply_error, failedAttempt_afterFailures] at h
    cases hverdict : policy (question failures e) with
    | giveUp =>
      rw [hverdict] at h
      exact ⟨hverdict, (Next.finished.inj h).symm⟩
    | retryAfter delay notice =>
      rw [hverdict] at h
      cases h

/-- Where another attempt follows, the policy granted it, and it is one failure more. -/
theorem granted_of_onReply {a : Attempt} {delay : Duration} {notice : Option Notice}
    {next : Invocation}
    (h : (afterFailures request failures).onReply policy a.reply = .retry delay notice next) :
    ∃ f : Failure, f.attempt = a ∧ f.wait = delay ∧
      policy (question failures f.error) = .retryAfter f.wait f.notice ∧
      next = afterFailures request (failures ++ [f]) := by
  obtain ⟨instant, reply, travel⟩ := a
  cases reply with
  | ok response => cases h
  | error e =>
    let f : Failure := ⟨instant, e, travel, delay, notice⟩
    have hcase : (match policy (question failures e) with
      | .giveUp => .finished (.error e)
      | .retryAfter delay notice =>
        .retry delay notice ((afterFailures request failures).afterFailure delay)) =
      Next.retry delay notice next := h
    cases hverdict : policy (question failures e) with
    | giveUp =>
      rw [hverdict] at hcase
      cases hcase
    | retryAfter delay' notice' =>
      rw [hverdict] at hcase
      obtain ⟨rfl, rfl, rfl⟩ := Next.retry.inj hcase
      exact ⟨f, rfl, rfl, hverdict, afterFailure_afterFailures request failures f⟩

end Invocation

end UpdatePipeline
