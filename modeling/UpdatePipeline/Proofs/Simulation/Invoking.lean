import UpdatePipeline.Proofs.Invocation.Patience
import UpdatePipeline.Proofs.Simulation.Courses
import UpdatePipeline.Proofs.Simulation.Invariants
import UpdatePipeline.Proofs.Simulation.Timing
set_option autoImplicit false

/-!
# Invocations in time

An invocation in a simulation is conducted by the retry policy, attempt by attempt, and each wait
that the policy grants passes before the next attempt is sent
(`Simulation.invocation_follows_policy`).
-/

namespace UpdatePipeline

open Invocation (Attempt Failure Conduct Concludes afterFailures span question)
open Schema (Request Response)

/-- Whether an attempt was seen. -/
def Observation.isAttempt (o : Observation) : Bool :=
  match o.occurrence with
  | .sent _ _ => true
  | _ => false

/-- What is seen of an attempt with this request. -/
def Invocation.Attempt.observation (request : Request) (a : Attempt) : Observation :=
  ⟨a.instant, .sent request a.reply⟩

namespace Simulation

variable {s t u : Simulation}

/-! ## What is sent -/

/-- These attempts are seen in order from one state of a simulation to a later one, and without a
watchdog no others. -/
structure Sends (own : List Observation) (s t : Simulation) : Prop where
  seen : ∃ new, t.observations.reverse = s.observations.reverse ++ new ∧ own.Sublist new ∧
    (s.watchdog = none → new.filter Observation.isAttempt = own)
  unwatched : s.watchdog = none → t.watchdog = none

namespace Sends

theorem refl (s : Simulation) : Sends [] s s :=
  ⟨⟨[], (List.append_nil _).symm, .slnil, fun _ => rfl⟩, id⟩

theorem trans {own more : List Observation} (h : Sends own s t) (h' : Sends more t u) :
    Sends (own ++ more) s u := by
  obtain ⟨⟨new, hnew, hown, hall⟩, hunwatched⟩ := h
  obtain ⟨⟨new', hnew', hmore, hall'⟩, hunwatched'⟩ := h'
  refine ⟨⟨new ++ new', ?_, hown.append hmore, ?_⟩, fun hs => hunwatched' (hunwatched hs)⟩
  · rw [hnew', hnew, List.append_assoc]
  · intro hs
    rw [List.filter_append, hall hs, hall' (hunwatched hs)]

/-- Steps behind which nothing more was seen. -/
theorem of_observations_eq (hobservations : t.observations = s.observations)
    (hwatchdog : t.watchdog = s.watchdog) : Sends [] s t :=
  ⟨⟨[], by rw [hobservations, List.append_nil], .slnil, fun _ => rfl⟩,
    fun hs => hwatchdog.trans hs⟩

end Sends

theorem sends_observe (o : Occurrence) (s : Simulation) :
    Sends ([(⟨s.clock.now, o⟩ : Observation)].filter Observation.isAttempt) s
      (exec (observe o) s).2 :=
  ⟨⟨[⟨s.clock.now, o⟩], List.reverse_cons, List.filter_sublist, fun _ => rfl⟩, id⟩

theorem sends_report (notice : Option Notice) (s : Simulation) :
    Sends [] s (exec (notice.forM report) s).2 := by
  cases notice with
  | none => exact .refl s
  | some notice => exact sends_observe (.reported notice) s

/-- An attempt is seen at the instant at which it is sent. -/
theorem sends_send (request : Request) (s : Simulation) :
    Sends [Attempt.observation request ⟨s.clock.now, (exec (send request) s).1⟩] s
      (exec (send request) s).2 := by
  let taken : Simulation := { s with script := (s.script.next request).2 }
  have hseen := sends_observe (.sent request (s.script.next request).1.reply) taken
  exact (Sends.of_observations_eq rfl rfl : Sends [] s taken).trans hseen

theorem resident_true : Resident (fun _ => True) (fun _ => True) (fun _ => True) where
  kept := {
    take := fun _ _ => ⟨trivial, fun _ _ => trivial⟩
    resume := fun _ _ => ⟨trivial, fun _ _ => trivial⟩
    pass := fun _ _ => trivial }
  reported _ := trivial
  probing _ := ⟨fun _ => trivial, fun _ _ => trivial⟩

/-- Nothing is sent in the background without a watchdog. -/
theorem resident_unwatched : Resident (fun _ => True) (· = none)
    (fun o => ∀ instant, Observation.isAttempt ⟨instant, o⟩ = false) where
  kept := {
    take := fun _ _ => ⟨trivial, fun e _ _ => by cases e <;> rfl⟩
    resume := fun _ _ => ⟨trivial, fun e _ _ => by cases e <;> rfl⟩
    pass := fun _ _ => trivial }
  reported _ _ := rfl
  probing h := nomatch h

theorem sends_waitFor (delay : Duration) (s : Simulation) :
    Sends [] s (exec (waitFor delay) s).2 := by
  have hgrown := respects_same_iff.1 (resident_true.settling.waitFor delay) s
    ⟨trivial, trivial, .refl _ s⟩
  obtain ⟨new, hnew, -⟩ := hgrown.seen
  have hquiet : s.watchdog = none → (exec (waitFor delay) s).2.watchdog = none ∧
      new.reverse.filter Observation.isAttempt = [] := by
    intro hs
    have hkept := respects_same_iff.1 (resident_unwatched.settling.waitFor delay) s
      ⟨trivial, hs, .refl _ s⟩
    obtain ⟨new', hnew', hnone⟩ := hkept.seen
    obtain rfl : new = new' := List.append_cancel_right (hnew.symm.trans hnew')
    refine ⟨hkept.watchdog, ?_⟩
    rw [List.filter_eq_nil_iff]
    intro o ho
    rw [hnone o (List.mem_reverse.1 ho) o.instant]
    exact Bool.false_ne_true
  exact ⟨⟨new.reverse, by rw [hnew, List.reverse_append], List.nil_sublist _,
    fun hs => (hquiet hs).2⟩, fun hs => (hquiet hs).1⟩

/-! ## Attempts -/

/-- After these failures, since the invocation was begun, the next attempt is to be sent. -/
structure Trying (begun : Simulation) (request : Request) (failures : List Failure)
    (s : Simulation) : Prop where
  conduct : Conduct begun.config.retry begun.clock.now failures
  now : s.clock.now = begun.clock.now + span failures
  sends : Sends ((failures.map (·.attempt)).map (·.observation request)) begun s
  retry : s.config.retry = begun.config.retry
  /-- Each failure took one of the replies, unless nobody answered. -/
  answered : failures.length + s.script.replies.length ≤ begun.script.replies.length ∨
    ∃ f ∈ failures, f.error = .dropped

/-- The attempts of an invocation: those that failed, and the last. -/
def made (failures : List Failure) (last : Attempt) : List Attempt :=
  failures.map (·.attempt) ++ [last]

/-- An invocation made these attempts, all with its request, and the last of them ended it. -/
structure Concluded {α : Type} (request : Request) (convert : Response → Except InvocationError α)
    (failures : List Failure) (last : Attempt) (begun s : Simulation)
    (result : Except InvocationError α) : Prop where
  conduct : Conduct begun.config.retry begun.clock.now failures
  sentAt : last.instant = begun.clock.now + span failures
  sends : Sends ((made failures last).map (·.observation request)) begun s
  ends : Concludes begun.config.retry convert failures last.reply result
  now : s.clock.now = last.arrival

variable {begun : Simulation} {request : Request} {failures : List Failure}

theorem trying_nil (request : Request) (s : Simulation) : Trying s request [] s where
  conduct := .nil
  now := rfl
  sends := .refl s
  retry := rfl
  answered := .inl (Nat.le_of_eq (Nat.zero_add _))

/-- The attempt that is sent now. -/
def nextAttempt (request : Request) (s : Simulation) : Attempt :=
  ⟨s.clock.now, (exec (send request) s).1⟩

/-- The simulation when the reply to it is there. -/
def arrived (request : Request) (s : Simulation) : Simulation :=
  (exec (waitFor (nextAttempt request s).answer.delay) (exec (send request) s).2).2

theorem exec_attempt_afterFailures (left : Nat) (request : Request) (failures : List Failure)
    (s : Simulation) :
    exec (attempt (left + 1) (afterFailures request failures)) s =
      match (afterFailures request failures).onReply (arrived request s).config.retry
          (nextAttempt request s).reply with
      | .finished result => (result, arrived request s)
      | .retry delay notice next =>
        exec (attempt left next)
          (exec (waitFor delay) (exec (notice.forM report) (arrived request s)).2).2 :=
  exec_attempt_succ left _ s

theorem now_arrived (request : Request) (s : Simulation) :
    (arrived request s).clock.now = (nextAttempt request s).arrival := by
  unfold arrived
  rw [now_waitFor, now_send]
  rfl

theorem sends_arrived (request : Request) (s : Simulation) :
    Sends [(nextAttempt request s).observation request] s (arrived request s) :=
  (sends_send request s).trans (sends_waitFor _ _)

theorem supplied_arrived {policy : RetryPolicy} {count : Nat} {s : Simulation}
    (h : Supplied policy count (exec (send request) s).2) :
    Supplied policy count (arrived request s) :=
  respects_same_iff.1 (asking_supplied.waitFor _) _ h

/-- The reply to an attempt is there, and the policy gives up or has nothing to decide. -/
theorem Trying.concluded (h : Trying begun request failures s) {result : Reply}
    (hfinished : (afterFailures request failures).onReply (arrived request s).config.retry
      (nextAttempt request s).reply = .finished result) :
    Concluded request .ok failures (nextAttempt request s) begun (arrived request s) result where
  conduct := h.conduct
  sentAt := h.now
  sends := by
    rw [made, List.map_append]
    exact h.sends.trans (sends_arrived request s)
  ends := by
    have hsent : Supplied begun.config.retry s.script.replies.length (exec (send request) s).2 :=
      Supplied.send ⟨h.retry, Nat.le_refl _⟩ request
    rw [(supplied_arrived hsent).retry] at hfinished
    exact Invocation.concludes_of_onReply hfinished
  now := now_arrived request s

theorem supplied_waited {policy : RetryPolicy} {count : Nat} {s : Simulation}
    (h : Supplied policy count (exec (send request) s).2) (notice : Option Notice)
    (delay : Duration) :
    Supplied policy count
      (exec (waitFor delay) (exec (notice.forM report) (arrived request s)).2).2 := by
  have hreported := respects_same_iff.1 (respects_forM asking_supplied.report notice) _
    (supplied_arrived h)
  exact respects_same_iff.1 (asking_supplied.waitFor delay) _ hreported

/-- An attempt that failed has taken a reply, unless nobody answered. -/
theorem Trying.answered_next (h : Trying begun request failures s) {f : Failure}
    (hattempt : f.attempt = nextAttempt request s) (notice : Option Notice) (delay : Duration) :
    (failures ++ [f]).length +
        (exec (waitFor delay) (exec (notice.forM report) (arrived request s)).2).2.script.replies.length ≤
      begun.script.replies.length ∨
    ∃ f' ∈ failures ++ [f], f'.error = .dropped := by
  rw [List.length_append, List.length_singleton]
  rcases s.script.next_cases request with ⟨hnobody, -⟩ | hless
  · right
    have hsilence : (.error f.error : Reply) = .error .dropped := by
      show f.attempt.reply = _
      rw [hattempt]
      exact congrArg ScriptedReply.reply hnobody
    exact ⟨f, by simp, Except.error.inj hsilence⟩
  · rcases h.answered with hanswered | ⟨f', hf', hdropped⟩
    · left
      have htaken : Supplied begun.config.retry (s.script.replies.length - 1)
          (exec (send request) s).2 := ⟨h.retry, Nat.le_sub_one_of_lt hless⟩
      have hreplies := (supplied_waited htaken notice delay).replies
      omega
    · exact .inr ⟨f', List.mem_append_left _ hf', hdropped⟩

/-- The reply to an attempt is there, and the policy grants another one. -/
theorem Trying.next (h : Trying begun request failures s) {delay : Duration}
    {notice : Option Notice} {next : Invocation}
    (hretry : (afterFailures request failures).onReply (arrived request s).config.retry
      (nextAttempt request s).reply = .retry delay notice next) :
    ∃ f, next = afterFailures request (failures ++ [f]) ∧
      Trying begun request (failures ++ [f])
        (exec (waitFor delay) (exec (notice.forM report) (arrived request s)).2).2 := by
  have hsent : Supplied begun.config.retry s.script.replies.length (exec (send request) s).2 :=
    Supplied.send ⟨h.retry, Nat.le_refl _⟩ request
  rw [(supplied_arrived hsent).retry] at hretry
  obtain ⟨f, hattempt, rfl, hgranted, rfl⟩ := Invocation.granted_of_onReply hretry
  have hinstant : f.instant = begun.clock.now + span failures :=
    (congrArg Attempt.instant hattempt).trans h.now
  refine ⟨f, rfl, ?_⟩
  constructor
  case conduct => exact h.conduct.concat hgranted hinstant
  case now =>
    rw [now_waitFor, now_reportAll, now_arrived, ← hattempt, Invocation.add_span_concat hinstant]
  case sends =>
    rw [List.map_append, List.map_append, List.map_singleton, List.map_singleton, hattempt]
    have hlater := ((sends_arrived request s).trans (sends_report notice _)).trans
      (sends_waitFor f.wait _)
    rw [List.append_nil, List.append_nil] at hlater
    exact h.sends.trans hlater
  case retry => exact (supplied_waited hsent notice f.wait).retry
  case answered => exact h.answered_next hattempt notice f.wait

/-- Whatever is allowed, either the last attempt ends the invocation, and then more would not have
been used, or it is not over when there are no more. -/
theorem Trying.attempt (h : Trying begun request failures s) (left : Nat) :
    (∃ all last, all.length < failures.length + left ∧
      Concluded request .ok all last begun
        (exec (attempt left (afterFailures request failures)) s).2
        (exec (attempt left (afterFailures request failures)) s).1 ∧
      ∀ extra, exec (attempt (left + extra) (afterFailures request failures)) s =
        exec (attempt left (afterFailures request failures)) s) ∨
    (∃ all, all.length = failures.length + left ∧
      Trying begun request all (exec (attempt left (afterFailures request failures)) s).2 ∧
      (exec (attempt left (afterFailures request failures)) s).1 = .error .dropped) := by
  induction left generalizing failures s with
  | zero => exact .inr ⟨failures, rfl, h, rfl⟩
  | succ left ih =>
    have hextra : ∀ extra, left + 1 + extra = left + extra + 1 := fun extra => by omega
    simp only [hextra, exec_attempt_afterFailures]
    cases hnext : (afterFailures request failures).onReply _ _ with
    | finished result =>
      refine .inl ⟨failures, nextAttempt request s, ?_, h.concluded hnext, fun _ => rfl⟩
      omega
    | retry delay notice next =>
      obtain ⟨f, rfl, htrying⟩ := h.next hnext
      have hlength : (failures ++ [f]).length + left = failures.length + (left + 1) := by
        rw [List.length_append, List.length_singleton]
        omega
      rw [← hlength]
      exact ih htrying

/-! ## Whole invocations -/

theorem Concluded.bind {α : Type} {convert : Response → Except InvocationError α} {last : Attempt}
    {invoked : Reply × Simulation}
    (h : Concluded request .ok failures last begun invoked.2 invoked.1)
    {read : Except InvocationError α × Simulation}
    (hread : read = (invoked.1.bind convert, invoked.2)) :
    Concluded request convert failures last begun read.2 read.1 := by
  subst hread
  exact { h with ends := h.ends.bind }

/-- If the policy gives up where nobody answers, an invocation comes to its end. -/
theorem concluded_invoke (hsilence : s.config.retry.EndsInSilence) (request : Request) :
    ∃ failures last, Concluded request .ok failures last s (exec (invoke request) s).2
      (exec (invoke request) s).1 := by
  rw [exec_invoke]
  rcases (trying_nil request s).attempt s.attemptLimit with
    ⟨failures, last, -, hconcluded, -⟩ | ⟨failures, hlength, htrying, -⟩
  · exact ⟨failures, last, hconcluded⟩
  · exfalso
    rcases htrying.answered with hanswered | ⟨f, hf, hdropped⟩
    · rw [hlength, List.length_nil] at hanswered
      unfold attemptLimit at hanswered
      omega
    · obtain ⟨earlier, later, rfl⟩ := List.append_of_mem hf
      have hgranted : s.config.retry (question earlier f.error) = .retryAfter f.wait f.notice :=
        htrying.conduct.granted earlier f later rfl
      rw [hsilence _ hdropped] at hgranted
      cases hgranted

theorem exec_perform_invokeAs {α : Type} (request : Request)
    (convert : Response → Except InvocationError α) (s : Simulation) :
    exec (perform (Program.invokeAs request convert)) s =
      ((exec (invoke request) s).1.bind convert, (exec (invoke request) s).2) := by
  rw [Program.invokeAs, exec_perform_invoke]
  generalize exec (invoke request) s = result
  rfl

theorem concluded_perform {α : Type} (hsilence : s.config.retry.EndsInSilence) (request : Request)
    (convert : Response → Except InvocationError α) :
    ∃ failures last, Concluded request convert failures last s
      (exec (perform (Program.invokeAs request convert)) s).2
      (exec (perform (Program.invokeAs request convert)) s).1 := by
  obtain ⟨failures, last, hconcluded⟩ := concluded_invoke hsilence request
  exact ⟨failures, last, hconcluded.bind (exec_perform_invokeAs request convert s)⟩

/-- What is read of the reply, when the request is invoked with so many attempts at most. -/
def invokeWithin {α : Type} (left : Nat) (request : Request)
    (convert : Response → Except InvocationError α) : SimulationM (Except InvocationError α) :=
  (·.bind convert) <$> attempt left { request }

theorem exec_invokeWithin {α : Type} (left : Nat) (request : Request)
    (convert : Response → Except InvocationError α) (s : Simulation) :
    exec (invokeWithin left request convert) s =
      ((exec (attempt left { request }) s).1.bind convert,
        (exec (attempt left { request }) s).2) := rfl

theorem exec_perform_invokeAs_within {α : Type} (request : Request)
    (convert : Response → Except InvocationError α) (s : Simulation) :
    exec (perform (Program.invokeAs request convert)) s =
      exec (invokeWithin s.attemptLimit request convert) s := by
  rw [exec_perform_invokeAs, exec_invoke, exec_invokeWithin]

/-- The invocation of a request follows the retry policy. -/
structure FollowsPolicy {α : Type} (request : Request)
    (convert : Response → Except InvocationError α) (s : Simulation) : Prop where
  /-- However many attempts are allowed: if fewer failures than that are granted another attempt
  then the next one ends the invocation, and to allow more makes no difference. -/
  within : ∀ left,
    (∃ failures last, failures.length < left ∧
      Concluded request convert failures last s (exec (invokeWithin left request convert) s).2
        (exec (invokeWithin left request convert) s).1 ∧
      ∀ extra, exec (invokeWithin (left + extra) request convert) s =
        exec (invokeWithin left request convert) s) ∨
    (∃ failures, failures.length = left ∧
      Trying s request failures (exec (invokeWithin left request convert) s).2)
  whole : exec (perform (Program.invokeAs request convert)) s =
    exec (invokeWithin s.attemptLimit request convert) s
  /-- Without retries there is one attempt. -/
  never : s.config.retry = RetryPolicy.never → ∃ last,
    Concluded request convert [] last s (exec (perform (Program.invokeAs request convert)) s).2
      (exec (perform (Program.invokeAs request convert)) s).1
  /-- With patience there is at most one attempt more than failures at the beginning are borne. -/
  patient : ∀ p, s.config.retry = RetryPolicy.autoSleep p → ∃ failures last,
    Concluded request convert failures last s
      (exec (perform (Program.invokeAs request convert)) s).2
      (exec (perform (Program.invokeAs request convert)) s).1 ∧
    failures.length + 1 ≤ p.borne ((made failures last).map (·.reply)) + 1

/-- A conversion takes what a response of its own kind holds, and refuses every other. -/
def Reads {α : Type} (hold : α → Response) (convert : Response → Except InvocationError α)
    (name : String) : Prop :=
  (∀ a, convert (hold a) = .ok a) ∧
    ∀ response, (∀ a, response ≠ hold a) →
      convert response = .error (.unexpectedShape s!"expected {name}, got {response.name}")

theorem followsPolicy {α : Type} (request : Request)
    (convert : Response → Except InvocationError α) (s : Simulation) :
    FollowsPolicy request convert s where
  within left := by
    rcases (trying_nil request s).attempt left with
      ⟨failures, last, hless, hconcluded, hextra⟩ | ⟨failures, hlength, htrying, -⟩
    · rw [List.length_nil, Nat.zero_add] at hless
      have hread := hconcluded.bind (exec_invokeWithin left request convert s)
      refine .inl ⟨failures, last, hless, hread, fun extra => ?_⟩
      exact congrArg (fun r : Reply × Simulation => (r.1.bind convert, r.2)) (hextra extra)
    · rw [List.length_nil, Nat.zero_add] at hlength
      exact .inr ⟨failures, hlength, htrying⟩
  whole := exec_perform_invokeAs_within request convert s
  never hnever := by
    have hsilence : s.config.retry.EndsInSilence := by
      rw [hnever]
      exact fun _ _ => rfl
    obtain ⟨failures, last, hconcluded⟩ := concluded_perform hsilence request convert
    rcases List.eq_nil_or_concat failures with rfl | ⟨earlier, f, rfl⟩
    · exact ⟨last, hconcluded⟩
    · -- none is granted another attempt
      have hgranted : s.config.retry (question earlier f.error) = .retryAfter f.wait f.notice :=
        hconcluded.conduct.granted earlier f [] List.concat_eq_append
      rw [hnever] at hgranted
      cases hgranted
  patient p hpatient := by
    have hsilence : s.config.retry.EndsInSilence := by
      rw [hpatient]
      exact RetryPolicy.endsInSilence_autoSleep p
    obtain ⟨failures, last, hconcluded⟩ := concluded_perform hsilence request convert
    refine ⟨failures, last, hconcluded, ?_⟩
    have hconduct := hconcluded.conduct
    rw [hpatient] at hconduct
    rw [made, List.map_append, List.map_map]
    exact Nat.succ_le_succ (hconduct.length_le_borne _)

theorem reads_asState : Reads .state Response.asState "updates.State" := by
  refine ⟨fun _ => rfl, fun response hother => ?_⟩
  cases response with
  | state a => exact absurd rfl (hother a)
  | difference _ => rfl
  | channelDifference _ => rfl

theorem reads_asDifference : Reads .difference Response.asDifference "updates.Difference" := by
  refine ⟨fun _ => rfl, fun response hother => ?_⟩
  cases response with
  | state _ => rfl
  | difference a => exact absurd rfl (hother a)
  | channelDifference _ => rfl

theorem reads_asChannelDifference :
    Reads .channelDifference Response.asChannelDifference "updates.ChannelDifference" := by
  refine ⟨fun _ => rfl, fun response hother => ?_⟩
  cases response with
  | state _ => rfl
  | difference _ => rfl
  | channelDifference a => exact absurd rfl (hother a)

/-- Every invocation follows the retry policy, whatever the policy is and whatever the server
answers.  All attempts send the same request.  All but the last failed, and the policy, asked about
each failure, granted the wait that passed before the next attempt; the last succeeded, and its
response is read, or the policy gave up on its error.  A response of another kind than the request
promises is an error, after which nothing is tried again. -/
theorem invocation_follows_policy {α : Type} (request : Request)
    (convert : Response → Except InvocationError α) (s : Simulation) :
    FollowsPolicy request convert s ∧
      Reads .state Response.asState "updates.State" ∧
      Reads .difference Response.asDifference "updates.Difference" ∧
      Reads .channelDifference Response.asChannelDifference "updates.ChannelDifference" :=
  ⟨followsPolicy request convert s, reads_asState, reads_asDifference, reads_asChannelDifference⟩

end Simulation

end UpdatePipeline
