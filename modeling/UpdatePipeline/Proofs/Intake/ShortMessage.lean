import UpdatePipeline.Proofs.Intake.Batch
import UpdatePipeline.Proofs.Recovery.Gaps
set_option autoImplicit false

/-!
# The intake of a short message

A short message moves the account's record as soon as it arrives, and only then is the
server asked for what completes it.  If that fails nothing is queued and the record stays
moved, so a later recovery starts behind the message.  `short_message_endings` tells this ending
from the others.
-/

namespace UpdatePipeline

open Schema Program

namespace Intake

variable {config : Config} {policy : RetryPolicy} {short : ShortMessage}

/-- The record that a short message leads to. -/
def shortPosition (short : ShortMessage) : StateRecord where
  scope := Scope.account
  pts := short.pts
  qts := none
  date := some short.date

/-- The request for what completes a short message: what came last before it. -/
def completionQuery (short : ShortMessage) : DifferenceQuery where
  pts := short.pts - short.ptsCount
  date := short.date
  qts := -1

/-- What an answer to this request brings into the queue. -/
def completedBy (short : ShortMessage) : Except InvocationError Difference → List Envelope
  | .ok (.difference page _) | .ok (.slice page _) => (completion? short page).toList
  | _ => []

/-- Completing a short message asks once and queues what the answer brings; a failure to get
an answer is the result. -/
theorem runs_complete {t : Trace} {result : Except InvocationError Unit}
    (h : Runs policy (complete short) t result) :
    ∃ attempts reply, t = .invoked (.getDifference (completionQuery short)) attempts reply ::
        Trace.ofEnvelopes (completedBy short (reply.bind Response.asDifference)) ∧
      result = (reply.bind Response.asDifference).map fun _ => () := by
  unfold complete at h
  obtain ⟨t₁, answer, t₂, rfl, hask, hrest⟩ := runs_bind_iff.1 h
  obtain ⟨attempts, reply, -, rfl, rfl⟩ := runs_invokeAs_iff.1 hask
  refine ⟨attempts, reply, ?_⟩
  suffices hgo : t₂ = Trace.ofEnvelopes (completedBy short (reply.bind Response.asDifference)) ∧
      result = (reply.bind Response.asDifference).map fun _ => () by
    rw [hgo.1]
    exact ⟨rfl, hgo.2⟩
  generalize reply.bind Response.asDifference = answer at hrest ⊢
  rcases answer with e | (_ | ⟨page, state⟩ | ⟨page, state⟩ | _)
  case ok.difference | ok.slice =>
    obtain ⟨t₃, u, t₄, rfl, hqueue, hdone⟩ := runs_bind_iff.1 hrest
    obtain ⟨rfl, rfl⟩ := runs_pure_iff.1 hdone
    rw [List.append_nil]
    exact ⟨runs_enqueueAll_iff.1 hqueue, rfl⟩
  all_goals exact runs_pure_iff.1 hrest

/-! ## How an intake ends -/

/-- The record could not be written, and nothing else was tried. -/
structure Refused (short : ShortMessage) (t : Trace) (result : Except InvocationError Unit) :
    Prop where
  error : ∃ e, t.writes = [(shortPosition short, .error e)] ∧ result = .error (.io e)
  unqueued : t.envelopes = []
  unasked : t.invocations = []
  kept : ∀ records : Records, t.applyTo records = records

/-- The record was written and the server asked; its answer settles the rest. -/
structure Answered (short : ShortMessage) (answer : Except InvocationError Difference) (t : Trace)
    (result : Except InvocationError Unit) : Prop where
  written : t.writes = [(shortPosition short, .ok ())]
  asked : t.differences = [(completionQuery short, answer)]
  queued : t.envelopes = completedBy short answer
  result : result = answer.map fun _ => ()

/-- Where positions are kept the record is written first, and the rest depends on that. -/
theorem ending_of_runs (hkeeps : config.skipUpdates = false) {t : Trace}
    {result : Except InvocationError Unit}
    (h : Runs policy (takeShortMessage config short) t result) :
    Refused short (.touched :: t) result ∨
      ∃ answer, Answered short answer (.touched :: t) result := by
  rw [takeShortMessage, hkeeps] at h
  obtain ⟨t₁, stored, t₂, rfl, hstore, hrest⟩ := runs_bind_iff.1 h
  obtain rfl := runs_store_iff.1 hstore
  cases stored with
  | error e =>
    obtain ⟨rfl, rfl⟩ := runs_pure_iff.1 hrest
    exact .inl ⟨⟨e, rfl, rfl⟩, rfl, rfl, fun _ => rfl⟩
  | ok u =>
    obtain ⟨attempts, reply, rfl, hresult⟩ := runs_complete hrest
    refine .inr ⟨reply.bind Response.asDifference, ?_, ?_, ?_, hresult⟩
    · exact congrArg (_ :: ·) (Trace.writes_ofEnvelopes _)
    · exact congrArg (_ :: ·) (Trace.differences_ofEnvelopes _)
    · exact Trace.envelopes_ofEnvelopes _

/-- The difference was asked for in vain, and this failure is the result. -/
def DifferenceFailed (t : Trace) (result : Except InvocationError Unit) : Prop :=
  ∃ q e, (q, .error e) ∈ t.differences ∧ result = .error e

theorem Refused.not_differenceFailed {t : Trace} {result : Except InvocationError Unit}
    (h : Refused short t result) : ¬ DifferenceFailed t result := by
  rintro ⟨q, e, hmem, -⟩
  have hnone : t.differences = [] := by
    apply Trace.differences_eq_nil
    rw [h.unasked]
    exact nofun
  rw [hnone] at hmem
  cases hmem

theorem Answered.differenceFailed_iff {answer : Except InvocationError Difference} {t : Trace}
    {result : Except InvocationError Unit} (h : Answered short answer t result) :
    DifferenceFailed t result ↔ ¬ answer.isOk := by
  constructor
  · rintro ⟨q, e, hmem, -⟩ hok
    rw [h.asked, List.mem_singleton] at hmem
    rw [← (Prod.mk.inj hmem).2] at hok
    cases hok
  · intro hfailed
    cases answer with
    | error e => exact ⟨_, e, by rw [h.asked]; exact List.mem_singleton.2 rfl, h.result⟩
    | ok difference => exact absurd rfl hfailed

/-! ## What a failure leaves behind -/

/-- The record has moved past a short message that was not queued. -/
structure Overtaken (config : Config) (short : ShortMessage) (w : Surroundings config.retry)
    (past t : Trace) : Prop where
  unqueued : t.envelopes = []
  account : ((past ++ t).applyTo w.records).find? .account = some (shortPosition short)
  others : ∀ scope, scope ≠ .account →
    ((past ++ t).applyTo w.records).find? scope = (past.applyTo w.records).find? scope
  /-- Until the account's record is written again, every recovery starts behind the message. -/
  resumed : ∀ meanwhile : Trace, meanwhile.stored? .account = none →
    ∀ d ∈ (w.run (Recovery.recoverGaps config) (past ++ t ++ meanwhile)).1.differences.head?,
      d.1 = Recovery.queryAt short.pts short.date

/-- What the account's record is when a recovery begins is where it starts. -/
theorem differences_recoverGaps {w : Surroundings config.retry} (hkeyed : w.records.IsKeyed)
    {past : Trace} (record : StateRecord)
    (h : (past.applyTo w.records).find? record.scope = some record)
    (hscope : record.scope = .account) :
    ∀ d ∈ (w.run (Recovery.recoverGaps config) past).1.differences.head?,
      d.1 = Recovery.queryAt record.pts (record.date.getD 0) := by
  cases hfault : w.listFault past with
  | some e =>
    rw [Recovery.run_recoverGaps_of_listFault w hfault]
    exact fun _ hd => nomatch hd
  | none =>
    obtain ⟨visits, hgaps⟩ := Recovery.gapRecovery_run w hkeyed hfault
    exact hgaps.first_difference ((hkeyed.applyTo past).mem_values_iff.2 h) hscope

/-- One write that succeeds is enough to leave an unqueued message behind. -/
theorem overtaken_of_writes {w : Surroundings config.retry} (hkeyed : w.records.IsKeyed)
    {past t : Trace} (hwrites : t.writes = [(shortPosition short, .ok ())])
    (hqueue : t.envelopes = []) : Overtaken config short w past t := by
  have hstored : ∀ scope,
      t.stored? scope = if Scope.account = scope then some (shortPosition short) else none := by
    intro scope
    rw [Trace.stored?_of_writes_eq hwrites]
    simp [shortPosition, Except.isOk, Except.toBool]
  have haccount : ((past ++ t).applyTo w.records).find? .account = some (shortPosition short) := by
    rw [Trace.applyTo_append, Trace.find?_applyTo, hstored, if_pos rfl]
    rfl
  constructor
  case unqueued => exact hqueue
  case account => exact haccount
  case others =>
    intro scope hscope
    rw [Trace.applyTo_append, Trace.find?_applyTo, hstored, if_neg hscope.symm]
    rfl
  case resumed =>
    intro meanwhile hmeanwhile
    refine differences_recoverGaps hkeyed (shortPosition short) ?_ rfl
    rw [Trace.applyTo_append, Trace.find?_applyTo]
    change (meanwhile.stored? .account).or _ = _
    rw [hmeanwhile]
    exact haccount

/-- The intake of a short message ends in one of three ways.  Without an error its answer came
and is queued.  With the error of its difference nothing is queued, and yet the account's
record has already moved past the message.  With another error nothing has happened. -/
theorem short_message_endings (config : Config) (hkeeps : config.skipUpdates = false)
    (short : ShortMessage) (push : Push)
    (hpush : push = .shortMessage short ∨ push = .shortChatMessage short)
    (records : List StateRecord) (w : Surroundings config.retry) (past : Trace) :
    let world := w.holding records
    let (t, result) := world.run (take config push) past
    (DifferenceFailed t result → Overtaken config short world past t) ∧
      (result.isOk → ∃ difference, Answered short (.ok difference) t result) ∧
      (¬ result.isOk → ¬ DifferenceFailed t result → Refused short t result) := by
  intro world
  have hkeyed : world.records.IsKeyed := Records.isKeyed_ofList records
  have hruns := world.runs_run (take config push) past
  generalize world.run (take config push) past = outcome at hruns ⊢
  obtain ⟨t, result⟩ := outcome
  obtain ⟨t, rfl, hpushed⟩ := runs_take hruns
  have hruns : Runs config.retry (takeShortMessage config short) t result := by
    rcases hpush with rfl | rfl
    all_goals exact hpushed
  rcases ending_of_runs hkeeps hruns with hrefused | ⟨answer, hanswered⟩
  · have hother := hrefused.not_differenceFailed
    refine ⟨fun hfailed => absurd hfailed hother, fun hok => ?_, fun _ _ => hrefused⟩
    obtain ⟨e, -, rfl⟩ := hrefused.error
    cases hok
  · have hfailed := hanswered.differenceFailed_iff
    have hresult := hanswered.result
    cases answer with
    | error e =>
      have hovertaken : Overtaken config short world past (.touched :: t) :=
        overtaken_of_writes hkeyed hanswered.written hanswered.queued
      have herror : ¬ result.isOk := by
        rw [hresult]
        exact nofun
      exact ⟨fun _ => hovertaken, fun hok => absurd hok herror,
        fun _ hother => absurd (hfailed.2 nofun) hother⟩
    | ok difference =>
      have hok : result.isOk := by
        rw [hresult]
        rfl
      exact ⟨fun hf => absurd rfl (hfailed.1 hf), fun _ => ⟨difference, hanswered⟩,
        fun herror => absurd hok herror⟩

/-- The account at position 10. -/
def recordAtTen : StateRecord := { scope := .account, pts := 10, date := some 1 }

/-- The message that leads from there to position 11. -/
def nextMessage : ShortMessage :=
  { id := 7, peer := .user 1, senderId := some 1, text := "hi", isOutgoing := false, pts := 11,
    ptsCount := 1, date := 2 }

theorem unanswered_short_message_is_overtaken :
    let config : Config := { retry := .never }
    let world := Surroundings.unanswering.holding [recordAtTen]
    let (t, result) := world.run (take config (.shortMessage nextMessage)) []
    DifferenceFailed t result ∧ Overtaken config nextMessage world [] t := by
  intro config world
  have hfailed : DifferenceFailed (world.run (take config (.shortMessage nextMessage)) []).1
      (world.run (take config (.shortMessage nextMessage)) []).2 :=
    ⟨completionQuery nextMessage, .dropped, List.mem_cons_self, rfl⟩
  exact ⟨hfailed, (short_message_endings config rfl nextMessage _ (.inl rfl) _
    .unanswering []).1 hfailed⟩

/-- The record is not what it was, and a recovery asks for what is behind the message. -/
theorem unanswered_short_message_moves_record :
    let config : Config := { retry := .never }
    let world := Surroundings.unanswering.holding [recordAtTen]
    let (t, result) := world.run (take config (.shortMessage nextMessage)) []
    let recovery := (world.run (Recovery.recoverGaps config) t).1
    DifferenceFailed t result ∧ t.envelopes = [] ∧
      world.records.find? .account = some recordAtTen ∧
      (t.applyTo world.records).find? .account =
        some { scope := .account, pts := 11, date := some 2 } ∧
      recovery.differences.head?.map (·.1) = some (Recovery.queryAt 11 2) := by
  refine ⟨⟨completionQuery nextMessage, .dropped, List.mem_cons_self, rfl⟩, ?_⟩
  decide

end Intake

end UpdatePipeline
