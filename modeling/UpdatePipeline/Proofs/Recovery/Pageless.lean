import UpdatePipeline.Proofs.Recovery.Gaps
import UpdatePipeline.Proofs.Recovery.Resumption
set_option autoImplicit false

/-!
# Recoveries that get no page

A recovery may end without a page to queue: the answer is empty or too long or of another kind,
the request fails or the channel is not found, or no page is allowed at all.  The position is
written back all the same, and it is the one that was read.  What is written back has no `qts`,
however, so the record stays as it was exactly if it had none, or if it could not be written
(`recoverScope_without_pages`).
-/

namespace UpdatePipeline

open Schema Program

namespace Recovery

/-- Neither a slice nor a final page came, for the account or for a channel. -/
def GetsNoPage (t : Trace) : Prop := pagesOf (answers t) = [] ∧ channelPages (channelAnswers t) = []

/-- What a recovery that brings nothing makes of the records before it. -/
structure BringsNothing (record : StateRecord) (stats : Stats) (before after : Records) (t : Trace)
    (result : Except IoError Stats) : Prop where
  /-- The record is as it was exactly if it had no `qts` or could not be written back. -/
  kept : after.find? record.scope = some record ↔ record.qts = none ∨ ¬ result.isOk
  /-- In any case it is as it was in every other field. -/
  fields : ∃ r, after.find? record.scope = some r ∧ { r with qts := record.qts } = record
  others : ∀ scope, scope ≠ record.scope → after.find? scope = before.find? scope
  queued : t.envelopes = []
  counted : ∀ total, result = .ok total → total = stats

/-! ## Without pages -/

/-- Without pages there is nothing that counts. -/
theorem acceptedPages_of_no_pages {as : List Answer} (h : pagesOf as = []) (previous : Int32) :
    acceptedPages previous as = [] := by
  induction as with
  | nil => rfl
  | cons a as ih =>
    rcases a with e | (_ | _ | _ | _)
    case ok.difference | ok.slice => cases h
    all_goals exact ih h

/-- Without pages a recovery gets nowhere. -/
theorem reached_of_no_pages {as : List Answer} (h : pagesOf as = []) (pts : Int32)
    (date : Option Int32) : reached pts date as = (pts, date) := by
  induction as with
  | nil => rfl
  | cons a as ih =>
    rcases a with e | (_ | _ | _ | _)
    case ok.difference | ok.slice => cases h
    all_goals exact ih h

variable {config : Config} {record : StateRecord} {stats : Stats} {t : Trace}
  {result : Except IoError Stats}

/-- A recovery without pages queues nothing, and it writes back what it was given, less the
`qts`. -/
theorem writesBack_of_no_page (h : Runs config.retry (recoverScope config record stats) t result)
    (hnone : GetsNoPage t) :
    t.envelopes = [] ∧ WritesBack { record with qts := none } stats t result := by
  obtain ⟨haccount, hchannel⟩ := hnone
  by_cases hscope : record.scope < 0
  · have hrecovery := channelRecovery_of_runs hscope h
    have hwrites := hrecovery.writesBack
    rw [hchannel] at hwrites
    exact ⟨by rw [hrecovery.queued, hchannel, List.flatMap_nil], hwrites⟩
  · have hrecovery := accountRecovery_of_runs hscope h
    have hpages := acceptedPages_of_no_pages haccount 0
    have hwrites := hrecovery.writesBack
    rw [hpages, reached_of_no_pages haccount] at hwrites
    exact ⟨by rw [hrecovery.queued, hpages, List.flatMap_nil], hwrites⟩

theorem bringsNothing_of_runs {before : Records}
    (h : Runs config.retry (recoverScope config record stats) t result) (hnone : GetsNoPage t)
    (hstored : before.find? record.scope = some record) :
    BringsNothing record stats before (t.applyTo before) t result := by
  obtain ⟨hqueued, hwrites⟩ := writesBack_of_no_page h hnone
  have hafter : (t.applyTo before).find? record.scope =
      some (if result.isOk then { record with qts := none } else record) := by
    rw [Trace.find?_applyTo, hwrites.stored?_eq, hstored]
    by_cases hok : result.isOk <;> simp [hok]
  constructor
  case kept =>
    rw [hafter, Option.some_inj]
    by_cases hok : result.isOk
    · rw [if_pos hok, StateRecord.mk.injEq]
      simp [hok, eq_comm]
    · simp [hok]
  case fields =>
    refine ⟨_, hafter, ?_⟩
    split <;> rfl
  case others =>
    intro scope hother
    rw [Trace.find?_applyTo, hwrites.stored?_eq, if_neg fun hsame => hother hsame.1.symm]
    rfl
  case queued => exact hqueued
  case counted =>
    rintro total rfl
    obtain ⟨answer, -, -, hresult⟩ := hwrites
    cases answer with
    | error e => cases hresult
    | ok u => exact Except.ok.inj hresult

/-- A recovery that gets no page, for whatever reason, leaves the stored record as it was, except
for a `qts`, which is lost if the record is written back.  No other record changes, and nothing
is queued or counted. -/
theorem recoverScope_without_pages (config : Config) (record : StateRecord) (stats : Stats)
    (w : Surroundings config.retry) (past : Trace)
    (hstored : (past.applyTo w.records).find? record.scope = some record) :
    let (t, result) := w.run (recoverScope config record stats) past
    GetsNoPage t →
      BringsNothing record stats (past.applyTo w.records) ((past ++ t).applyTo w.records) t result := by
  intro hnone
  rw [Trace.applyTo_append]
  exact bringsNothing_of_runs (w.runs_run _ past) hnone hstored

/-- Surroundings that hold one record and have a page for nobody: the account is up to date, and
every channel is found and too far behind. -/
def withoutPages (record : StateRecord) : Surroundings RetryPolicy.never where
  invoke _ request :=
    match request with
    | .getChannelDifference _ => .answered (.channelDifference (.tooLong 9000 {}))
    | _ => .answered (.difference (.empty 1 0))
  resolve _ peer := .ok (.channel (-peer) 0)
  records := .ofList [record]

/-- What the recovery of that record does there. -/
def emptyRecovery (record : StateRecord) : Trace :=
  ((withoutPages record).run (recoverScope { retry := .never } record {}) []).1

/-- A channel that is too far behind keeps its record. -/
theorem recoverScope_without_pages_tooLong :
    let record : StateRecord := { scope := .ofChannel 77, pts := 500 }
    GetsNoPage (emptyRecovery record) ∧
      ((emptyRecovery record).applyTo (.ofList [record])).find? record.scope = some record := by
  intro record
  have hnone : GetsNoPage (emptyRecovery record) := ⟨by rfl, by rfl⟩
  have hstored : (withoutPages record).records.find? record.scope = some record := by rfl
  exact ⟨hnone, (recoverScope_without_pages { retry := .never } record {} (withoutPages record) []
    hstored hnone).kept.2 (.inl rfl)⟩

/-- The account is up to date, and still its record loses the `qts`. -/
theorem empty_recovery_loses_qts :
    let record : StateRecord := { scope := .account, pts := 10, qts := some 5, date := some 1 }
    GetsNoPage (emptyRecovery record) ∧
      ((emptyRecovery record).applyTo (.ofList [record])).find? record.scope =
        some { record with qts := none } ∧
      { record with qts := none } ≠ record :=
  ⟨⟨by rfl, by rfl⟩, by rfl, by decide⟩

end Recovery

end UpdatePipeline
