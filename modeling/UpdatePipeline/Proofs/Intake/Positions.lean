import UpdatePipeline.Proofs.Intake.ShortMessage
set_option autoImplicit false

/-!
# The positions that pushes lead to

Every scope for which a push brings a position comes to the last one of them, and every other
scope stays where it is (`take_advances`); only an update pushed by itself moves nothing.
What a batch brings of channels that are known does not move the account
(`channels_leave_account`).  A channel's update that names no channel does, as it is
taken for one of the account.
-/

namespace UpdatePipeline

open Schema Program

/-! ## Updates of channels -/

namespace Schema

/-- Whether the update is one of a channel's sequence. -/
def Update.isOfChannel : Update → Bool
  | .newChannelMessage .. | .editChannelMessage .. | .deleteChannelMessages .. => true
  | _ => false

/-- The batch with all updates of channels taken out. -/
def Batch.withoutChannels (batch : Batch) : Batch :=
  { batch with updates := batch.updates.filter fun u => !u.isOfChannel }

end Schema

/-- The sequence of a channel is never the account's. -/
theorem Scope.ofChannel_ne_account {channelId : Int64} (h : 0 < channelId) :
    ofChannel channelId ≠ account := by
  intro hsame
  have hid : Int64.ofInt (-channelOffset) = channelId := by
    rw [ofChannel, channelMark, account, Int64.sub_eq_iff_eq_add, Int64.zero_add] at hsame
    exact hsame
  rw [← hid] at h
  revert h
  decide

namespace Intake

variable {config : Config} {policy : RetryPolicy}

/-! ## What is written -/

/-- The positions that a push leads to by what it brings itself. -/
def positionsOf : Push → List StateRecord
  | .updates batch | .combined batch => batch.updates.filterMap (position? batch.date)
  | .shortMessage short | .shortChatMessage short => [shortPosition short]
  | .short update date => (position? date update).toList
  | .tooLong => []

/-- The positions that are stored for a push.  An update pushed by itself is only queued. -/
def storedFor : Push → List StateRecord
  | .short _ _ => []
  | push => positionsOf push

theorem writes_takeBatch {batch : Batch} {t : Trace} {result : Except InvocationError Unit}
    (h : Runs policy (takeBatch config batch) t result) :
    t.writes.map (·.1) =
      if config.skipUpdates then [] else batch.updates.filterMap (position? batch.date) :=
  (batchIntake_of_runs h).written

theorem writes_takeShortMessage {short : ShortMessage} {t : Trace}
    {result : Except InvocationError Unit}
    (h : Runs policy (takeShortMessage config short) t result) :
    t.writes.map (·.1) = if config.skipUpdates then [] else [shortPosition short] := by
  cases hskip : config.skipUpdates with
  | true =>
    rw [takeShortMessage, hskip] at h
    obtain ⟨attempts, reply, rfl, -⟩ := runs_complete h
    exact congrArg (List.map (·.1)) (Trace.writes_ofEnvelopes _)
  | false =>
    -- that an update has been received is no write
    change (Trace.writes (.touched :: t)).map (·.1) = _
    rcases ending_of_runs hskip h with hrefused | ⟨answer, hanswered⟩
    · obtain ⟨e, hwrites, -⟩ := hrefused.error
      rw [hwrites]
      rfl
    · rw [hanswered.written]
      rfl

/-- What a push writes depends on the push alone. -/
theorem writes_take {push : Push} {t : Trace} {result : Except InvocationError Unit}
    (h : Runs policy (take config push) t result) :
    t.writes.map (·.1) = if config.skipUpdates then [] else storedFor push := by
  obtain ⟨t, rfl, hrest⟩ := runs_take h
  change (Trace.writes t).map (·.1) = _
  cases push with
  | updates batch | combined batch => exact writes_takeBatch hrest
  | shortMessage short | shortChatMessage short => exact writes_takeShortMessage hrest
  | short update date =>
    rw [hrest.1, Trace.writes_ofEnvelopes]
    exact (ite_self []).symm
  | tooLong =>
    rw [hrest.1, Trace.writes_ofNotices]
    exact (ite_self []).symm

/-! ## Where the scopes stand afterwards -/

/-- Every scope has come to the last position that a push has for it, and a scope without one
has stayed. -/
structure Advanced (push : Push) (before after : Records) : Prop where
  reached : ∀ scope last, ((positionsOf push).filter (·.scope = scope)).getLast? = some last →
    after.find? scope = some last
  kept : ∀ scope, (∀ record ∈ positionsOf push, record.scope ≠ scope) →
    after.find? scope = before.find? scope

/-- A position that is pushed by itself. -/
def IsLonePosition (push : Push) : Prop :=
  ∃ update date, push = .short update date ∧ update.ptsInfo?.isSome

theorem storedFor_eq_positionsOf {push : Push} (h : ¬ IsLonePosition push) :
    storedFor push = positionsOf push := by
  cases push with
  | short update date =>
    have hinfo : update.ptsInfo? = none := by
      by_contra hsome
      exact h ⟨update, date, rfl, Option.isSome_iff_ne_none.2 hsome⟩
    simp [storedFor, positionsOf, position?, hinfo]
  | _ => rfl

/-- Where positions are kept and no write fails a push moves every scope to the last position it
brings for it, and nothing else; but a position that is pushed by itself moves nothing. -/
theorem take_advances (config : Config) (hkeeps : config.skipUpdates = false) (push : Push)
    (w : Surroundings config.retry) (past : Trace)
    (hwrites : ∀ write ∈ (w.run (take config push) past).1.writes, write.2.isOk)
    (before : Records) :
    let after := (w.run (take config push) past).1.applyTo before
    (¬ IsLonePosition push → Advanced push before after) ∧
      (IsLonePosition push → ∀ scope, after.find? scope = before.find? scope) := by
  intro after
  have hrecords := writes_take (w.runs_run (take config push) past)
  rw [hkeeps, if_neg Bool.false_ne_true] at hrecords
  have hafter : ∀ scope, after.find? scope =
      ((storedFor push).filter (·.scope = scope)).getLast?.or (before.find? scope) := by
    intro scope
    rw [Trace.find?_applyTo, Trace.stored?_of_writes_ok hwrites, hrecords]
  constructor
  · intro hcounted
    rw [storedFor_eq_positionsOf hcounted] at hafter
    constructor
    case reached =>
      intro scope last hlast
      rw [hafter, hlast]
      rfl
    case kept =>
      intro scope hother
      have hnone : (positionsOf push).filter (·.scope = scope) = [] :=
        List.filter_eq_nil_iff.2 fun record hrecord => by simpa using hother record hrecord
      rw [hafter, hnone]
      rfl
  · rintro ⟨update, date, rfl, -⟩ scope
    exact hafter scope

/-- A batch that brings two positions of the account and one of a channel. -/
def mixedBatch : Batch where
  updates := [.deleteMessages [3] 11 1, .deleteChannelMessages 5 [1] 40 1, .deleteMessages [4] 12 1]
  date := 2

theorem take_advances_mixedBatch :
    let world := Surroundings.unanswering.holding [recordAtTen]
    let t := (world.run (take { retry := .never } (.updates mixedBatch)) []).1
    let after := t.applyTo world.records
    Advanced (.updates mixedBatch) world.records after ∧
      after.find? .account = some { scope := .account, pts := 12, date := some 2 } ∧
      after.find? (.ofChannel 5) = some { scope := .ofChannel 5, pts := 40, date := some 2 } := by
  intro world t after
  have hwrites : ∀ write ∈ t.writes, write.2.isOk := by decide
  have hcounted : ¬ IsLonePosition (.updates mixedBatch) := by
    rintro ⟨update, date, hlone, -⟩
    cases hlone
  have hadvanced := (take_advances { retry := .never } rfl (.updates mixedBatch) world [] hwrites
    world.records).1 hcounted
  exact ⟨hadvanced, hadvanced.reached _ _ rfl, hadvanced.reached _ _ rfl⟩

/-- A position that is pushed by itself is queued with success, and its scope does not come to
it. -/
theorem lone_position_is_not_stored :
    let world := Surroundings.unanswering.holding [recordAtTen]
    let push := Push.short (.deleteMessages [3] 11 1) 2
    let (t, result) := world.run (take { retry := .never } push) []
    result.isOk ∧ (∀ write ∈ t.writes, write.2.isOk) ∧
      positionsOf push = [{ scope := .account, pts := 11, date := some 2 }] ∧
      ¬ Advanced push world.records (t.applyTo world.records) := by
  refine ⟨rfl, nofun, rfl, fun hadvanced => ?_⟩
  have hreached := hadvanced.reached .account _ rfl
  revert hreached
  decide

/-! ## Channels apart from the account -/

/-- Taking out updates that lead elsewhere leaves the positions of a scope. -/
theorem positions_filter {date : Int32} {scope : Scope} {keep : Update → Bool}
    {updates : List Update} (h : ∀ u ∈ updates, keep u = false →
      ∀ record ∈ position? date u, record.scope ≠ scope) :
    (positions config date (updates.filter keep)).filter (·.scope = scope) =
      (positions config date updates).filter (·.scope = scope) := by
  unfold positions
  split
  · rfl
  induction updates with
  | nil => rfl
  | cons u rest ih =>
    obtain ⟨hu, hrest⟩ := List.forall_mem_cons.1 h
    cases hkeep : keep u with
    | true =>
      rw [List.filter_cons_of_pos hkeep, List.filterMap_cons, List.filterMap_cons]
      cases position? date u with
      | none => exact ih hrest
      | some record => rw [List.filter_cons, List.filter_cons, ih hrest]
    | false =>
      rw [List.filter_cons_of_neg (by simp [hkeep]), List.filterMap_cons, ih hrest]
      cases hposition : position? date u with
      | none => rfl
      | some record =>
        rw [List.filter_cons_of_neg]
        simpa using hu hkeep record hposition

/-- Of the updates of a batch the positions of a scope are written to it, whichever way the
batch is pushed. -/
theorem writesTo_take {wrap : Batch → Push} (hwrap : wrap = .updates ∨ wrap = .combined)
    {batch : Batch} {t : Trace} {result : Except InvocationError Unit}
    (h : Runs policy (take config (wrap batch)) t result) (scope : Scope) :
    (t.writesTo scope).map (·.1) =
      (positions config batch.date batch.updates).filter (·.scope = scope) := by
  rw [Trace.map_writesTo, writes_take h]
  rcases hwrap with rfl | rfl
  all_goals rfl

/-- A position is the account's exactly if its update names no channel, whatever update it is. -/
theorem scope_position?_eq_account_iff {date : Int32} {update : Update} {record : StateRecord}
    (hpositive : ∀ channelId ∈ update.channelId?, 0 < channelId)
    (h : position? date update = some record) :
    record.scope = .account ↔ update.channelId? = none := by
  obtain ⟨info, -, rfl⟩ := Option.map_eq_some_iff.1 h
  show Scope.ofChannel? update.channelId? = .account ↔ _
  cases hchannel : update.channelId? with
  | none => exact ⟨fun _ => rfl, fun _ => rfl⟩
  | some channelId =>
    have hother := Scope.ofChannel_ne_account (hpositive channelId hchannel)
    exact ⟨fun hsame => absurd hsame hother, nofun⟩

/-- Whatever a batch brings of channels, as long as it says of which ones, nothing is written for
the account but the positions of the other updates, as without those of channels; and if the
same of these writes succeed, the account comes to the same record. -/
theorem channels_leave_account (config : Config) (batch : Batch)
    (hpositive : ∀ u ∈ batch.updates, ∀ channelId ∈ u.channelId?, 0 < channelId)
    (hnamed : ∀ u ∈ batch.updates, u.isOfChannel → u.channelId?.isSome)
    (wrap : Batch → Push) (hwrap : wrap = .updates ∨ wrap = .combined)
    (w w' : Surroundings config.retry) (past past' : Trace) :
    let rest := batch.withoutChannels
    let t := (w.run (take config (wrap batch)) past).1
    let t' := (w'.run (take config (wrap rest)) past').1
    let own := (positions config rest.date rest.updates).filter (·.scope = .account)
    (t.writesTo .account).map (·.1) = own ∧ (t'.writesTo .account).map (·.1) = own ∧
      ((t.writesTo .account).map (·.2) = (t'.writesTo .account).map (·.2) →
        ∀ before : Records,
          (t.applyTo before).find? .account = (t'.applyTo before).find? .account) := by
  intro rest t t' own
  have howns : own = (positions config batch.date batch.updates).filter (·.scope = .account) := by
    refine positions_filter fun u hu hdropped record hrecord haccount => ?_
    have hchannel : u.isOfChannel := by simpa using hdropped
    have hnone := (scope_position?_eq_account_iff (hpositive u hu) hrecord).1 haccount
    exact Option.isSome_iff_ne_none.1 (hnamed u hu hchannel) hnone
  have hwhole : (t.writesTo .account).map (·.1) = own := by
    rw [howns]
    exact writesTo_take hwrap (w.runs_run _ past) .account
  have hrest : (t'.writesTo .account).map (·.1) = own :=
    writesTo_take hwrap (w'.runs_run _ past') .account
  refine ⟨hwhole, hrest, fun hanswers before => ?_⟩
  -- equal records and equal answers are equal writes, and these settle what stays
  have hsame : t.writesTo .account = t'.writesTo .account := by
    rw [← List.zip_unzip (t.writesTo .account), ← List.zip_unzip (t'.writesTo .account)]
    simp only [List.unzip_eq_map]
    rw [hwhole, hrest, hanswers]
  rw [Trace.find?_applyTo, Trace.find?_applyTo, Trace.stored?_eq_writesTo,
    Trace.stored?_eq_writesTo, hsame]

theorem channels_leave_account_mixedBatch :
    let world := Surroundings.unanswering.holding [recordAtTen]
    let t := (world.run (take { retry := .never } (.updates mixedBatch)) []).1
    let t' := (world.run (take { retry := .never } (.updates mixedBatch.withoutChannels)) []).1
    (t.writesTo .account).map (·.1) = [{ scope := .account, pts := 11, date := some 2 },
        { scope := .account, pts := 12, date := some 2 }] ∧
      (t.applyTo world.records).find? .account = (t'.applyTo world.records).find? .account := by
  intro world t t'
  have hpositive : ∀ u ∈ mixedBatch.updates, ∀ channelId ∈ u.channelId?, 0 < channelId := by
    intro u hu channelId hchannel
    simp only [mixedBatch, List.mem_cons, List.not_mem_nil, or_false] at hu
    rcases hu with rfl | rfl | rfl
    · cases hchannel
    · cases hchannel
      decide
    · cases hchannel
  have hnamed : ∀ u ∈ mixedBatch.updates, u.isOfChannel → u.channelId?.isSome := by decide
  obtain ⟨hown, -, hsame⟩ := channels_leave_account { retry := .never } mixedBatch hpositive hnamed
    .updates (.inl rfl) world world [] []
  exact ⟨hown, hsame (by decide) world.records⟩

/-- A channel's message that is empty and names no peer. -/
def unattributedBatch : Batch where
  updates := [.newChannelMessage (.empty 7 none) 900 1]
  date := 2

/-- The position of a message that names no channel is stored for the account, although no
update but those of channels came in. -/
theorem unattributed_channel_moves_account :
    let world := Surroundings.unanswering.holding [recordAtTen]
    let t := (world.run (take { retry := .never } (.updates unattributedBatch)) []).1
    let rest := unattributedBatch.withoutChannels
    let t' := (world.run (take { retry := .never } (.updates rest)) []).1
    (∀ u ∈ unattributedBatch.updates,
        u.isOfChannel ∧ ∀ channelId ∈ u.channelId?, 0 < channelId) ∧
      (t.applyTo world.records).find? .account =
        some { scope := .account, pts := 900, date := some 2 } ∧
      (t'.applyTo world.records).find? .account = some recordAtTen := by
  refine ⟨fun u hu => ?_, by decide⟩
  rw [List.mem_singleton.1 hu]
  exact ⟨rfl, nofun⟩

end Intake

end UpdatePipeline
