import UpdatePipeline.Proofs.Recovery.Scope
set_option autoImplicit false

/-!
# Catching up with a channel

A recovery has caught up with a channel if every page led on to the next one, until there
was a reason to stop (`CatchesUp`).  The server marks the page behind which nothing is
left, but the recovery takes every page of a channel for that one.  So it catches up where
the first answer is a reason to stop or no second page is allowed, and nowhere else; a page
behind which there is more is queued and its position written back all the same, and what
follows it is left where it is (`recoverScope_catchesUp_iff`).
-/

namespace UpdatePipeline

open Schema Program

namespace Recovery

/-- What was asked about a channel, and what came of it. -/
abbrev ChannelExchange := ChannelDifferenceQuery × ChannelAnswer

/-- An answer behind which there is nothing to ask for: a failure, one without a page to
queue, the final page, or a page that ends where it was to start. -/
def ChannelExchange.isLast : ChannelExchange → Bool
  | (query, .ok (.difference pts _ isFinal _)) => isFinal || pts == query.pts
  | (_, .ok (.empty _ _ _)) | (_, .ok (.tooLong _ _)) | (_, .error _) => true

/-- One request for a channel's difference follows upon another if there was a page in
between that is not final, and then from where this page ended. -/
def FollowsPage (a b : ChannelExchange) : Prop :=
  ∃ pts page timeout, a.2 = .ok (.difference pts page false timeout) ∧ b.1.pts = pts

/-- A trace in which a channel is asked about until there is nothing to ask for, it cannot
be asked about any more, or as many pages were tried as are allowed. -/
structure CatchesUp (allowed : Nat) (t : Trace) : Prop where
  goesOn : t.channelDifferences.IsChain FollowsPage
  stops : t.resolutions.length = allowed ∨ (∃ r ∈ t.resolutions.getLast?, r.2.toOption = none) ∨
    ∃ d ∈ t.channelDifferences.getLast?, ChannelExchange.isLast d

variable {config : Config} {record : StateRecord} {stats : Stats} {t : Trace}
  {result : Except IoError Stats}

/-- Without leave to ask, nothing is asked. -/
theorem ChannelRecovery.of_not_allowed (h : ChannelRecovery config record stats t result)
    (hnone : config.maxDifferencePages = 0) : t.resolutions = [] ∧ t.channelDifferences = [] := by
  have hbounded := h.bounded
  have hlooksUp := h.looksUp
  rw [hnone, Nat.min_zero] at hbounded
  rw [if_pos hnone] at hlooksUp
  exact ⟨List.map_eq_nil_iff.1 hlooksUp, List.eq_nil_of_length_eq_zero (Nat.le_zero.1 hbounded)⟩

/-- With leave to ask, a channel is looked up once and, if it is found, asked about once. -/
theorem ChannelRecovery.of_allowed (h : ChannelRecovery config record stats t result)
    (hsome : config.maxDifferencePages ≠ 0) :
    (∃ e, t.resolutions = [(record.scope, .error e)] ∧ t.channelDifferences = []) ∨
      ∃ channel answer, t.resolutions = [(record.scope, .ok channel)] ∧ t.channelDifferences =
        [(channelQueryAt record.pts config.channelDifferenceLimit channel, answer)] := by
  have hlooksUp := h.looksUp
  rw [if_neg hsome, List.map_eq_singleton_iff] at hlooksUp
  obtain ⟨⟨_, found⟩, hresolutions, rfl⟩ := hlooksUp
  have hasks := h.asks
  rw [hresolutions] at hasks
  cases found with
  | error e => exact .inl ⟨e, hresolutions, List.map_eq_nil_iff.1 hasks⟩
  | ok channel =>
    obtain ⟨⟨_, answer⟩, hdifferences, rfl⟩ := List.map_eq_singleton_iff.1 hasks
    exact .inr ⟨channel, answer, hresolutions, hdifferences⟩

/-- A recovery catches up if it may not try a second page or its answer was the last. -/
theorem ChannelRecovery.catchesUp_iff (h : ChannelRecovery config record stats t result) :
    CatchesUp config.maxDifferencePages t ↔
      config.maxDifferencePages ≤ 1 ∨ ∀ d ∈ t.channelDifferences, ChannelExchange.isLast d := by
  by_cases hallowed : config.maxDifferencePages = 0
  · obtain ⟨hresolutions, hdifferences⟩ := h.of_not_allowed hallowed
    refine iff_of_true ⟨?_, .inl ?_⟩ (.inl ?_)
    · rw [hdifferences]
      exact .nil
    · rw [hresolutions, hallowed, List.length_nil]
    · omega
  obtain ⟨e, hresolutions, hdifferences⟩ | ⟨channel, answer, hresolutions, hdifferences⟩ :=
    h.of_allowed hallowed
  · refine iff_of_true ⟨?_, .inr (.inl ⟨(record.scope, .error e), ?_, rfl⟩)⟩ (.inr ?_)
    · rw [hdifferences]
      exact .nil
    · rw [hresolutions]
      rfl
    · rw [hdifferences]
      exact List.forall_mem_nil _
  · rw [hdifferences, List.forall_mem_singleton]
    constructor
    · -- the channel was found, so one of the other two reasons holds
      intro hcaught
      obtain hcap | ⟨r, hr, hlost⟩ | ⟨d, hd, hlast⟩ := hcaught.stops
      · rw [hresolutions, List.length_singleton] at hcap
        exact .inl hcap.ge
      · rw [hresolutions] at hr
        obtain rfl := Option.some.inj hr
        cases hlost
      · rw [hdifferences] at hd
        obtain rfl := Option.some.inj hd
        exact .inr hlast
    · intro hreason
      refine ⟨?_, ?_⟩
      · rw [hdifferences]
        exact .singleton _
      · rcases hreason with hcap | hlast
        · refine .inl ?_
          rw [hresolutions, List.length_singleton]
          omega
        · refine .inr (.inr ⟨_, ?_, hlast⟩)
          rw [hdifferences]
          rfl

/-- A page of a channel is queued and its position written back, and it stays the only one,
whether it is final or not. -/
theorem ChannelRecovery.of_page (h : ChannelRecovery config record stats t result)
    {d : ChannelExchange} (hd : d ∈ t.channelDifferences) {pts : Int32} {page : Page}
    {isFinal : Bool} {timeout : Option Int32}
    (hpage : d.2 = .ok (.difference pts page isFinal timeout)) :
    t.channelDifferences = [d] ∧ t.envelopes = pageEnvelopes .newChannelMessage (pts, page) ∧
      t.writes.map (·.1) = [{ record with pts, qts := none }] := by
  have honly : t.channelDifferences = [d] := by
    have hlength : t.channelDifferences.length ≤ 1 := h.bounded.trans (Nat.min_le_left _ _)
    obtain ⟨d', hd'⟩ := List.length_eq_one_iff.1
      (Nat.le_antisymm hlength (List.length_pos_of_mem hd))
    rw [hd', List.mem_singleton] at hd
    rw [hd', hd]
  have hpages : channelPages (channelAnswers t) = [(pts, page)] := by
    rw [channelAnswers, honly, List.map_singleton, hpage]
    rfl
  refine ⟨honly, ?_, ?_⟩
  · rw [h.queued, hpages, List.flatMap_singleton]
  · obtain ⟨answer, hwrites, -, -⟩ := h.writesBack
    rw [hwrites, hpages]
    rfl

/-- Whatever a server answers and whatever the store does, the recovery of a channel catches
up with it exactly if it may not try a second page or its answer was the last.  A page
that is not final is queued and its position written back, and nothing is asked behind it. -/
theorem recoverScope_catchesUp_iff (config : Config) (record : StateRecord) (stats : Stats)
    (hscope : record.scope < 0) (w : Surroundings config.retry) (past : Trace) :
    let t := (w.run (recoverScope config record stats) past).1
    (CatchesUp config.maxDifferencePages t ↔
      config.maxDifferencePages ≤ 1 ∨ ∀ d ∈ t.channelDifferences, ChannelExchange.isLast d) ∧
    ∀ d ∈ t.channelDifferences, ∀ pts page timeout,
      d.2 = .ok (.difference pts page false timeout) →
      t.channelDifferences = [d] ∧ t.envelopes = pageEnvelopes .newChannelMessage (pts, page) ∧
        t.writes.map (·.1) = [{ record with pts, qts := none }] := by
  intro t
  have hrecovery := channelRecovery_of_runs hscope (w.runs_run (recoverScope config record stats) past)
  exact ⟨hrecovery.catchesUp_iff, fun d hd pts page timeout => hrecovery.of_page hd⟩

/-- A channel's record. -/
def channelAtForty : StateRecord where
  scope := .ofChannel 77
  pts := 40

/-- A server with these two pages of a channel, up to positions 42 and 45. -/
def twoPages (isFinal : Bool) : Request → ChannelDifference
  | .getChannelDifference query =>
    if query.pts < 42 then .difference 42 { otherUpdates := [.other "first"] } isFinal none
    else .difference 45 { otherUpdates := [.other "second"] } true none
  | _ => .empty 0 true none

/-- Surroundings with that server, in which every channel is found. -/
def servingTwoPages (isFinal : Bool) : Surroundings RetryPolicy.never where
  invoke _ request := .answered (.channelDifference (twoPages isFinal request))
  resolve _ peer := .ok (.channel (-peer) 0)

/-- A first page that the server marks as final is all that there is to get. -/
theorem recoverScope_catchesUp_iff_finalPage :
    CatchesUp 10 ((servingTwoPages true).run
      (recoverScope { retry := .never, maxDifferencePages := 10 } channelAtForty {}) []).1 := by
  refine (recoverScope_catchesUp_iff { retry := .never, maxDifferencePages := 10 } channelAtForty {}
    (by decide) (servingTwoPages true) []).1.2 (.inr ?_)
  decide

/-- A page that the server marked as not final is the only one that is asked for, although
ten were allowed and the second was to be had. -/
theorem unfinished_channel_is_left :
    let t := ((servingTwoPages false).run
      (recoverScope { retry := .never, maxDifferencePages := 10 } channelAtForty {}) []).1
    t.channelDifferences = [(channelQueryAt 40 10000 (.channel (-channelAtForty.scope) 0),
        .ok (.difference 42 { otherUpdates := [.other "first"] } false none))] ∧
      ¬ CatchesUp 10 t := by
  intro t
  refine ⟨by rfl, fun hcaught => ?_⟩
  obtain hcap | hlost | hlast := hcaught.stops
  · revert hcap
    decide
  · revert hlost
    decide
  · revert hlast
    decide

end Recovery

end UpdatePipeline
