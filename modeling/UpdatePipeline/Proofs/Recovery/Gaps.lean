import UpdatePipeline.Proofs.Program.Determinism
import UpdatePipeline.Proofs.Records
import UpdatePipeline.Proofs.Recovery.Resumption
set_option autoImplicit false

/-!
# The recovery of all scopes

The stored scopes are visited one after the other.  What a visit does is what recovering
its record would do with nothing else stored and nothing counted before
(`Visit.Alone`): of all that happens in the other scopes only a record that cannot be
written back makes a difference, as it ends the recovery.  `GapRecovery` puts together
what that leaves in the store and in the counts, and `recoverGaps_visits_scopes` shows
that every recovery is of this kind.
-/

namespace UpdatePipeline

open Schema Program

namespace Recovery

/-! ## Counting from anywhere -/

theorem Stats.empty_add (s : Stats) : {} + s = s := by
  obtain ⟨messages, updates⟩ := s
  rw [add_mk, Nat.zero_add, Nat.zero_add]

theorem Stats.add_assoc (s t u : Stats) : s + t + u = s + (t + u) := by
  obtain ⟨⟨a, b⟩, ⟨c, d⟩, ⟨e, f⟩⟩ := s, t, u
  simp only [add_mk, Nat.add_assoc]

theorem Stats.count_eq (s : Stats) (page : Page) : s.count page = s + Stats.count {} page := by
  obtain ⟨messages, updates⟩ := s
  simp only [count, add_mk, Nat.zero_add]

/-- The counts of several recoveries together. -/
def Stats.total : List Stats → Stats
  | [] => {}
  | s :: rest => s + total rest

variable {config : Config} {policy : RetryPolicy}

/-- What was counted before is carried along and decides nothing. -/
theorem fetchPages_eq (config : Config) (scope : Scope) (left : Nat) (c : Cursor) (stats : Stats) :
    fetchPages config scope left c stats =
      fetchPages config scope left c {} >>= fun r => pure (r.1, stats + r.2) := by
  induction left generalizing c stats with
  | zero => rfl
  | succ left ih =>
    rw [fetchPages, fetchPages, LawfulMonad.bind_assoc]
    refine bind_congr fun outcome => ?_
    obtain ⟨s, c₁⟩ := outcome
    rcases s with e | (page | page | _)
    · rfl
    · show (do enqueueAll _; fetchPages config scope left c₁ (stats.count page)) =
        (do enqueueAll _; fetchPages config scope left c₁ (Stats.count {} page)) >>= _
      rw [LawfulMonad.bind_assoc]
      refine bind_congr fun _ => ?_
      rw [ih, ih c₁ (Stats.count {} page), LawfulMonad.bind_assoc, stats.count_eq]
      simp only [Stats.add_assoc, LawfulMonad.pure_bind]
    · show (do enqueueAll _; pure (c₁, stats.count page)) =
        (do enqueueAll _; pure (c₁, Stats.count {} page)) >>= _
      rw [LawfulMonad.bind_assoc, stats.count_eq]
      rfl
    · rfl

theorem recoverScope_eq (config : Config) (record : StateRecord) (stats : Stats) :
    recoverScope config record stats =
      recoverScope config record {} >>= fun r => pure (r.map (stats + ·)) := by
  rw [recoverScope, recoverScope, fetchPages_eq, LawfulMonad.bind_assoc, LawfulMonad.bind_assoc]
  refine bind_congr fun reached => ?_
  obtain ⟨c, counts⟩ := reached
  rw [LawfulMonad.pure_bind, LawfulMonad.bind_assoc]
  refine bind_congr fun answer => ?_
  cases answer <;> rfl

/-- The recovery of a scope is that of its record alone, but for the counts. -/
theorem runs_recoverScope_alone {record : StateRecord} {stats : Stats} {t : Trace}
    {result : Except IoError Stats} (h : Runs policy (recoverScope config record stats) t result) :
    ∃ own, Runs policy (recoverScope config record {}) t own ∧ result = own.map (stats + ·) := by
  rw [recoverScope_eq] at h
  obtain ⟨t₁, own, t₂, rfl, hown, hrest⟩ := runs_bind_iff.1 h
  obtain ⟨rfl, rfl⟩ := runs_pure_iff.1 hrest
  rw [List.append_nil]
  exact ⟨own, hown, rfl⟩

/-! ## Visits -/

/-- The visit of one scope. -/
structure Visit where
  record : StateRecord
  trace : Trace
  result : Except IoError Stats

/-- A visit is a recovery of its record alone, with nothing counted before: it is such a
recovery, and wherever its requests, look-ups and writes get the same answers the recovery of
that record alone does the same and comes to the same. -/
structure Visit.Alone (config : Config) (v : Visit) : Prop where
  possible : Runs config.retry (recoverScope config v.record {}) v.trace v.result
  determined : ∀ (w : Surroundings config.retry) (past : Trace), w.Answers past v.trace →
    w.run (recoverScope config v.record {}) past = (v.trace, v.result)

theorem Visit.alone_of_runs {v : Visit}
    (h : Runs config.retry (recoverScope config v.record {}) v.trace v.result) :
    v.Alone config :=
  ⟨h, fun _ _ hanswers => h.run_eq hanswers⟩

/-- Every recovery writes one record, that of its own scope. -/
theorem writesBack_of_runs {record : StateRecord} {stats : Stats} {t : Trace}
    {result : Except IoError Stats} (h : Runs policy (recoverScope config record stats) t result) :
    ∃ new counts, new.scope = record.scope ∧ WritesBack new counts t result := by
  by_cases hscope : record.scope < 0
  · refine ⟨_, _, ?_, (channelRecovery_of_runs hscope h).writesBack⟩
    rfl
  · refine ⟨_, _, ?_, (accountRecovery_of_runs hscope h).writesBack⟩
    rfl

theorem WritesBack.stored?_eq {new : StateRecord} {counts : Stats} {t : Trace}
    {result : Except IoError Stats} (h : WritesBack new counts t result) (scope : Scope) :
    t.stored? scope = if new.scope = scope ∧ result.isOk then some new else none := by
  obtain ⟨answer, hwrites, -, rfl⟩ := h
  rw [Trace.stored?_of_writes_eq hwrites]
  cases answer <;> rfl

/-! ## From scope to scope -/

/-- The scopes of these records are visited in their order, until one of them cannot be
written back. -/
inductive Tour (config : Config) :
    List StateRecord → List Visit → Except IoError Stats → Prop where
  | home : Tour config [] [] (.ok {})
  | brokenOff {v : Visit} {rest : List StateRecord} {e : IoError} :
      v.Alone config → v.result = .error e → Tour config (v.record :: rest) [v] (.error e)
  | onward {v : Visit} {rest : List StateRecord} {visits : List Visit} {counts : Stats}
      {total : Except IoError Stats} :
      v.Alone config → v.result = .ok counts → Tour config rest visits total →
      Tour config (v.record :: rest) (v :: visits) (total.map (counts + ·))

theorem tour_of_runs {records : List StateRecord} {stats : Stats} {t : Trace}
    {result : Except IoError Stats}
    (h : Runs config.retry (recoverScopes config records stats) t result) :
    ∃ visits total, Tour config records visits total ∧ t = visits.flatMap (·.trace) ∧
      result = total.map (stats + ·) := by
  -- a visit leaves behind larger counts and fewer records
  induction records generalizing stats t with
  | nil =>
    obtain ⟨rfl, rfl⟩ := runs_pure_iff.1 h
    exact ⟨[], _, .home, rfl, rfl⟩
  | cons record rest ih =>
    rw [recoverScopes] at h
    obtain ⟨t₁, r, t₂, rfl, hscope, hrest⟩ := runs_bind_iff.1 h
    obtain ⟨own, hown, rfl⟩ := runs_recoverScope_alone hscope
    have halone : Visit.Alone config ⟨record, t₁, own⟩ := Visit.alone_of_runs hown
    cases own with
    | error e =>
      obtain ⟨rfl, rfl⟩ := runs_pure_iff.1 hrest
      exact ⟨_, _, .brokenOff halone rfl, by simp, rfl⟩
    | ok counts =>
      obtain ⟨visits, total, htour, rfl, rfl⟩ := ih hrest
      refine ⟨_, _, .onward halone rfl htour, rfl, ?_⟩
      cases total with
      | error e => rfl
      | ok s => exact congrArg Except.ok (Stats.add_assoc stats counts s)

theorem Tour.inOrder {records : List StateRecord} {visits : List Visit}
    {total : Except IoError Stats} (h : Tour config records visits total) :
    visits.map (·.record) <+: records := by
  induction h with
  | home => exact List.nil_prefix
  | brokenOff _ _ => exact List.cons_prefix_cons.2 ⟨rfl, List.nil_prefix⟩
  | onward _ _ _ ih => exact List.cons_prefix_cons.2 ⟨rfl, ih⟩

theorem Tour.alone {records : List StateRecord} {visits : List Visit}
    {total : Except IoError Stats} (h : Tour config records visits total) :
    ∀ v ∈ visits, v.Alone config := by
  induction h with
  | home => exact fun _ hv => nomatch hv
  | brokenOff halone _ => exact List.forall_mem_singleton.2 halone
  | onward halone _ _ ih => exact List.forall_mem_cons.2 ⟨halone, ih⟩

/-- All scopes were visited and written back, and their counts are put together. -/
def Whole (records : List StateRecord) (visits : List Visit) (total : Except IoError Stats) :
    Prop :=
  visits.map (·.record) = records ∧
    ∃ counts, visits.map (·.result) = counts.map .ok ∧ total = .ok (Stats.total counts)

/-- The last scope visited could not be written back, unlike those before it, and this is
the error. -/
def BrokenOff (visits : List Visit) (total : Except IoError Stats) : Prop :=
  ∃ earlier last e, visits = earlier ++ [last] ∧ (∀ v ∈ earlier, v.result.isOk) ∧
    last.result = .error e ∧ total = .error e

theorem Tour.ending {records : List StateRecord} {visits : List Visit}
    {total : Except IoError Stats} (h : Tour config records visits total) :
    Whole records visits total ∨ BrokenOff visits total := by
  induction h with
  | home => exact .inl ⟨rfl, [], rfl, rfl⟩
  | @brokenOff v _ e _ he => exact .inr ⟨[], v, e, rfl, nofun, he, rfl⟩
  | @onward v rest visits counts total _ hok _ ih =>
    rcases ih with ⟨hall, each, hresults, rfl⟩ | ⟨earlier, last, e, rfl, hearlier, he, rfl⟩
    · refine .inl ⟨congrArg (v.record :: ·) hall, counts :: each, ?_, rfl⟩
      rw [List.map_cons, hok, hresults]
      rfl
    · refine .inr ⟨v :: earlier, last, e, rfl, List.forall_mem_cons.2 ⟨?_, hearlier⟩, he, rfl⟩
      rw [hok]
      rfl

/-! ## What visits leave in the store -/

/-- Where no visit of a scope has written its record back nothing is written. -/
theorem stored?_visits_eq_none {visits : List Visit} {scope : Scope}
    (halone : ∀ v ∈ visits, v.Alone config)
    (hfailed : ∀ v ∈ visits, v.record.scope = scope → ¬ v.result.isOk) :
    Trace.stored? (visits.flatMap (·.trace)) scope = none := by
  induction visits with
  | nil => rfl
  | cons v rest ih =>
    obtain ⟨hv, hrest⟩ := List.forall_mem_cons.1 halone
    obtain ⟨hvfailed, hrestfailed⟩ := List.forall_mem_cons.1 hfailed
    obtain ⟨new, counts, hscope, hwrites⟩ := writesBack_of_runs hv.possible
    rw [List.flatMap_cons, Trace.stored?_append, ih hrest hrestfailed, hwrites.stored?_eq,
      if_neg fun hnew => hvfailed (hscope ▸ hnew.1) hnew.2]
    rfl

/-- Where the scopes differ the visit of a scope has the last word on it. -/
theorem stored?_visits_of_mem {visits : List Visit} {v : Visit}
    (halone : ∀ v ∈ visits, v.Alone config)
    (hscopes : (visits.map (·.record.scope)).Pairwise (· < ·)) (hv : v ∈ visits)
    (hok : v.result.isOk) :
    ∃ new, v.trace.stored? v.record.scope = some new ∧
      Trace.stored? (visits.flatMap (·.trace)) v.record.scope = some new := by
  obtain ⟨new, counts, hscope, hwrites⟩ := writesBack_of_runs (halone v hv).possible
  have hnew : v.trace.stored? v.record.scope = some new := by
    rw [hwrites.stored?_eq, if_pos ⟨hscope, hok⟩]
  refine ⟨new, hnew, ?_⟩
  obtain ⟨before, after, rfl⟩ := List.append_of_mem hv
  -- the visits behind it are of higher scopes
  have hafter : Trace.stored? (after.flatMap (·.trace)) v.record.scope = none := by
    have hlater : ∀ u ∈ after, u.Alone config := fun u hu => halone u (by simp [hu])
    refine stored?_visits_eq_none hlater ?_
    intro u hu hsame
    rw [List.map_append, List.map_cons, List.pairwise_append, List.pairwise_cons] at hscopes
    have hlt := hscopes.2.1.1 u.record.scope (List.mem_map_of_mem hu)
    rw [hsame] at hlt
    exact (Int64.lt_irrefl hlt).elim
  rw [List.flatMap_append, List.flatMap_cons, Trace.stored?_append, Trace.stored?_append, hafter,
    hnew]
  rfl

/-! ## Every scope of a store -/

/-- A recovery of all scopes, of a store with these records, made up of these visits. -/
structure GapRecovery (config : Config) (stored : Records) (visits : List Visit) (t : Trace)
    (result : Except InvocationError Stats) : Prop where
  /-- The store lists its scopes once each and ascending. -/
  ascending : (stored.values.map (·.scope)).Pairwise (· < ·)
  /-- It lists all that it holds. -/
  listed : ∀ r, r ∈ stored.values ↔ stored.find? r.scope = some r
  /-- The scopes are visited as they are listed, from the first on. -/
  inOrder : visits.map (·.record) <+: stored.values
  /-- In each of them happens what would happen if it were alone. -/
  alone : ∀ v ∈ visits, v.Alone config
  /-- Beside the visits there is nothing but the listing before and a notice behind them. -/
  visited : ∃ notices,
    t = .listed (.ok stored.values) :: (visits.flatMap (·.trace) ++ Trace.ofNotices notices)
  /-- A visit writes its scope's record back, and nothing but a failure of that is its error. -/
  writesBack : ∀ v ∈ visits, ∃ new counts, new.scope = v.record.scope ∧
    WritesBack new counts v.trace v.result
  /-- Either all scopes are visited, or the last one visited could not be written back. -/
  ending : ∃ total, result = total.mapError .io ∧
    (Whole stored.values visits total ∨ BrokenOff visits total)
  /-- A scope that was written back has the record that its visit wrote. -/
  moved : ∀ v ∈ visits, v.result.isOk → ∃ new, v.trace.stored? v.record.scope = some new ∧
    (t.applyTo stored).find? v.record.scope = some new
  /-- Every other one, stored or not, is as it was. -/
  kept : ∀ scope, (∀ v ∈ visits, v.record.scope = scope → ¬ v.result.isOk) →
    (t.applyTo stored).find? scope = stored.find? scope

/-- A recovery of all scopes lists the store; the rest is a tour of what is listed. -/
theorem runs_recoverGaps {t : Trace} {result : Except InvocationError Stats}
    (h : Runs config.retry (recoverGaps config) t result) :
    ∃ answer t', t = .listed answer :: t' ∧
      match answer with
      | .error e => t' = [] ∧ result = .error (.io e)
      | .ok records => ∃ visits total notices, Tour config records visits total ∧
          t' = visits.flatMap (·.trace) ++ Trace.ofNotices notices ∧
          result = total.mapError .io := by
  unfold recoverGaps at h
  obtain ⟨t₁, answer, t₂, rfl, hlist, hrest⟩ := runs_bind_iff.1 h
  obtain rfl := runs_records_iff.1 hlist
  refine ⟨answer, t₂, rfl, ?_⟩
  rcases answer with e | (_ | ⟨record, rest⟩)
  · exact runs_pure_iff.1 hrest
  · obtain ⟨t₃, u, t₄, rfl, hnotify, hdone⟩ := runs_bind_iff.1 hrest
    obtain ⟨rfl, rfl⟩ := runs_pure_iff.1 hdone
    refine ⟨[], .ok {}, [.nothingToRecover], .home, ?_, rfl⟩
    rw [runs_notify_iff.1 hnotify, List.append_nil]
    rfl
  · obtain ⟨t₃, total, t₄, rfl, hscopes, hrest⟩ := runs_bind_iff.1 hrest
    obtain ⟨visits, own, htour, rfl, rfl⟩ := tour_of_runs hscopes
    refine ⟨visits, own, ?_⟩
    cases own with
    | error e =>
      obtain ⟨rfl, rfl⟩ := runs_pure_iff.1 hrest
      exact ⟨[], htour, rfl, rfl⟩
    | ok total =>
      obtain ⟨t₅, u, t₆, rfl, hnotify, hdone⟩ := runs_bind_iff.1 hrest
      obtain ⟨rfl, rfl⟩ := runs_pure_iff.1 hdone
      refine ⟨_, htour, by rw [runs_notify_iff.1 hnotify, List.append_nil], ?_⟩
      exact congrArg Except.ok (Stats.empty_add total)

theorem gapRecovery_of_tour {stored : Records} {visits : List Visit}
    {total : Except IoError Stats} (hkeyed : stored.IsKeyed)
    (h : Tour config stored.values visits total) (notices : List Notice) :
    GapRecovery config stored visits
      (.listed (.ok stored.values) :: (visits.flatMap (·.trace) ++ Trace.ofNotices notices))
      (total.mapError .io) := by
  have hstored : ∀ scope, Trace.stored? (.listed (.ok stored.values) ::
      (visits.flatMap (·.trace) ++ Trace.ofNotices notices)) scope =
      Trace.stored? (visits.flatMap (·.trace)) scope := by
    intro scope
    have hnotices : (Trace.ofNotices notices).stored? scope = none := by
      rw [Trace.stored?, Trace.writes_ofNotices]
      rfl
    rw [Trace.stored?_cons, Trace.stored?_append, hnotices]
    exact Option.or_none
  have hscopes : (visits.map (·.record.scope)).Pairwise (· < ·) := by
    have hprefix := h.inOrder.map (·.scope)
    rw [List.map_map] at hprefix
    exact hkeyed.ascending_values.sublist hprefix.sublist
  constructor
  case ascending => exact hkeyed.ascending_values
  case listed => exact fun r => hkeyed.mem_values_iff
  case inOrder => exact h.inOrder
  case alone => exact h.alone
  case visited => exact ⟨notices, rfl⟩
  case writesBack => exact fun v hv => writesBack_of_runs (h.alone v hv).possible
  case ending => exact ⟨total, rfl, h.ending⟩
  case moved =>
    intro v hv hok
    obtain ⟨new, hnew, hlast⟩ := stored?_visits_of_mem h.alone hscopes hv hok
    refine ⟨new, hnew, ?_⟩
    rw [Trace.find?_applyTo, hstored, hlast]
    rfl
  case kept =>
    intro scope hfailed
    rw [Trace.find?_applyTo, hstored, stored?_visits_eq_none h.alone hfailed]
    rfl

/-! ## Where the account's requests start -/

/-- The account's difference is not asked for on behalf of a channel. -/
theorem Visit.Alone.differences_of_channel {v : Visit} (h : v.Alone config)
    (hscope : v.record.scope < 0) : v.trace.differences = [] := by
  refine Trace.differences_eq_nil fun r hr q hq => ?_
  rw [(channelRecovery_of_runs hscope h.possible).requests] at hr
  obtain ⟨d, -, rfl⟩ := List.mem_map.1 hr
  cases hq

/-- Elsewhere it is asked for if pages may be asked for at all, and first from the record on. -/
theorem Visit.Alone.differences_of_account {v : Visit} (h : v.Alone config)
    (hscope : ¬ v.record.scope < 0) :
    (v.trace.differences = [] ↔ config.maxDifferencePages = 0) ∧
      ∀ d ∈ v.trace.differences.head?, d.1 = queryAt v.record.pts (v.record.date.getD 0) := by
  have haccount := accountRecovery_of_runs hscope h.possible
  refine ⟨⟨fun hnone => ?_, fun hmost => ?_⟩, haccount.first⟩
  · have hall := haccount.exhaustive
    rw [answers, hnone] at hall
    exact (hall rfl).symm
  · have hbound := haccount.bounded
    rw [hmost] at hbound
    exact List.eq_nil_of_length_eq_zero (Nat.le_zero.1 hbound)

/-- The first request for the account's difference is made from its record on. -/
theorem GapRecovery.first_difference {stored : Records} {visits : List Visit} {t : Trace}
    {result : Except InvocationError Stats} (h : GapRecovery config stored visits t result)
    {record : StateRecord} (hstored : record ∈ stored.values) (hscope : record.scope = .account) :
    ∀ d ∈ t.differences.head?, d.1 = queryAt record.pts (record.date.getD 0) := by
  intro d hd
  obtain ⟨notices, rfl⟩ := h.visited
  have hvisits : Trace.differences (.listed (.ok stored.values) ::
      (visits.flatMap (·.trace) ++ Trace.ofNotices notices)) =
      visits.flatMap (·.trace.differences) := by
    change Trace.differences (visits.flatMap (·.trace) ++ Trace.ofNotices notices) = _
    rw [Trace.differences_append, Trace.differences_ofNotices, List.append_nil, Trace.differences,
      List.filterMap_flatMap]
    rfl
  rw [hvisits, List.head?_flatMap] at hd
  obtain ⟨before, v, after, rfl, hv, hbefore⟩ := List.findSome?_eq_some_iff.1 hd
  have halone : v.Alone config := h.alone v (by simp)
  have hasks : v.trace.differences ≠ [] := fun hnone => by simp [hnone] at hv
  have haccount : ¬ v.record.scope < 0 := fun hchannel =>
    hasks (halone.differences_of_channel hchannel)
  -- the record is listed before the one with the first request, or is that one, or comes later
  obtain ⟨rest, hprefix⟩ := h.inOrder
  have hlist : before.map (·.record) ++ v.record :: (after.map (·.record) ++ rest) =
      stored.values := by
    rw [← hprefix, List.map_append, List.map_cons, List.append_assoc, List.cons_append]
  have hascending := h.ascending
  rw [← hlist] at hstored hascending
  rcases List.mem_append.1 hstored with hearlier | hlater
  · -- its visit would have asked first, unless no pages may be asked for
    obtain ⟨u, hu, rfl⟩ := List.mem_map.1 hearlier
    have hnone := List.head?_eq_none_iff.1 (hbefore u hu)
    have hu := (h.alone u (by simp [hu])).differences_of_account (by rw [hscope]; decide)
    have hmost := hu.1.1 hnone
    exact absurd ((halone.differences_of_account haccount).1.2 hmost) hasks
  · rcases List.mem_cons.1 hlater with rfl | hlater
    · exact (halone.differences_of_account haccount).2 d hv
    · rw [List.map_append, List.map_cons, List.pairwise_append, List.pairwise_cons] at hascending
      have hlt := hascending.2.1.1 record.scope (List.mem_map_of_mem hlater)
      rw [hscope] at hlt
      exact absurd hlt haccount

/-! ## Whatever is stored -/

theorem run_recoverGaps_of_listFault (w : Surroundings config.retry) {past : Trace} {e : IoError}
    (h : w.listFault past = some e) :
    w.run (recoverGaps config) past = ([.listed (.error e)], .error (.io e)) := by
  have hlisting : w.listing past = .error e := by rw [Surroundings.listing, h]
  have hanswers : w.Answers past [.listed (.error e)] := ⟨hlisting, trivial⟩
  exact Runs.run_eq (.listRecords (.done _)) hanswers

/-- A recovery that gets to see all that is stored. -/
theorem gapRecovery_of_runs {stored : Records} (hkeyed : stored.IsKeyed) {t : Trace}
    {result : Except InvocationError Stats} (h : Runs config.retry (recoverGaps config) t result)
    (hlisted : t.head? = some (.listed (.ok stored.values))) :
    ∃ visits, GapRecovery config stored visits t result := by
  obtain ⟨answer, t', rfl, hrest⟩ := runs_recoverGaps h
  obtain rfl : answer = .ok stored.values := Event.listed.inj (Option.some.inj hlisted)
  obtain ⟨visits, total, notices, htour, rfl, rfl⟩ := hrest
  exact ⟨visits, gapRecovery_of_tour hkeyed htour notices⟩

/-- If every write succeeds all scopes are recovered, and so is the store. -/
theorem GapRecovery.whole {stored : Records} {visits : List Visit} {t : Trace}
    {result : Except InvocationError Stats} (h : GapRecovery config stored visits t result)
    (hok : ∀ w ∈ t.writes, w.2.isOk) :
    visits.map (·.record) = stored.values ∧ ∃ stats, result = .ok stats := by
  obtain ⟨total, rfl, ⟨hall, counts, -, rfl⟩ | ⟨earlier, last, e, rfl, -, hfailed, -⟩⟩ := h.ending
  · exact ⟨hall, _, rfl⟩
  · have hlast : last ∈ earlier ++ [last] := List.mem_append_right _ (List.mem_singleton_self last)
    obtain ⟨new, counts, -, answer, hwrites, -, hanswer⟩ := h.writesBack last hlast
    obtain ⟨notices, rfl⟩ := h.visited
    have hmem : (new, answer) ∈ Trace.writes
        (.listed (.ok stored.values) ::
          ((earlier ++ [last]).flatMap (·.trace) ++ Trace.ofNotices notices)) := by
      have hown : (new, answer) ∈ last.trace.writes := by
        rw [hwrites]
        exact List.mem_singleton_self _
      obtain ⟨event, hevent, hwrite⟩ := List.mem_filterMap.1 hown
      have hvisited : event ∈ (earlier ++ [last]).flatMap (·.trace) :=
        List.mem_flatMap.2 ⟨last, hlast, hevent⟩
      exact List.mem_filterMap.2
        ⟨event, List.mem_cons_of_mem _ (List.mem_append_left _ hvisited), hwrite⟩
    have hsucceeded := hok _ hmem
    rw [hfailed] at hanswer
    cases answer with
    | error e' => cases hsucceeded
    | ok u => cases hanswer

theorem gapRecovery_run (w : Surroundings config.retry) (hkeyed : w.records.IsKeyed)
    {past : Trace} (h : w.listFault past = none) :
    ∃ visits, GapRecovery config (past.applyTo w.records) visits
      (w.run (recoverGaps config) past).1 (w.run (recoverGaps config) past).2 := by
  have hlisting : w.listing past = .ok (past.applyTo w.records).values := by
    rw [Surroundings.listing, h]
  refine gapRecovery_of_runs (hkeyed.applyTo past) (w.runs_run (recoverGaps config) past) ?_
  rw [← hlisting]
  rfl

/-- The recovery of all scopes, whatever is stored and whatever server, store and retry policy
it meets, does in each scope what it would do if that one were alone.  If the store cannot be
listed, nothing happens at all. -/
theorem recoverGaps_visits_scopes (config : Config) (records : List StateRecord)
    (w : Surroundings config.retry) (past : Trace) :
    let stored := past.applyTo (.ofList records)
    let (t, result) := (w.holding records).run (recoverGaps config) past
    match w.listFault past with
    | some e => t = [.listed (.error e)] ∧ result = .error (.io e)
    | none => ∃ visits, GapRecovery config stored visits t result := by
  intro stored
  cases hfault : w.listFault past with
  | some e =>
    rw [run_recoverGaps_of_listFault (w.holding records) hfault]
    exact ⟨rfl, rfl⟩
  | none =>
    exact gapRecovery_run (w.holding records) (Records.isKeyed_ofList records) hfault

end Recovery

end UpdatePipeline
