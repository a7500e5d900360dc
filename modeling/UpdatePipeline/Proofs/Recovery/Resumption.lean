import UpdatePipeline.Proofs.Recovery.Conversation
set_option autoImplicit false

/-!
# Recoveries taken up again

The account's recovery may be cut short, by the limit on its pages or by a request that
fails, and be taken up later from the record that it wrote.  Where the server's slices
lead on, nothing is lost by that and nothing comes twice: both recoveries together do what
one does that is not cut short (`recoverScope_resumes`).
-/

namespace UpdatePipeline

open Schema Program

namespace Recovery

/-! ## Counting in two parts -/

/-- The counts of two recoveries together. -/
instance : Add Stats := ⟨fun s t => ⟨s.messages + t.messages, s.updates + t.updates⟩⟩

theorem Stats.add_mk (a b c d : Nat) : (⟨a, b⟩ : Stats) + ⟨c, d⟩ = ⟨a + c, b + d⟩ := rfl

/-- What these pages add to the counts. -/
def Stats.ofPages (pages : List (Int32 × Page)) : Stats := Stats.countAll {} pages

theorem Stats.countAll_eq (s : Stats) (pages : List (Int32 × Page)) :
    s.countAll pages = s + ofPages pages := by
  simp only [ofPages, countAll, Nat.zero_add]
  rfl

theorem Stats.ofPages_append (ps qs : List (Int32 × Page)) :
    ofPages (ps ++ qs) = ofPages ps + ofPages qs := by
  simp only [ofPages, countAll, Nat.zero_add, List.flatMap_append, List.length_append, add_mk]

/-! ## Recoveries of one record -/

variable {server : Server} {record saved : StateRecord}

/-- A recovery of a record's scope with this server, whatever its configuration and
surroundings are otherwise, and however much was counted before it. -/
structure ScopeRun (server : Server) (record : StateRecord) where
  config : Config
  surroundings : Surroundings config.retry
  past : Trace
  before : Stats
  served : ServedBy server
    (Trace.differences (surroundings.run (recoverScope config record before) past).1)

/-- The record to write back when these requests were granted. -/
def landing (server : Server) (record : StateRecord) (qs : List DifferenceQuery) : StateRecord where
  scope := record.scope
  pts := (reached record.pts record.date (replies server qs)).1
  qts := none
  date := (reached record.pts record.date (replies server qs)).2

namespace ScopeRun

section

variable (run : ScopeRun server record)

/-- What it did. -/
def trace : Trace := (run.surroundings.run (recoverScope run.config record run.before) run.past).1

/-- What it came to. -/
def result : Except IoError Stats :=
  (run.surroundings.run (recoverScope run.config record run.before) run.past).2

/-- The requests that it made with success. -/
def requests : List DifferenceQuery := granted run.trace.differences

/-- So much it adds to the counts if it succeeds. -/
def Counts (stats : Stats) : Prop := ∀ total, run.result = .ok total → total = run.before + stats

/-- It was cut short after so many slices, by the limit on its pages or by a failure. -/
def CutAfter (k : Nat) : Prop :=
  Recovery.CutAfter run.config.maxDifferencePages k (answers run.trace)

/-- It was not cut short. -/
def Uncut : Prop := ∀ k, ¬ run.CutAfter k

end

variable {run : ScopeRun server record}

theorem accountRecovery (run : ScopeRun server record) (hscope : ¬ record.scope < 0) :
    AccountRecovery run.config record run.before run.trace run.result :=
  accountRecovery_of_runs hscope (run.surroundings.runs_run _ _)

theorem conversation (run : ScopeRun server record) (hscope : ¬ record.scope < 0) :
    Conversation server (placeOf record) run.trace.differences :=
  conversation_of_isChain run.served (run.accountRecovery hscope).first
    (run.accountRecovery hscope).later

/-- The requests that were granted tell what was queued. -/
theorem envelopes_eq (hadvances : Advances server) (hscope : ¬ record.scope < 0) :
    run.trace.envelopes =
      (pagesOf (replies server run.requests)).flatMap (pageEnvelopes .newMessage) := by
  rw [(run.accountRecovery hscope).queued, answers,
    (run.conversation hscope).acceptedPages_eq hadvances]
  rfl

theorem writesBack (hadvances : Advances server) (hscope : ¬ record.scope < 0) :
    WritesBack (landing server record run.requests)
      (run.before + Stats.ofPages (pagesOf (replies server run.requests))) run.trace run.result := by
  have hwrites := (run.accountRecovery hscope).writesBack
  have hreached := (run.conversation hscope).reached_eq
  have hpages := (run.conversation hscope).acceptedPages_eq hadvances
  rw [Stats.countAll_eq, answers, hpages] at hwrites
  rw [placeOf] at hreached
  rw [hreached] at hwrites
  exact hwrites

theorem counts (hadvances : Advances server) (hscope : ¬ record.scope < 0) :
    run.Counts (Stats.ofPages (pagesOf (replies server run.requests))) := by
  intro total htotal
  obtain ⟨answer, -, -, hresult⟩ := run.writesBack hadvances hscope
  rw [htotal] at hresult
  cases answer with
  | error e => cases hresult
  | ok u => exact Except.ok.inj hresult

theorem eq_landing (hadvances : Advances server) (hscope : ¬ record.scope < 0)
    (hsaved : run.trace.stored? record.scope = some saved) :
    saved = landing server record run.requests := by
  obtain ⟨answer, hwrites, -, -⟩ := run.writesBack hadvances hscope
  rw [Trace.stored?, hwrites] at hsaved
  cases answer with
  | error e => simp [Except.isOk, Except.toBool] at hsaved
  | ok u => simpa [landing, Except.isOk, Except.toBool, eq_comm] using hsaved

/-- A recovery cut short has gone a path of slices, to where the record lies that it
wrote. -/
theorem slices_of_cutAfter {k : Nat} (hadvances : Advances server)
    (hscope : ¬ record.scope < 0) (hcut : run.CutAfter k)
    (hsaved : run.trace.stored? record.scope = some saved) :
    Slices server (placeOf record) run.requests (placeOf saved) ∧ run.requests.length = k := by
  rw [run.eq_landing hadvances hscope hsaved]
  exact (run.conversation hscope).slices_of_cutAfter hcut

theorem settles_of_uncut (hadvances : Advances server) (hscope : ¬ record.scope < 0)
    (huncut : run.Uncut) : Settles server (placeOf record) run.requests := by
  refine (run.conversation hscope).settles_of_not_cutAfter hadvances ?_ huncut
  exact (run.accountRecovery hscope).exhaustive

end ScopeRun

/-! ## A server that never fails -/

/-- Surroundings in which this server answers every request for a difference. -/
def Server.serving (server : Server) (policy : RetryPolicy) : Surroundings policy where
  invoke _ request :=
    match request with
    | .getDifference q => .answered (.difference (server q))
    | _ => .answered (.state {})
  resolve _ _ := .error .dropped

theorem Server.difference_serving {α : Type} (server : Server) (policy : RetryPolicy)
    {p : Program α} {past : Trace} {d : DifferenceQuery × Answer}
    (hd : d ∈ Trace.differences ((server.serving policy).run p past).1) :
    d.2 = .ok (server d.1) := by
  obtain ⟨_, hanswer⟩ := Surroundings.invoke_of_mem_differences _ hd
  exact hanswer

/-- The recovery of a record with this server and so many pages at most. -/
def ScopeRun.serving (server : Server) (record : StateRecord) (pages : Nat) :
    ScopeRun server record where
  config := { maxDifferencePages := pages }
  surroundings := server.serving _
  past := []
  before := {}
  served _ hd := .inl (server.difference_serving _ hd)

theorem ScopeRun.uncut_serving {all : List DifferenceQuery} {pages : Nat}
    (hscope : ¬ record.scope < 0) (hall : Settles server (placeOf record) all)
    (hpages : all.length ≤ pages) : (ScopeRun.serving server record pages).Uncut := by
  intro k
  apply (ScopeRun.conversation _ hscope).not_cutAfter hall hpages
  intro d hd
  rw [server.difference_serving _ hd]
  rfl

/-! ## Both parts and the whole -/

/-- Two recoveries, the second from the record that the first wrote, do together what a
whole one does. -/
structure Resumes (first : ScopeRun server record) (second : ScopeRun server saved)
    (whole : ScopeRun server record) : Prop where
  envelopes : whole.trace.envelopes = first.trace.envelopes ++ second.trace.envelopes
  requests : whole.requests = first.requests ++ second.requests
  counted : ∃ s₁ s₂, first.Counts s₁ ∧ second.Counts s₂ ∧ whole.Counts (s₁ + s₂)
  /-- The record that the second leaves is that of the whole. -/
  stored : ∃ final, second.trace.writes.map (·.1) = [final] ∧ whole.trace.writes.map (·.1) = [final]

theorem resumes_of_requests (hadvances : Advances server) (hscope : ¬ record.scope < 0)
    {first : ScopeRun server record} (hsaved : first.trace.stored? record.scope = some saved)
    {second : ScopeRun server saved} {whole : ScopeRun server record}
    (hrequests : whole.requests = first.requests ++ second.requests) :
    Resumes first second whole := by
  obtain rfl := first.eq_landing hadvances hscope hsaved
  have hpages : pagesOf (replies server whole.requests) =
      pagesOf (replies server first.requests) ++ pagesOf (replies server second.requests) := by
    rw [hrequests, replies_append, pagesOf_append]
  constructor
  case envelopes =>
    rw [whole.envelopes_eq hadvances hscope, first.envelopes_eq hadvances hscope,
      second.envelopes_eq hadvances hscope, hpages, List.flatMap_append]
  case requests => exact hrequests
  case counted =>
    refine ⟨_, _, first.counts hadvances hscope, second.counts hadvances hscope, ?_⟩
    rw [← Stats.ofPages_append, ← hpages]
    exact whole.counts hadvances hscope
  case stored =>
    obtain ⟨_, hsecond, -, -⟩ := second.writesBack hadvances hscope
    obtain ⟨_, hwhole, -, -⟩ := whole.writesBack hadvances hscope
    refine ⟨_, by rw [hsecond]; rfl, ?_⟩
    rw [hwhole, hrequests]
    simp only [landing, replies_append, reached_append, List.map_cons, List.map_nil]

/-- A recovery of the account that is cut short after any number of slices, and then taken
up from the record that it wrote and not cut short again, loses nothing and brings nothing
twice: a recovery that is not cut short at all is possible, and every such one does the
same as both together. -/
theorem recoverScope_resumes {k : Nat} (hadvances : Advances server) (hscope : 0 ≤ record.scope)
    (first : ScopeRun server record) (hcut : first.CutAfter k)
    (hsaved : first.trace.stored? record.scope = some saved)
    (second : ScopeRun server saved) (huncut : second.Uncut) :
    (∃ whole : ScopeRun server record, whole.Uncut) ∧
      ∀ whole : ScopeRun server record, whole.Uncut → Resumes first second whole := by
  have haccount : ¬ record.scope < 0 := Int64.not_lt.2 hscope
  have hsame : saved.scope = record.scope := by
    rw [first.eq_landing hadvances haccount hsaved]
    rfl
  obtain ⟨hslices, -⟩ := first.slices_of_cutAfter hadvances haccount hcut hsaved
  have hrest := second.settles_of_uncut hadvances (hsame ▸ haccount) huncut
  have hall := hslices.settles_append hrest
  refine ⟨⟨_, ScopeRun.uncut_serving haccount hall (Nat.le_refl _)⟩, ?_⟩
  intro whole hwhole
  -- both parts have gone to the end together, and there is one path to it
  apply resumes_of_requests hadvances haccount hsaved
  exact (whole.settles_of_uncut hadvances haccount hwhole).unique hall

/-- A server with two slices, up to positions 3 and 6, and a rest. -/
def Server.staircase : Server := fun q =>
  if q.pts < 3 then .slice { otherUpdates := [.other "first"] } { pts := 3, date := 10 }
  else if q.pts < 6 then .slice { otherUpdates := [.other "second"] } { pts := 6, date := 20 }
  else .difference { otherUpdates := [.other "third"] } { pts := 7, date := 30 }

theorem Server.advances_staircase : Advances Server.staircase := by
  intro q page state hslice
  rw [staircase] at hslice
  split at hslice
  · obtain ⟨-, rfl⟩ := Difference.slice.inj hslice
    rename_i hlow
    exact ⟨by decide, hlow⟩
  · split at hslice
    · obtain ⟨-, rfl⟩ := Difference.slice.inj hslice
      rename_i hlow
      exact ⟨by decide, hlow⟩
    · cases hslice

theorem recoverScope_resumes_staircase :
    let record : StateRecord := { scope := 0, pts := 1 }
    let saved : StateRecord := { scope := 0, pts := 3, date := some 10 }
    Resumes (.serving .staircase record 1) (.serving .staircase saved 2)
      (.serving .staircase record 3) := by
  intro record saved
  have hlower : Slices Server.staircase (placeOf record) [(placeOf record).query] (placeOf saved) :=
    .more rfl (.none _)
  have hupper : Settles Server.staircase (placeOf saved)
      [(placeOf saved).query, Place.query (6, some 20)] := by
    refine ⟨[_], (6, some 20), .more rfl (.none _), ?_, rfl⟩
    rintro ⟨page, state, h⟩
    cases h
  refine (recoverScope_resumes (k := 1) Server.advances_staircase (by decide)
    (.serving .staircase record 1) ?_ ?_ (.serving .staircase saved 2) ?_).2 _ ?_
  · exact ⟨[.ok (Server.staircase (placeOf record).query)], [], rfl, rfl,
      hlower.isSlice, .inl ⟨rfl, rfl⟩⟩
  · rfl
  · exact ScopeRun.uncut_serving (by decide) hupper (by decide)
  · exact ScopeRun.uncut_serving (by decide) (hlower.settles_append hupper) (by decide)

end Recovery

end UpdatePipeline
