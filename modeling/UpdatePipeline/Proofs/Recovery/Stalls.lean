import UpdatePipeline.Proofs.Recovery.Resumption
set_option autoImplicit false

/-!
# Stalled recoveries

A slice that ends where it was asked from brings the account no further, and a recovery is to
end with it instead of asking for the same again; any other slice is to be queued and gone on
from (`Judged`).  What the recovery compares is where the slice before ended.  That is where the
next one is asked from, so of the later slices exactly the stalled ones are found.  Before the
first slice there is none, and 0 stands in for it: the first slice is judged rightly if it lies
at 0 just when it is stalled, and otherwise a stall is taken for progress, or an end at 0 for a
stall (`recoverScope_detects_stalls`).
-/

namespace UpdatePipeline

open Schema Program

namespace Recovery

/-- What was asked about the account, and what came of it. -/
abbrev Exchange := DifferenceQuery × Answer

/-- The envelopes of all pages that came of these exchanges. -/
def delivered (exchanges : List Exchange) : List Envelope :=
  (pagesOf (exchanges.map (·.2))).flatMap (pageEnvelopes .newMessage)

/-- A recovery is over after these exchanges and one more: no other follows, and only what came
of these is queued. -/
structure EndsAfter (before after : List Exchange) (t : Trace) : Prop where
  last : after = []
  unqueued : t.envelopes = delivered before

/-- A recovery goes on from the slice of an exchange: its page is queued behind all earlier ones,
and as long as more pages are allowed the next request starts where the slice ended. -/
structure GoesOnFrom (allowed : Nat) (before : List Exchange) (query : DifferenceQuery) (page : Page)
    (state : AccountState) (after : List Exchange) (t : Trace) : Prop where
  queued : delivered (before ++ [(query, .ok (.slice page state))]) <+: t.envelopes
  asks : before.length + 1 < allowed → ∃ next ∈ after.head?, next.1 = queryAt state.pts state.date

/-- A slice is judged by whether it ends where it was asked from. -/
structure Judged (allowed : Nat) (before : List Exchange) (query : DifferenceQuery) (page : Page)
    (state : AccountState) (after : List Exchange) (t : Trace) : Prop where
  stalled : state.pts = query.pts → EndsAfter before after t
  moved : state.pts ≠ query.pts → GoesOnFrom allowed before query page state after t

/-- Behind at least one slice the next request starts where the last one ended. -/
theorem reached_eq_of_isChain {before after : List Exchange} {next : Exchange}
    (h : (before ++ next :: after).IsChain FollowsSlice) (hbefore : before ≠ []) (pts : Int32)
    (date : Option Int32) : (reached pts date (before.map (·.2))).1 = next.1.pts := by
  obtain ⟨earlier, last, rfl⟩ := (List.eq_nil_or_concat before).resolve_left hbefore
  obtain ⟨-, -, hlink⟩ := List.isChain_append.1 h
  obtain ⟨page, state, hlast, hnext⟩ := hlink last (by simp) next rfl
  rw [List.concat_eq_append, List.map_append, reached_append, List.map_singleton, hlast, hnext]
  rfl

/-! ## Judging a slice -/

variable {config : Config} {record : StateRecord} {stats : Stats} {t : Trace}
  {result : Except IoError Stats} {before after : List Exchange} {query : DifferenceQuery}
  {page : Page} {state : AccountState}

/-- What the position of a slice behind these exchanges is compared with. -/
def compared (before : List Exchange) : Int32 := (reached 0 none (before.map (·.2))).1

/-- The exchanges before an answer all brought slices that count. -/
theorem AccountRecovery.accepted_before (h : AccountRecovery config record stats t result)
    {d : Exchange} (hsplit : t.differences = before ++ d :: after) :
    allAccepted 0 (before.map (·.2)) := by
  have haccepted := h.accepted
  rw [answers, hsplit, List.map_append, List.map_cons,
    List.dropLast_append_of_ne_nil (List.cons_ne_nil _ _), allAccepted_append 0 none,
    Bool.and_eq_true] at haccepted
  exact haccepted.1

/-- Their pages are queued first, and then what counts from the answer on. -/
theorem AccountRecovery.envelopes_of_split (h : AccountRecovery config record stats t result)
    {d : Exchange} (hsplit : t.differences = before ++ d :: after) :
    t.envelopes = delivered before ++
      (acceptedPages (compared before) (d.2 :: after.map (·.2))).flatMap
        (pageEnvelopes .newMessage) := by
  rw [h.queued, answers, hsplit, List.map_append, acceptedPages_append none (h.accepted_before hsplit),
    List.flatMap_append]
  rfl

/-- A slice that ends where it is compared with is the last answer and not queued. -/
theorem AccountRecovery.endsAfter (h : AccountRecovery config record stats t result)
    (hsplit : t.differences = before ++ (query, .ok (.slice page state)) :: after)
    (hsame : state.pts = compared before) : EndsAfter before after t := by
  have hlast : after = [] := by
    -- behind another answer it would have had to count
    by_contra hafter
    have haccepted := h.accepted
    rw [answers, hsplit, List.map_append, List.map_cons,
      List.dropLast_append_of_ne_nil (List.cons_ne_nil _ _),
      List.dropLast_cons_of_ne_nil (by simpa using hafter), allAccepted_append 0 none, allAccepted,
      hsame] at haccepted
    simp [compared] at haccepted
  refine ⟨hlast, ?_⟩
  rw [h.envelopes_of_split hsplit, hlast, List.map_nil, acceptedPages, if_pos hsame, acceptedPages,
    List.flatMap_nil, List.append_nil]

/-- Any other slice is queued and gone on from. -/
theorem AccountRecovery.goesOnFrom (h : AccountRecovery config record stats t result)
    (hsplit : t.differences = before ++ (query, .ok (.slice page state)) :: after)
    (hnew : state.pts ≠ compared before) :
    GoesOnFrom config.maxDifferencePages before query page state after t := by
  constructor
  case queued =>
    have hone : delivered (before ++ [(query, .ok (.slice page state))]) =
        delivered before ++ pageEnvelopes .newMessage (state.pts, page) := by
      rw [delivered, List.map_append, pagesOf_append, List.flatMap_append]
      exact congrArg (_ ++ ·) (List.append_nil _)
    rw [h.envelopes_of_split hsplit, acceptedPages_slice hnew, List.flatMap_cons, hone,
      List.prefix_append_right_inj]
    exact List.prefix_append _ _
  case asks =>
    intro hallowed
    cases after with
    | nil =>
      -- then all slices count, and so many are asked for as are allowed
      have hall : allAccepted 0 (answers t) := by
        rw [answers, hsplit, List.map_append, allAccepted_append 0 none, h.accepted_before hsplit,
          Bool.true_and, List.map_singleton]
        simpa [allAccepted, compared] using hnew
      have hlength := h.exhaustive hall
      rw [hsplit, List.length_append, List.length_singleton] at hlength
      omega
    | cons next later =>
      have hlater := h.later
      rw [hsplit] at hlater
      have hlink := (List.isChain_cons_cons.1 (List.isChain_append.1 hlater).2.1).1
      obtain ⟨_, _, hanswer, hnext⟩ := hlink
      obtain ⟨rfl, rfl⟩ := Difference.slice.inj (Except.ok.inj hanswer)
      exact ⟨next, rfl, hnext⟩

/-- A later slice is compared with where it was asked from. -/
theorem AccountRecovery.compared_eq (h : AccountRecovery config record stats t result)
    {d : Exchange} (hsplit : t.differences = before ++ d :: after) (hbefore : before ≠ []) :
    compared before = d.1.pts :=
  reached_eq_of_isChain (hsplit ▸ h.later) hbefore 0 none

/-- Whatever a server answers, every slice but the first of a recovery is judged rightly: one that
ends where it was asked from ends the recovery and is not queued, and any other is queued and,
as long as more pages are allowed, gone on from.  The first slice ends the recovery if it lies
at 0 and is gone on from if not, so it is judged rightly if it lies at 0 just when it ends where
it was asked from. -/
theorem recoverScope_detects_stalls (config : Config) (record : StateRecord) (stats : Stats)
    (hscope : ¬ record.scope < 0) (w : Surroundings config.retry) (past : Trace) :
    let t := (w.run (recoverScope config record stats) past).1
    ∀ before query page state after,
      t.differences = before ++ (query, .ok (.slice page state)) :: after →
      (before ≠ [] ∨ (state.pts = 0 ↔ state.pts = query.pts) →
        Judged config.maxDifferencePages before query page state after t) ∧
      (before = [] → if state.pts = 0 then EndsAfter [] after t
        else GoesOnFrom config.maxDifferencePages [] query page state after t) := by
  intro t before query page state after hsplit
  have hrecovery := accountRecovery_of_runs hscope (w.runs_run (recoverScope config record stats) past)
  have hends := hrecovery.endsAfter hsplit
  have hgoesOn := hrecovery.goesOnFrom hsplit
  constructor
  · intro hcondition
    have hcompared : state.pts = compared before ↔ state.pts = query.pts := by
      by_cases hbefore : before = []
      · rw [hbefore]
        exact hcondition.resolve_left (not_not_intro hbefore)
      · rw [hrecovery.compared_eq hsplit hbefore]
    exact ⟨fun hstalled => hends (hcompared.2 hstalled), fun hmoved => hgoesOn (hmoved ∘ hcompared.1)⟩
  · rintro rfl
    split
    · rename_i hzero
      exact hends hzero
    · rename_i hnonzero
      exact hgoesOn hnonzero

/-- A server that has one slice, up to position 110, whatever it is asked for. -/
def Server.standing : Server := fun _ =>
  .slice { otherUpdates := [.other "again"] } { pts := 110, date := 1010 }

/-- What that server is asked at a position. -/
def askedAt (pts date : Int32) : Exchange :=
  (queryAt pts date, .ok (Server.standing (queryAt pts date)))

/-- The recovery of the account's record at a position with that server. -/
def recoveryFrom (pts date : Int32) : Trace :=
  ((Server.standing.serving .never).run (recoverScope { retry := .never, maxDifferencePages := 10 }
    { scope := .account, pts, date := some date } {}) []).1

/-- From before 110 on, the first slice leads on, and the second is found to be stalled. -/
theorem recoverScope_detects_stalls_standing :
    (recoveryFrom 100 1000).differences = [askedAt 100 1000, askedAt 110 1010] ∧
      EndsAfter [askedAt 100 1000] [] (recoveryFrom 100 1000) := by
  refine ⟨by rfl, ?_⟩
  refine ((recoverScope_detects_stalls { retry := .never, maxDifferencePages := 10 }
    { scope := .account, pts := 100, date := some 1000 } {} (by decide)
    (Server.standing.serving .never) [] [askedAt 100 1000] (queryAt 110 1010) _ _ [] (by rfl)).1
    (.inl (by simp))).stalled rfl

/-- At 110 the first slice ends where it was asked from, and yet it is queued and asked for
again. -/
theorem first_stall_is_missed :
    (recoveryFrom 110 1010).differences = [askedAt 110 1010, askedAt 110 1010] ∧
      (recoveryFrom 110 1010).envelopes = delivered [askedAt 110 1010] ∧
      ∀ allowed, ¬ Judged allowed [] (queryAt 110 1010) { otherUpdates := [.other "again"] }
        { pts := 110, date := 1010 } [askedAt 110 1010] (recoveryFrom 110 1010) := by
  refine ⟨by rfl, by rfl, fun allowed hjudged => ?_⟩
  obtain ⟨hlast, -⟩ := hjudged.stalled rfl
  cases hlast

end Recovery

end UpdatePipeline
