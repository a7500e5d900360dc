import Mathlib.Data.List.Chain
import UpdatePipeline.Proofs.Program.Run
import UpdatePipeline.Recovery
set_option autoImplicit false

/-!
# The recovery of one scope

Of what a scope's recovery does everything can be told from the answers that it got:
which requests it made, which pages it queued, what it counted and which position it
wrote back.  `AccountRecovery` says so for the account and `ChannelRecovery` for a
channel, and `recoverScope_follows_answers` shows that every recovery, whatever the
answers, is of this kind.
-/

namespace UpdatePipeline

open Schema Program

namespace Recovery

/-- What came of a difference asked for. -/
abbrev Answer := Except InvocationError Difference

/-- What came of a channel's difference asked for. -/
abbrev ChannelAnswer := Except InvocationError ChannelDifference

/-- The answers about the account in a trace. -/
def answers (t : Trace) : List Answer := t.differences.map (·.2)

/-- The answers about a channel in a trace. -/
def channelAnswers (t : Trace) : List ChannelAnswer := t.channelDifferences.map (·.2)

/-! ## What the answers tell -/

/-- The pages that count, with their positions: those of the slices that differ in
position from the slice before them, and that of a final difference. -/
def acceptedPages (previous : Int32) : List Answer → List (Int32 × Page)
  | [] => []
  | .ok (.slice page state) :: rest =>
    if state.pts = previous then acceptedPages state.pts rest
    else (state.pts, page) :: acceptedPages state.pts rest
  | .ok (.difference page state) :: rest => (state.pts, page) :: acceptedPages previous rest
  | _ :: rest => acceptedPages previous rest

/-- Whether all answers are slices that differ in position from the slice before them. -/
def allAccepted (previous : Int32) : List Answer → Bool
  | [] => true
  | .ok (.slice _ state) :: rest => state.pts != previous && allAccepted state.pts rest
  | _ :: _ => false

/-- The position and date to which the answers lead. -/
def reached (pts : Int32) (date : Option Int32) : List Answer → Int32 × Option Int32
  | [] => (pts, date)
  | .ok (.slice _ state) :: rest => reached state.pts (some state.date) rest
  | .ok (.difference _ state) :: rest => reached state.pts date rest
  | _ :: rest => reached pts date rest

/-- The pages of a channel that count, with their positions. -/
def channelPages (answers : List ChannelAnswer) : List (Int32 × Page) :=
  answers.filterMap fun
    | .ok (.difference pts page _ _) => some (pts, page)
    | _ => none

/-- The envelopes of a page at a position: its messages, wrapped up as new ones that span
no position of their own, then its updates as they came, all with the page's peers. -/
def pageEnvelopes (wrap : Message → Int32 → Int32 → Update) (p : Int32 × Page) : List Envelope :=
  p.2.newMessages.map (fun m => ⟨wrap m p.1 (-1), Peers.ofLists p.2.users p.2.chats⟩) ++
    p.2.otherUpdates.map (⟨·, Peers.ofLists p.2.users p.2.chats⟩)

/-- The counts with everything on these pages. -/
def Stats.countAll (s : Stats) (pages : List (Int32 × Page)) : Stats where
  messages := s.messages + (pages.flatMap (·.2.newMessages)).length
  updates := s.updates + (pages.flatMap (·.2.otherUpdates)).length

theorem Stats.countAll_nil (s : Stats) : s.countAll [] = s := rfl

theorem Stats.countAll_cons (s : Stats) (p : Int32 × Page) (pages : List (Int32 × Page)) :
    s.countAll (p :: pages) = (s.count p.2).countAll pages := by
  simp only [countAll, count, List.flatMap_cons, List.length_append, Nat.add_assoc]

/-! ## Recoveries that follow their answers -/

/-- The request for what the account missed from a position on. -/
def queryAt (pts date : Int32) : DifferenceQuery := { pts, date, qts := 0 }

/-- The request for what a channel missed from a position on. -/
def channelQueryAt (pts limit : Int32) (channel : InputPeer) : ChannelDifferenceQuery :=
  { force := false, channel, filter := .empty, pts, limit }

/-- One request for the account's difference follows upon another if a slice came in
between, and then from where the slice ended. -/
def FollowsSlice (a b : DifferenceQuery × Answer) : Prop :=
  ∃ page state, a.2 = .ok (.slice page state) ∧ b.1 = queryAt state.pts state.date

/-- A trace writes one record, and that at its end; the counts are its result if this
succeeds. -/
def WritesBack (record : StateRecord) (stats : Stats) (t : Trace)
    (result : Except IoError Stats) : Prop :=
  ∃ answer : Except IoError Unit,
    t.writes = [(record, answer)] ∧ t.getLast? = some (.stored record answer) ∧
      result = answer.map fun _ => stats

/-- A recovery of the account's scope that follows its answers. -/
structure AccountRecovery (config : Config) (record : StateRecord) (stats : Stats) (t : Trace)
    (result : Except IoError Stats) : Prop where
  /-- It asks for nothing but differences. -/
  requests : t.invocations.map (·.1) = t.differences.map fun d => .getDifference d.1
  bounded : t.differences.length ≤ config.maxDifferencePages
  /-- The first request starts at the record. -/
  first : ∀ d ∈ t.differences.head?, d.1 = queryAt record.pts (record.date.getD 0)
  /-- Every later one starts where the slice before it ended. -/
  later : t.differences.IsChain FollowsSlice
  /-- It goes on only after slices that count. -/
  accepted : allAccepted 0 (answers t).dropLast
  /-- And it does go on after them, up to the limit. -/
  exhaustive : allAccepted 0 (answers t) →
    t.differences.length = config.maxDifferencePages
  queued : t.envelopes =
    (acceptedPages 0 (answers t)).flatMap (pageEnvelopes .newMessage)
  writesBack : WritesBack
    { scope := record.scope
      pts := (reached record.pts record.date (answers t)).1
      qts := none
      date := (reached record.pts record.date (answers t)).2 }
    (stats.countAll (acceptedPages 0 (answers t))) t result

/-- A recovery of a channel's scope that follows its answers. -/
structure ChannelRecovery (config : Config) (record : StateRecord) (stats : Stats) (t : Trace)
    (result : Except IoError Stats) : Prop where
  /-- It asks for nothing but channel differences. -/
  requests : t.invocations.map (·.1) = t.channelDifferences.map fun d => .getChannelDifference d.1
  bounded : t.channelDifferences.length ≤ min 1 config.maxDifferencePages
  /-- It looks the channel up, unless it may not ask at all. -/
  looksUp : t.resolutions.map (·.1) = if config.maxDifferencePages = 0 then [] else [record.scope]
  /-- If there is such a channel, it asks once, from the record on. -/
  asks : t.channelDifferences.map (·.1) = t.resolutions.filterMap fun r =>
    r.2.toOption.map (channelQueryAt record.pts config.channelDifferenceLimit)
  queued : t.envelopes =
    (channelPages (channelAnswers t)).flatMap (pageEnvelopes .newChannelMessage)
  writesBack : WritesBack
    { scope := record.scope
      pts := ((channelPages (channelAnswers t)).getLast?.map (·.1)).getD record.pts
      qts := none
      date := record.date }
    (stats.countAll (channelPages (channelAnswers t))) t result

/-! ## One page further -/

variable {config : Config} {policy : RetryPolicy} {scope : Scope}

/-- The request that a cursor leads to. -/
def Cursor.query (c : Cursor) : DifferenceQuery := queryAt c.pts (c.date.getD 0)

/-- What an answer leads a cursor to. -/
def Cursor.answered (c : Cursor) : Answer → Except InvocationError Step × Cursor
  | .error e => (.error e, c)
  | .ok (.empty _ _) | .ok (.tooLong _) => (.ok .stop, c)
  | .ok (.difference page state) => (.ok (.last page), { c with pts := state.pts })
  | .ok (.slice page state) =>
    if state.pts = c.previous then
      (.ok .stop, { c with pts := state.pts, date := some state.date })
    else (.ok (.more page), { pts := state.pts, date := some state.date, previous := state.pts })

/-- A trace that shows one request for the account's difference and nothing else. -/
structure AsksOnce (q : DifferenceQuery) (answer : Answer) (t : Trace) : Prop where
  requests : t.invocations.map (·.1) = [.getDifference q]
  differences : t.differences = [(q, answer)]
  envelopes : t.envelopes = []
  writes : t.writes = []

theorem asksOnce_of_notices (q : DifferenceQuery) (attempts : List Reply) (reply : Reply)
    (ns : List Notice) :
    AsksOnce q (reply.bind Response.asDifference)
      ([.invoked (.getDifference q) attempts reply] ++ Trace.ofNotices ns) where
  requests := by rw [Trace.invocations_append, Trace.invocations_ofNotices]; rfl
  differences := by rw [Trace.differences_append, Trace.differences_ofNotices]; rfl
  envelopes := by rw [Trace.envelopes_append, Trace.envelopes_ofNotices]; rfl
  writes := by rw [Trace.writes_append, Trace.writes_ofNotices]; rfl

/-- One step of the account's recovery asks once and then knows how to go on. -/
theorem runs_accountStep {c : Cursor} {t : Trace} {r : Except InvocationError Step × Cursor}
    (h : Runs policy (accountStep scope c) t r) :
    ∃ answer, AsksOnce c.query answer t ∧ r = c.answered answer := by
  unfold accountStep at h
  obtain ⟨t₁, answer, t₂, rfl, hask, hrest⟩ := runs_bind_iff.1 h
  obtain ⟨attempts, reply, -, rfl, hanswer⟩ := runs_invokeAs_iff.1 hask
  -- what comes behind the request is a notice at most
  suffices hgo : ∃ ns, t₂ = .ofNotices ns ∧ r = c.answered answer by
    obtain ⟨ns, rfl, hr⟩ := hgo
    exact ⟨answer, hanswer ▸ asksOnce_of_notices c.query attempts reply ns, hr⟩
  clear hask hanswer h
  rcases answer with e | (_ | ⟨page, state⟩ | ⟨page, state⟩ | pts)
  · obtain ⟨rfl, rfl⟩ := runs_pure_iff.1 hrest
    exact ⟨[], rfl, rfl⟩
  · obtain ⟨rfl, rfl⟩ := runs_pure_iff.1 hrest
    exact ⟨[], rfl, rfl⟩
  · obtain ⟨rfl, rfl⟩ := runs_pure_iff.1 hrest
    exact ⟨[], rfl, rfl⟩
  · simp only at hrest
    split at hrest
    · obtain ⟨t₃, u, t₄, rfl, hnotify, hdone⟩ := runs_bind_iff.1 hrest
      obtain ⟨rfl, rfl⟩ := runs_pure_iff.1 hdone
      rename_i hstall
      exact ⟨_, by rw [runs_notify_iff.1 hnotify, List.append_nil], by simp [Cursor.answered, hstall]⟩
    · obtain ⟨rfl, rfl⟩ := runs_pure_iff.1 hrest
      rename_i hstall
      exact ⟨[], rfl, by simp [Cursor.answered, hstall]⟩
  · obtain ⟨t₃, u, t₄, rfl, hnotify, hdone⟩ := runs_bind_iff.1 hrest
    obtain ⟨rfl, rfl⟩ := runs_pure_iff.1 hdone
    exact ⟨_, by rw [runs_notify_iff.1 hnotify, List.append_nil], rfl⟩

/-- What an answer about a channel leads a cursor to. -/
def Cursor.answeredChannel (c : Cursor) : ChannelAnswer → Except InvocationError Step × Cursor
  | .error e => (.error e, c)
  | .ok (.empty _ _ _) | .ok (.tooLong _ _) => (.ok .stop, c)
  | .ok (.difference pts page _ _) => (.ok (.last page), { c with pts })

/-- A trace that shows one look-up of a channel and, if there is such a channel, one
request for its difference.  A failed look-up is as good as a failed request. -/
structure AsksChannel (limit : Int32) (scope : Scope) (c : Cursor)
    (found : Except InvocationError InputPeer) (answer : ChannelAnswer) (t : Trace) : Prop where
  resolutions : t.resolutions = [(scope, found)]
  requests : t.invocations.map (·.1) = t.channelDifferences.map fun d => .getChannelDifference d.1
  asked : t.channelDifferences.map (·.1) =
    (found.toOption.map (channelQueryAt c.pts limit)).toList
  pages : channelPages (channelAnswers t) = channelPages [answer]
  envelopes : t.envelopes = []
  writes : t.writes = []

theorem asksChannel_of_lost (limit : Int32) (scope : Scope) (c : Cursor) (e : InvocationError) :
    AsksChannel limit scope c (.error e) (.error e) [.resolved scope (.error e)] where
  resolutions := rfl
  requests := rfl
  asked := rfl
  pages := rfl
  envelopes := rfl
  writes := rfl

theorem asksChannel_of_notices (limit : Int32) (scope : Scope) (c : Cursor) (channel : InputPeer)
    (attempts : List Reply) (reply : Reply) (ns : List Notice) :
    AsksChannel limit scope c (.ok channel) (reply.bind Response.asChannelDifference)
      ([.resolved scope (.ok channel),
        .invoked (.getChannelDifference (channelQueryAt c.pts limit channel)) attempts reply] ++
        Trace.ofNotices ns) where
  resolutions := by rw [Trace.resolutions_append, Trace.resolutions_ofNotices]; rfl
  requests := by
    rw [Trace.invocations_append, Trace.invocations_ofNotices, Trace.channelDifferences_append,
      Trace.channelDifferences_ofNotices]
    rfl
  asked := by rw [Trace.channelDifferences_append, Trace.channelDifferences_ofNotices]; rfl
  pages := by
    rw [channelAnswers, Trace.channelDifferences_append, Trace.channelDifferences_ofNotices]
    rfl
  envelopes := by rw [Trace.envelopes_append, Trace.envelopes_ofNotices]; rfl
  writes := by rw [Trace.writes_append, Trace.writes_ofNotices]; rfl

/-- One step of a channel's recovery asks at most once and then knows how to go on. -/
theorem runs_channelStep {limit : Int32} {c : Cursor} {t : Trace}
    {r : Except InvocationError Step × Cursor} (h : Runs policy (channelStep limit scope c) t r) :
    ∃ found answer, AsksChannel limit scope c found answer t ∧ r = c.answeredChannel answer := by
  unfold channelStep at h
  obtain ⟨t₁, found, t₂, rfl, hfind, hrest⟩ := runs_bind_iff.1 h
  obtain rfl := runs_resolvePeer_iff.1 hfind
  cases found with
  | error e =>
    obtain ⟨rfl, rfl⟩ := runs_pure_iff.1 hrest
    exact ⟨_, _, asksChannel_of_lost limit scope c e, rfl⟩
  | ok channel =>
    obtain ⟨t₃, answer, t₄, rfl, hask, hrest⟩ := runs_bind_iff.1 hrest
    obtain ⟨attempts, reply, -, rfl, hanswer⟩ := runs_invokeAs_iff.1 hask
    suffices hgo : ∃ ns, t₄ = .ofNotices ns ∧ r = c.answeredChannel answer by
      obtain ⟨ns, rfl, hr⟩ := hgo
      exact ⟨_, answer, hanswer ▸ asksChannel_of_notices limit scope c channel attempts reply ns, hr⟩
    clear hask hanswer h hfind
    rcases answer with e | (_ | ⟨dialogPts, page⟩ | ⟨pts, page, _, _⟩)
    · obtain ⟨rfl, rfl⟩ := runs_pure_iff.1 hrest
      exact ⟨[], rfl, rfl⟩
    · obtain ⟨rfl, rfl⟩ := runs_pure_iff.1 hrest
      exact ⟨[], rfl, rfl⟩
    · obtain ⟨t₅, u, t₆, rfl, hnotify, hdone⟩ := runs_bind_iff.1 hrest
      obtain ⟨rfl, rfl⟩ := runs_pure_iff.1 hdone
      exact ⟨_, by rw [runs_notify_iff.1 hnotify, List.append_nil], rfl⟩
    · obtain ⟨rfl, rfl⟩ := runs_pure_iff.1 hrest
      exact ⟨[], rfl, rfl⟩

/-! ## Page after page -/

theorem envelopes_eq (scope : Scope) (pts : Int32) (page : Page) :
    envelopes scope pts page =
      pageEnvelopes (if scope < 0 then .newChannelMessage else .newMessage) (pts, page) := by
  simp only [envelopes, pageEnvelopes, List.map_append, List.map_map, Function.comp_def]
  by_cases h : scope < 0 <;> simp [messageUpdate, Scope.isChannel, h]

/-- What can become of one more page: an error or a stop ends the recovery, a last page
does so once it is queued, and any other is queued before the next one is fetched. -/
theorem runs_fetchPages_succ {left : Nat} {c : Cursor} {stats : Stats} {t : Trace}
    {r : Cursor × Stats} (h : Runs policy (fetchPages config scope (left + 1) c stats) t r) :
    ∃ t₁ s c₁, Runs policy (step config.channelDifferenceLimit scope c) t₁ (s, c₁) ∧
      match s with
      | .error e => t = t₁ ++ .ofNotices [failureNotice scope e] ∧ r = (c₁, stats)
      | .ok .stop => t = t₁ ∧ r = (c₁, stats)
      | .ok (.last page) =>
        t = t₁ ++ .ofEnvelopes (envelopes scope c₁.pts page) ∧ r = (c₁, stats.count page)
      | .ok (.more page) => ∃ t₂, t = t₁ ++ (.ofEnvelopes (envelopes scope c₁.pts page) ++ t₂) ∧
        Runs policy (fetchPages config scope left c₁ (stats.count page)) t₂ r := by
  rw [fetchPages] at h
  obtain ⟨t₁, ⟨s, c₁⟩, t₂, rfl, hstep, hrest⟩ := runs_bind_iff.1 h
  refine ⟨t₁, s, c₁, hstep, ?_⟩
  rcases s with e | (page | page | _)
  · obtain ⟨t₃, u, t₄, rfl, hnotify, hdone⟩ := runs_bind_iff.1 hrest
    obtain ⟨rfl, rfl⟩ := runs_pure_iff.1 hdone
    exact ⟨by rw [runs_notify_iff.1 hnotify, List.append_nil], rfl⟩
  · obtain ⟨t₃, u, t₄, rfl, hqueue, hmore⟩ := runs_bind_iff.1 hrest
    exact ⟨t₄, by rw [runs_enqueueAll_iff.1 hqueue], hmore⟩
  · obtain ⟨t₃, u, t₄, rfl, hqueue, hdone⟩ := runs_bind_iff.1 hrest
    obtain ⟨rfl, rfl⟩ := runs_pure_iff.1 hdone
    exact ⟨by rw [runs_enqueueAll_iff.1 hqueue, List.append_nil], rfl⟩
  · obtain ⟨rfl, rfl⟩ := runs_pure_iff.1 hrest
    exact ⟨by rw [List.append_nil], rfl⟩

theorem runs_fetchPages_zero {c : Cursor} {stats : Stats} {t : Trace} {r : Cursor × Stats}
    (h : Runs policy (fetchPages config scope 0 c stats) t r) :
    t = .ofNotices [.tooManyPages scope config.maxDifferencePages c.pts] ∧ r = (c, stats) := by
  rw [fetchPages] at h
  obtain ⟨t₁, u, t₂, rfl, hnotify, hdone⟩ := runs_bind_iff.1 h
  obtain ⟨rfl, rfl⟩ := runs_pure_iff.1 hdone
  exact ⟨by rw [runs_notify_iff.1 hnotify, List.append_nil], rfl⟩

/-! ## The pages of the account -/

/-- What fetching pages of the account does, from a cursor on. -/
structure AccountPages (left : Nat) (c : Cursor) (stats : Stats) (t : Trace) (r : Cursor × Stats) :
    Prop where
  requests : t.invocations.map (·.1) = t.differences.map fun d => .getDifference d.1
  bounded : t.differences.length ≤ left
  first : ∀ d ∈ t.differences.head?, d.1 = c.query
  later : t.differences.IsChain FollowsSlice
  accepted : allAccepted c.previous (answers t).dropLast
  exhaustive : allAccepted c.previous (answers t) → t.differences.length = left
  queued : t.envelopes = (acceptedPages c.previous (answers t)).flatMap (pageEnvelopes .newMessage)
  writes : t.writes = []
  arrives : (r.1.pts, r.1.date) = reached c.pts c.date (answers t)
  counted : r.2 = stats.countAll (acceptedPages c.previous (answers t))

theorem AccountPages.none {c : Cursor} {stats : Stats} (ns : List Notice) :
    AccountPages 0 c stats (.ofNotices ns) (c, stats) := by
  have hd : (Trace.ofNotices ns).differences = [] := Trace.differences_ofNotices ns
  have ha : answers (.ofNotices ns) = [] := by rw [answers, hd]; rfl
  constructor
  case requests => rw [Trace.invocations_ofNotices, hd]; rfl
  case queued => rw [Trace.envelopes_ofNotices, ha]; rfl
  case writes => rw [Trace.writes_ofNotices]
  all_goals simp [hd, ha, allAccepted, acceptedPages, reached, Stats.countAll_nil]

/-- An answer behind which nothing is to be fetched. -/
theorem AccountPages.one {left : Nat} {c : Cursor} {stats : Stats} {t₁ t₂ : Trace}
    {answer : Answer} {r : Cursor × Stats} (hask : AsksOnce c.query answer t₁)
    (hquiet : t₂.invocations = [] ∧ t₂.differences = [] ∧ t₂.writes = [])
    (hend : allAccepted c.previous [answer] = false)
    (hqueue : t₂.envelopes =
      (acceptedPages c.previous [answer]).flatMap (pageEnvelopes .newMessage))
    (harrive : (r.1.pts, r.1.date) = reached c.pts c.date [answer])
    (hcount : r.2 = stats.countAll (acceptedPages c.previous [answer])) :
    AccountPages (left + 1) c stats (t₁ ++ t₂) r := by
  obtain ⟨hi, hd, hw⟩ := hquiet
  have hdiff : Trace.differences (t₁ ++ t₂) = [(c.query, answer)] := by
    rw [Trace.differences_append, hask.differences, hd, List.append_nil]
  have ha : answers (t₁ ++ t₂) = [answer] := by rw [answers, hdiff]; rfl
  constructor
  case requests => rw [Trace.invocations_append, hi, List.append_nil, hask.requests, hdiff]; rfl
  case queued => rw [Trace.envelopes_append, hask.envelopes, List.nil_append, hqueue, ha]
  case writes => rw [Trace.writes_append, hask.writes, hw]; rfl
  case arrives => rw [harrive, ha]
  case counted => rw [hcount, ha]
  all_goals simp [hdiff, ha, hend, allAccepted]

theorem allAccepted_slice {previous : Int32} {page : Page} {state : AccountState}
    (hnew : state.pts ≠ previous) (rest : List Answer) :
    allAccepted previous (.ok (.slice page state) :: rest) = allAccepted state.pts rest := by
  simp [allAccepted, hnew]

theorem acceptedPages_slice {previous : Int32} {page : Page} {state : AccountState}
    (hnew : state.pts ≠ previous) (rest : List Answer) :
    acceptedPages previous (.ok (.slice page state) :: rest) =
      (state.pts, page) :: acceptedPages state.pts rest := by
  simp [acceptedPages, hnew]

/-- A slice that counts, and what is fetched behind it. -/
theorem AccountPages.more {left : Nat} {c : Cursor} {stats : Stats} {t₁ t₂ : Trace}
    {page : Page} {state : AccountState} {r : Cursor × Stats}
    (hask : AsksOnce c.query (.ok (.slice page state)) t₁) (hnew : state.pts ≠ c.previous)
    (hrest : AccountPages left { pts := state.pts, date := some state.date, previous := state.pts }
      (stats.count page) t₂ r) :
    AccountPages (left + 1) c stats
      (t₁ ++ (Trace.ofEnvelopes (pageEnvelopes .newMessage (state.pts, page)) ++ t₂)) r := by
  have hdiff : Trace.differences
      (t₁ ++ (Trace.ofEnvelopes (pageEnvelopes .newMessage (state.pts, page)) ++ t₂)) =
      (c.query, .ok (.slice page state)) :: t₂.differences := by
    simp [hask.differences]
  have ha : answers (t₁ ++ (Trace.ofEnvelopes (pageEnvelopes .newMessage (state.pts, page)) ++ t₂)) =
      .ok (.slice page state) :: answers t₂ := by
    rw [answers, hdiff]
    rfl
  constructor
  case requests =>
    rw [hdiff, Trace.invocations_append, Trace.invocations_append, Trace.invocations_ofEnvelopes,
      List.nil_append, List.map_append, hask.requests, hrest.requests]
    rfl
  case bounded =>
    rw [hdiff, List.length_cons]
    exact Nat.succ_le_succ hrest.bounded
  case first =>
    rw [hdiff]
    rintro d ⟨⟩
    rfl
  case later =>
    rw [hdiff, List.isChain_cons]
    exact ⟨fun d hd => ⟨page, state, rfl, hrest.first d hd⟩, hrest.later⟩
  case accepted =>
    rw [ha]
    cases hlast : answers t₂ with
    | nil => rfl
    | cons answer rest =>
      rw [List.dropLast_cons_of_ne_nil (List.cons_ne_nil answer rest), allAccepted_slice hnew,
        ← hlast]
      exact hrest.accepted
  case exhaustive =>
    intro hall
    rw [ha, allAccepted_slice hnew] at hall
    rw [hdiff, List.length_cons, hrest.exhaustive hall]
  case queued =>
    rw [ha, acceptedPages_slice hnew, List.flatMap_cons, ← hrest.queued, Trace.envelopes_append,
      hask.envelopes, List.nil_append, Trace.envelopes_append, Trace.envelopes_ofEnvelopes]
  case writes =>
    rw [Trace.writes_append, hask.writes, Trace.writes_append, Trace.writes_ofEnvelopes,
      hrest.writes]
    rfl
  case arrives => rw [hrest.arrives, ha]; rfl
  case counted => rw [hrest.counted, ha, acceptedPages_slice hnew, Stats.countAll_cons]

/-- Fetching pages of the account follows the answers, whatever they are. -/
theorem accountPages_of_runs (hscope : ¬ scope < 0) {left : Nat} {c : Cursor} {stats : Stats}
    {t : Trace} {r : Cursor × Stats}
    (h : Runs policy (fetchPages config scope left c stats) t r) :
    AccountPages left c stats t r := by
  -- only a slice that counts leaves anything to fetch, from another cursor and other counts
  induction left generalizing c stats t with
  | zero =>
    obtain ⟨rfl, rfl⟩ := runs_fetchPages_zero h
    exact .none _
  | succ left ih =>
    obtain ⟨t₁, s, c₁, hstep, hnext⟩ := runs_fetchPages_succ h
    have haccount : step config.channelDifferenceLimit scope c = accountStep scope c := by
      simp [step, Scope.isChannel, hscope]
    rw [haccount] at hstep
    obtain ⟨answer, hask, hs⟩ := runs_accountStep hstep
    simp only [envelopes_eq, if_neg hscope] at hnext
    rcases answer with e | (_ | ⟨page, state⟩ | ⟨page, state⟩ | _)
    · obtain ⟨rfl, rfl⟩ := Prod.mk.inj hs
      obtain ⟨rfl, rfl⟩ := hnext
      exact .one hask (by simp) rfl (Trace.envelopes_ofNotices _) rfl rfl
    · obtain ⟨rfl, rfl⟩ := Prod.mk.inj hs
      obtain ⟨rfl, rfl⟩ := hnext
      rw [← List.append_nil t]
      exact .one hask ⟨rfl, rfl, rfl⟩ rfl rfl rfl rfl
    · obtain ⟨rfl, rfl⟩ := Prod.mk.inj hs
      obtain ⟨rfl, rfl⟩ := hnext
      refine .one hask (by simp) rfl ?_ rfl (Stats.countAll_cons stats (state.pts, page) []).symm
      rw [Trace.envelopes_ofEnvelopes]
      exact (List.append_nil _).symm
    · by_cases hstall : state.pts = c.previous
      · rw [Cursor.answered, if_pos hstall] at hs
        obtain ⟨rfl, rfl⟩ := Prod.mk.inj hs
        obtain ⟨rfl, rfl⟩ := hnext
        rw [← List.append_nil t]
        refine .one hask ⟨rfl, rfl, rfl⟩ ?_ ?_ rfl ?_
        all_goals simp [allAccepted, acceptedPages, hstall, Trace.envelopes, Stats.countAll_nil]
      · rw [Cursor.answered, if_neg hstall] at hs
        obtain ⟨rfl, rfl⟩ := Prod.mk.inj hs
        obtain ⟨t₂, rfl, hmore⟩ := hnext
        exact .more hask hstall (ih hmore)
    · obtain ⟨rfl, rfl⟩ := Prod.mk.inj hs
      obtain ⟨rfl, rfl⟩ := hnext
      rw [← List.append_nil t]
      exact .one hask ⟨rfl, rfl, rfl⟩ rfl rfl rfl rfl

/-! ## The page of a channel -/

/-- What fetching the page of a channel does. -/
structure ChannelPage (limit : Int32) (scope : Scope) (left : Nat) (c : Cursor) (stats : Stats)
    (t : Trace) (r : Cursor × Stats) : Prop where
  requests : t.invocations.map (·.1) = t.channelDifferences.map fun d => .getChannelDifference d.1
  looksUp : t.resolutions.map (·.1) = if left = 0 then [] else [scope]
  asked : t.channelDifferences.map (·.1) = t.resolutions.filterMap fun x =>
    x.2.toOption.map (channelQueryAt c.pts limit)
  queued : t.envelopes = (channelPages (channelAnswers t)).flatMap (pageEnvelopes .newChannelMessage)
  writes : t.writes = []
  arrives : r.1.pts = ((channelPages (channelAnswers t)).getLast?.map (·.1)).getD c.pts
  keepsDate : r.1.date = c.date
  counted : r.2 = stats.countAll (channelPages (channelAnswers t))

/-- A channel is asked about no more often than it is looked up, which is once. -/
theorem ChannelPage.bounded {limit : Int32} {left : Nat} {c : Cursor} {stats : Stats} {t : Trace}
    {r : Cursor × Stats} (h : ChannelPage limit scope left c stats t r) :
    t.channelDifferences.length ≤ min 1 left := by
  -- there is a request for each look-up that succeeds
  have hask : t.channelDifferences.length ≤ t.resolutions.length := by
    rw [← List.length_map (·.1), h.asked]
    exact List.length_filterMap_le _ _
  have hlook : t.resolutions.length = if left = 0 then 0 else 1 := by
    rw [← List.length_map (·.1), h.looksUp]
    split <;> rfl
  split at hlook <;> omega

theorem ChannelPage.none {limit : Int32} {c : Cursor} {stats : Stats} (ns : List Notice) :
    ChannelPage limit scope 0 c stats (.ofNotices ns) (c, stats) := by
  have hd : (Trace.ofNotices ns).channelDifferences = [] := Trace.channelDifferences_ofNotices ns
  have ha : channelAnswers (.ofNotices ns) = [] := by rw [channelAnswers, hd]; rfl
  constructor
  case queued => rw [Trace.envelopes_ofNotices, ha]; rfl
  case writes => rw [Trace.writes_ofNotices]
  all_goals simp [hd, ha, channelPages, Stats.countAll_nil]

theorem ChannelPage.one {limit : Int32} {left : Nat} {c : Cursor} {stats : Stats} {t₁ t₂ : Trace}
    {found : Except InvocationError InputPeer} {answer : ChannelAnswer} {r : Cursor × Stats}
    (hask : AsksChannel limit scope c found answer t₁)
    (hquiet : t₂.invocations = [] ∧ t₂.channelDifferences = [] ∧ t₂.resolutions = [] ∧
      t₂.writes = [])
    (hqueue : t₂.envelopes = (channelPages [answer]).flatMap (pageEnvelopes .newChannelMessage))
    (harrive : r.1.pts = ((channelPages [answer]).getLast?.map (·.1)).getD c.pts)
    (hdate : r.1.date = c.date) (hcount : r.2 = stats.countAll (channelPages [answer])) :
    ChannelPage limit scope (left + 1) c stats (t₁ ++ t₂) r := by
  obtain ⟨hi, hd, hr, hw⟩ := hquiet
  have hdiff : Trace.channelDifferences (t₁ ++ t₂) = t₁.channelDifferences := by
    rw [Trace.channelDifferences_append, hd, List.append_nil]
  have hres : Trace.resolutions (t₁ ++ t₂) = [(scope, found)] := by
    rw [Trace.resolutions_append, hr, List.append_nil, hask.resolutions]
  have hpages : channelPages (channelAnswers (t₁ ++ t₂)) = channelPages [answer] := by
    rw [channelAnswers, hdiff]
    exact hask.pages
  constructor
  case requests => rw [Trace.invocations_append, hi, List.append_nil, hask.requests, hdiff]
  case looksUp => rw [hres]; rfl
  case asked =>
    rw [hdiff, hask.asked, hres]
    cases found <;> rfl
  case queued => rw [Trace.envelopes_append, hask.envelopes, List.nil_append, hqueue, hpages]
  case writes => rw [Trace.writes_append, hask.writes, hw]; rfl
  case arrives => rw [harrive, hpages]
  case keepsDate => exact hdate
  case counted => rw [hcount, hpages]

theorem channelPage_of_runs (hscope : scope < 0) {left : Nat} {c : Cursor} {stats : Stats}
    {t : Trace} {r : Cursor × Stats}
    (h : Runs policy (fetchPages config scope left c stats) t r) :
    ChannelPage config.channelDifferenceLimit scope left c stats t r := by
  cases left with
  | zero =>
    obtain ⟨rfl, rfl⟩ := runs_fetchPages_zero h
    exact .none _
  | succ left =>
    obtain ⟨t₁, s, c₁, hstep, hnext⟩ := runs_fetchPages_succ h
    have hchannel : step config.channelDifferenceLimit scope c =
        channelStep config.channelDifferenceLimit scope c := by
      simp [step, Scope.isChannel, hscope]
    rw [hchannel] at hstep
    obtain ⟨found, answer, hask, hs⟩ := runs_channelStep hstep
    simp only [envelopes_eq, if_pos hscope] at hnext
    rcases answer with e | (_ | _ | ⟨pts, page, _, _⟩)
    · obtain ⟨rfl, rfl⟩ := Prod.mk.inj hs
      obtain ⟨rfl, rfl⟩ := hnext
      exact .one hask (by simp) (Trace.envelopes_ofNotices _) rfl rfl rfl
    · obtain ⟨rfl, rfl⟩ := Prod.mk.inj hs
      obtain ⟨rfl, rfl⟩ := hnext
      rw [← List.append_nil t]
      exact .one hask ⟨rfl, rfl, rfl, rfl⟩ rfl rfl rfl rfl
    · obtain ⟨rfl, rfl⟩ := Prod.mk.inj hs
      obtain ⟨rfl, rfl⟩ := hnext
      rw [← List.append_nil t]
      exact .one hask ⟨rfl, rfl, rfl, rfl⟩ rfl rfl rfl rfl
    · obtain ⟨rfl, rfl⟩ := Prod.mk.inj hs
      obtain ⟨rfl, rfl⟩ := hnext
      refine .one hask (by simp) ?_ rfl rfl (Stats.countAll_cons stats (pts, page) []).symm
      rw [Trace.envelopes_ofEnvelopes]
      exact (List.append_nil _).symm

/-! ## Whole scopes -/

/-- The recovery of a scope fetches pages and then writes back where it got to. -/
theorem runs_recoverScope {record : StateRecord} {stats : Stats} {t : Trace}
    {result : Except IoError Stats} (h : Runs policy (recoverScope config record stats) t result) :
    ∃ t₁ c counts answer,
      Runs policy (fetchPages config record.scope config.maxDifferencePages
        { pts := record.pts, date := record.date } stats) t₁ (c, counts) ∧
      t = t₁ ++ [.stored { scope := record.scope, pts := c.pts, date := c.date } answer] ∧
      result = answer.map fun _ => counts := by
  unfold recoverScope at h
  obtain ⟨t₁, ⟨c, counts⟩, t₂, rfl, hfetch, hrest⟩ := runs_bind_iff.1 h
  obtain ⟨t₃, answer, t₄, rfl, hstore, hdone⟩ := runs_bind_iff.1 hrest
  obtain rfl := runs_store_iff.1 hstore
  refine ⟨t₁, c, counts, answer, hfetch, ?_⟩
  cases answer with
  | error e =>
    obtain ⟨rfl, rfl⟩ := runs_pure_iff.1 hdone
    exact ⟨rfl, rfl⟩
  | ok u =>
    obtain ⟨rfl, rfl⟩ := runs_pure_iff.1 hdone
    exact ⟨rfl, rfl⟩

theorem writesBack_of_append {t : Trace} (hwrites : t.writes = []) (record : StateRecord)
    (stats : Stats) (answer : Except IoError Unit) :
    WritesBack record stats (t ++ [.stored record answer]) (answer.map fun _ => stats) := by
  refine ⟨answer, ?_, List.getLast?_concat, rfl⟩
  rw [Trace.writes_append, hwrites]
  rfl

theorem accountRecovery_of_runs {record : StateRecord} {stats : Stats} {t : Trace}
    {result : Except IoError Stats} (hscope : ¬ record.scope < 0)
    (h : Runs policy (recoverScope config record stats) t result) :
    AccountRecovery config record stats t result := by
  obtain ⟨t₁, c, counts, answer, hfetch, rfl, rfl⟩ := runs_recoverScope h
  have hpages := accountPages_of_runs hscope hfetch
  have hdiff : Trace.differences (t₁ ++ [.stored ⟨record.scope, c.pts, none, c.date⟩ answer]) =
      t₁.differences := by
    rw [Trace.differences_append]
    exact List.append_nil _
  have ha : answers (t₁ ++ [.stored ⟨record.scope, c.pts, none, c.date⟩ answer]) = answers t₁ := by
    rw [answers, hdiff]
    rfl
  have harrives : (c.pts, c.date) = reached record.pts record.date (answers t₁) := hpages.arrives
  constructor
  case requests =>
    rw [hdiff, ← hpages.requests, Trace.invocations_append]
    exact congrArg _ (List.append_nil _)
  case queued =>
    rw [ha, ← hpages.queued, Trace.envelopes_append]
    exact List.append_nil _
  case writesBack =>
    rw [ha, ← harrives, ← hpages.counted]
    exact writesBack_of_append hpages.writes _ counts answer
  case bounded => rw [hdiff]; exact hpages.bounded
  case first => rw [hdiff]; exact hpages.first
  case later => rw [hdiff]; exact hpages.later
  case accepted => rw [ha]; exact hpages.accepted
  case exhaustive => rw [hdiff, ha]; exact hpages.exhaustive

theorem channelRecovery_of_runs {record : StateRecord} {stats : Stats} {t : Trace}
    {result : Except IoError Stats} (hscope : record.scope < 0)
    (h : Runs policy (recoverScope config record stats) t result) :
    ChannelRecovery config record stats t result := by
  obtain ⟨t₁, c, counts, answer, hfetch, rfl, rfl⟩ := runs_recoverScope h
  have hpage := channelPage_of_runs hscope hfetch
  have hdiff : Trace.channelDifferences
      (t₁ ++ [.stored ⟨record.scope, c.pts, none, c.date⟩ answer]) = t₁.channelDifferences := by
    rw [Trace.channelDifferences_append]
    exact List.append_nil _
  have hres : Trace.resolutions (t₁ ++ [.stored ⟨record.scope, c.pts, none, c.date⟩ answer]) =
      t₁.resolutions := by
    rw [Trace.resolutions_append]
    exact List.append_nil _
  have ha : channelAnswers (t₁ ++ [.stored ⟨record.scope, c.pts, none, c.date⟩ answer]) =
      channelAnswers t₁ := by
    rw [channelAnswers, hdiff]
    rfl
  constructor
  case requests =>
    rw [hdiff, ← hpage.requests, Trace.invocations_append]
    exact congrArg _ (List.append_nil _)
  case bounded => rw [hdiff]; exact hpage.bounded
  case looksUp => rw [hres]; exact hpage.looksUp
  case asks => rw [hdiff, hres]; exact hpage.asked
  case queued =>
    rw [ha, ← hpage.queued, Trace.envelopes_append]
    exact List.append_nil _
  case writesBack =>
    have hpts : c.pts = _ := hpage.arrives
    have hdate : c.date = record.date := hpage.keepsDate
    rw [ha, ← hpts, ← hdate, ← hpage.counted]
    exact writesBack_of_append hpage.writes _ counts answer

/-- A scope's recovery follows the answers it gets, whatever server, store and retry
policy it meets. -/
theorem recoverScope_follows_answers (config : Config) (record : StateRecord) (stats : Stats)
    (w : Surroundings config.retry) (past : Trace) :
    let (t, result) := w.run (recoverScope config record stats) past
    if record.scope < 0 then ChannelRecovery config record stats t result
    else AccountRecovery config record stats t result := by
  have hruns := w.runs_run (recoverScope config record stats) past
  show if record.scope < 0 then ChannelRecovery config record stats _ _
    else AccountRecovery config record stats _ _
  split
  · rename_i hscope
    exact channelRecovery_of_runs hscope hruns
  · rename_i hscope
    exact accountRecovery_of_runs hscope hruns

end Recovery

end UpdatePipeline
