import UpdatePipeline.Intake
import UpdatePipeline.Proofs.Peers
import UpdatePipeline.Proofs.Program.Run
set_option autoImplicit false

/-!
# The intake of a batch

Whatever fails while a batch is taken in, each of its updates is queued once and in order.
`BatchIntake` says what else can be told from the answers that the intake got: with which
peers the updates travel, what was asked for and written on the way, and which failure is
the result.  `take_batch_follows_answers` shows that every intake is of this kind;
`runs_take` tells batches from what else can be pushed.
-/

namespace UpdatePipeline

open Schema Program

namespace Intake

/-! ## What a batch asks for -/

/-- A channel's message whose peers are to be completed. -/
structure Completion where
  channelId : Int64
  messageId : Int32
  pts : Int32
  ptsCount : Int32

/-- The scope in which the channel is looked up. -/
def Completion.scope (c : Completion) : Scope := Scope.ofChannel c.channelId

/-- The request for that one message of the channel. -/
def Completion.query (c : Completion) (channel : InputPeer) : ChannelDifferenceQuery where
  force := false
  channel := channel
  filter := .ranges [⟨c.messageId, c.messageId⟩]
  pts := c.pts - c.ptsCount
  limit := c.pts

/-- The completion that an update wants: it brings a message that is not empty into a
channel. -/
def wanted? : Update → Option Completion
  | .newChannelMessage message pts ptsCount =>
    if message.isEmpty then none
    else (message.peer?.bind Peer.channelId?).map (⟨·, message.id, pts, ptsCount⟩)
  | _ => none

/-- The completions that updates want, none unless they came with `min` peers. -/
def wanted (hasMinPeers : Bool) (updates : List Update) : List Completion :=
  if hasMinPeers then updates.filterMap wanted? else []

/-- The position that an update leads to. -/
def position? (date : Int32) (update : Update) : Option StateRecord :=
  update.ptsInfo?.map fun info =>
    { scope := Scope.ofChannel? update.channelId?, pts := info.pts, qts := none, date := some date }

/-- The positions that updates lead to, none unless positions are kept. -/
def positions (config : Config) (date : Int32) (updates : List Update) : List StateRecord :=
  if config.skipUpdates then [] else updates.filterMap (position? date)

theorem wanted_append (hasMinPeers : Bool) (us vs : List Update) :
    wanted hasMinPeers (us ++ vs) = wanted hasMinPeers us ++ wanted hasMinPeers vs := by
  unfold wanted
  split
  · exact List.filterMap_append
  · rfl

theorem wanted_singleton_of_none {hasMinPeers : Bool} {update : Update}
    (h : wanted? update = none) : wanted hasMinPeers [update] = [] := by
  simp [wanted, h]

theorem positions_append (config : Config) (date : Int32) (us vs : List Update) :
    positions config date (us ++ vs) = positions config date us ++ positions config date vs := by
  unfold positions
  split
  · rfl
  · exact List.filterMap_append

/-! ## What the answers tell -/

/-- The pages received in completion of peers. -/
def completions (t : Trace) : List Page :=
  t.channelDifferences.filterMap fun d =>
    match d.2 with
    | .ok (.tooLong _ page) | .ok (.difference _ page _ _) => some page
    | _ => none

/-- The failure that a step of an intake is: that the peers of a channel are not to be had
is none. -/
def failure? : Event → Option InvocationError
  | .stored _ (.error e) => some (.io e)
  | .resolved _ (.error e) => some e
  | .invoked (.getChannelDifference _) _ reply =>
    match reply.bind Response.asChannelDifference with
    | .error e => if isPeersUnavailable e then none else some e
    | .ok _ => none
  | _ => none

/-- The first failure of an intake. -/
def firstFailure (t : Trace) : Option InvocationError := t.findSome? failure?

/-- The requests for these completions, one for each channel that could be looked up. -/
def requestsFor (wants : List Completion)
    (found : List (Int64 × Except InvocationError InputPeer)) : List Request :=
  (wants.zip found).filterMap fun (c, r) =>
    r.2.toOption.map fun channel => .getChannelDifference (c.query channel)

/-- All users that a batch came with or that were received in completion of peers. -/
def usersOf (batch : Batch) (t : Trace) : List User :=
  batch.users ++ (completions t).flatMap (·.users)

/-- All chats, likewise. -/
def chatsOf (batch : Batch) (t : Trace) : List Chat :=
  batch.chats ++ (completions t).flatMap (·.chats)

/-- The peers that all updates of a batch travel with. -/
def peersOf (batch : Batch) (t : Trace) : Peers := Peers.ofLists (usersOf batch t) (chatsOf batch t)

/-- An intake of a batch that follows its answers. -/
structure BatchIntake (config : Config) (batch : Batch) (t : Trace)
    (result : Except InvocationError Unit) : Prop where
  /-- Every update is queued once and in order, and all with the same peers. -/
  queued : t.envelopes = batch.updates.map (⟨·, peersOf batch t⟩)
  /-- Of users with one id the last stands. -/
  user : ∀ id, (peersOf batch t).user? id = ((usersOf batch t).filter (·.id = id)).getLast?
  /-- Of chats with one id the last stands. -/
  chat : ∀ id, (peersOf batch t).chat? id = ((chatsOf batch t).filter (·.id = id)).getLast?
  /-- The channels of the messages to be completed are looked up. -/
  lookups : t.resolutions.map (·.1) =
    (wanted batch.hasMinPeers batch.updates).map Completion.scope
  /-- Nothing is asked for but what is missing about them. -/
  requests : t.invocations.map (·.1) =
    requestsFor (wanted batch.hasMinPeers batch.updates) t.resolutions
  written : t.writes.map (·.1) = positions config batch.date batch.updates
  /-- Of the records written for a scope with success the last stays, and nothing else
  becomes of a store. -/
  stored : ∀ (m : Records) (scope : Scope),
    (t.applyTo m).find? scope = (t.stored? scope).or (m.find? scope)
  result : result = match firstFailure t with
    | some e => .error e
    | none => .ok ()

/-! ## Work on a batch -/

variable {config : Config} {policy : RetryPolicy}

/-- What a part of the work on a batch comes to: these records written, these completions
asked for, and nothing queued. -/
structure Work (records : List StateRecord) (wants : List Completion) (p : Progress) (t : Trace)
    (p' : Progress) : Prop where
  envelopes : t.envelopes = []
  writes : t.writes.map (·.1) = records
  lookups : t.resolutions.map (·.1) = wants.map Completion.scope
  requests : t.invocations.map (·.1) = requestsFor wants t.resolutions
  peers : p'.peers = p.peers.extend ((completions t).flatMap (·.users))
    ((completions t).flatMap (·.chats))
  failure : p'.failure = p.failure.or (firstFailure t)

theorem Work.append {rs rs' : List StateRecord} {cs cs' : List Completion} {p q r : Progress}
    {t t' : Trace} (h : Work rs cs p t q) (h' : Work rs' cs' q t' r) :
    Work (rs ++ rs') (cs ++ cs') p (t ++ t') r := by
  constructor
  case envelopes => rw [Trace.envelopes_append, h.envelopes, h'.envelopes]; rfl
  case writes => rw [Trace.writes_append, List.map_append, h.writes, h'.writes]
  case lookups =>
    rw [Trace.resolutions_append, List.map_append, h.lookups, h'.lookups, List.map_append]
  case requests =>
    -- both lists are cut at the same place, as every completion was looked up once
    have hlength : cs.length = t.resolutions.length := by
      have hmap := congrArg List.length h.lookups
      rw [List.length_map, List.length_map] at hmap
      exact hmap.symm
    rw [Trace.invocations_append, List.map_append, h.requests, h'.requests,
      Trace.resolutions_append, requestsFor, requestsFor, requestsFor, List.zip_append hlength,
      List.filterMap_append]
  case peers =>
    rw [h'.peers, h.peers, Peers.extend_extend, ← List.flatMap_append, ← List.flatMap_append]
    simp only [completions, Trace.channelDifferences_append, List.filterMap_append]
  case failure =>
    rw [h'.failure, h.failure, Option.or_assoc, firstFailure, firstFailure, firstFailure,
      List.findSome?_append]

theorem Work.ofNotices (p : Progress) (ns : List Notice) : Work [] [] p (.ofNotices ns) p := by
  have hcompletions : completions (.ofNotices ns) = [] := by
    rw [completions, Trace.channelDifferences_ofNotices]
    rfl
  have hfailure : firstFailure (.ofNotices ns) = none := by
    rw [firstFailure, List.findSome?_eq_none_iff, Trace.ofNotices]
    simp [failure?]
  constructor
  case envelopes => exact Trace.envelopes_ofNotices ns
  case peers => rw [hcompletions]; rfl
  case failure => rw [hfailure, Option.or_none]
  all_goals simp [requestsFor]

theorem Work.idle (p : Progress) : Work [] [] p [] p := .ofNotices p []

/-- What is reported behind a part of the work does not change what it comes to. -/
theorem Work.reporting {rs : List StateRecord} {cs : List Completion} {p q : Progress} {t : Trace}
    (h : Work rs cs p t q) (ns : List Notice) : Work rs cs p (t ++ .ofNotices ns) q := by
  have hboth := h.append (.ofNotices q ns)
  rwa [List.append_nil, List.append_nil] at hboth

theorem Work.stored (r : StateRecord) (p : Progress) : Work [r] [] p [.stored r (.ok ())] p where
  envelopes := rfl
  writes := rfl
  lookups := rfl
  requests := rfl
  peers := rfl
  failure := Option.or_none.symm

theorem Work.notStored (r : StateRecord) (p : Progress) (e : IoError) :
    Work [r] [] p [.stored r (.error e)] (p.fail (.io e)) where
  envelopes := rfl
  writes := rfl
  lookups := rfl
  requests := rfl
  peers := rfl
  failure := rfl

/-! ## Peers fetched -/

/-- What the answer to the request for one message comes to. -/
def fetched : Except InvocationError ChannelDifference → Except InvocationError (Option Page)
  | .ok (.empty _ _ _) => .ok none
  | .ok (.tooLong _ page) | .ok (.difference _ page _ _) => .ok (some page)
  | .error e => if isPeersUnavailable e then .ok none else .error e

/-- The page that was fetched, if any. -/
def fetchedPages : Except InvocationError (Option Page) → List Page
  | .ok page => page.toList
  | .error _ => []

/-- The failure to fetch one, if any. -/
def fetchFailure : Except InvocationError (Option Page) → Option InvocationError
  | .ok _ => none
  | .error e => some e

/-- The progress once peers were fetched. -/
def Progress.after (p : Progress) : Except InvocationError (Option Page) → Progress
  | .ok (some page) => p.learn page
  | .ok none => p
  | .error e => p.fail e

theorem Work.lost (c : Completion) (p : Progress) (e : InvocationError) :
    Work [] [c] p [.resolved c.scope (.error e)] (p.after (.error e)) where
  envelopes := rfl
  writes := rfl
  lookups := rfl
  requests := rfl
  peers := rfl
  failure := rfl

theorem Work.asked (c : Completion) (p : Progress) (channel : InputPeer) (attempts : List Reply)
    (reply : Reply) :
    Work [] [c] p [.resolved c.scope (.ok channel),
      .invoked (.getChannelDifference (c.query channel)) attempts reply]
      (p.after (fetched (reply.bind Response.asChannelDifference))) := by
  -- of the answer only the page and the failure in it count
  have hpages : completions [.resolved c.scope (.ok channel),
      .invoked (.getChannelDifference (c.query channel)) attempts reply] =
      fetchedPages (fetched (reply.bind Response.asChannelDifference)) := by
    simp only [completions, Trace.channelDifferences, List.filterMap_cons,
      Event.channelDifference?, List.filterMap_nil]
    rcases reply.bind Response.asChannelDifference with e | (_ | _ | _)
    · cases hgone : isPeersUnavailable e <;> simp [fetched, fetchedPages, hgone]
    all_goals rfl
  have hfailure : firstFailure [.resolved c.scope (.ok channel),
      .invoked (.getChannelDifference (c.query channel)) attempts reply] =
      fetchFailure (fetched (reply.bind Response.asChannelDifference)) := by
    simp only [firstFailure, List.findSome?_cons, failure?, List.findSome?_nil]
    rcases reply.bind Response.asChannelDifference with e | (_ | _ | _)
    · cases hgone : isPeersUnavailable e <;> simp [fetched, fetchFailure, hgone]
    all_goals rfl
  constructor
  case envelopes => rfl
  case writes => rfl
  case lookups => rfl
  case requests => rfl
  case peers =>
    rw [hpages]
    rcases fetched (reply.bind Response.asChannelDifference) with e | (_ | page)
    · rfl
    · rfl
    · simp [fetchedPages, Progress.after, Progress.learn]
  case failure =>
    rw [hfailure]
    rcases fetched (reply.bind Response.asChannelDifference) with e | (_ | page)
    · rfl
    · exact Option.or_none.symm
    · exact Option.or_none.symm

theorem work_of_runs_fetchPeers {c : Completion} {t : Trace}
    {r : Except InvocationError (Option Page)}
    (h : Runs policy (fetchPeers c.channelId c.messageId c.pts c.ptsCount) t r) (p : Progress) :
    Work [] [c] p t (p.after r) := by
  unfold fetchPeers at h
  obtain ⟨t₁, found, t₂, rfl, hfind, hrest⟩ := runs_bind_iff.1 h
  obtain rfl := runs_resolvePeer_iff.1 hfind
  cases found with
  | error e =>
    obtain ⟨rfl, rfl⟩ := runs_pure_iff.1 hrest
    exact .lost c p e
  | ok channel =>
    obtain ⟨t₃, answer, t₄, rfl, hask, hrest⟩ := runs_bind_iff.1 hrest
    obtain ⟨attempts, reply, -, rfl, rfl⟩ := runs_invokeAs_iff.1 hask
    suffices hgo : t₄ = [] ∧ r = fetched (reply.bind Response.asChannelDifference) by
      obtain ⟨rfl, rfl⟩ := hgo
      exact .asked c p channel attempts reply
    generalize reply.bind Response.asChannelDifference = answer at hrest ⊢
    rcases answer with e | (_ | _ | _)
    all_goals exact runs_pure_iff.1 hrest

/-! ## The updates one after the other -/

theorem work_of_runs_storePosition {date : Int32} {update : Update} {p q : Progress} {t : Trace}
    (h : Runs policy (storePosition config date update p) t q) :
    Work (positions config date [update]) [] p t q := by
  unfold storePosition at h
  cases hinfo : update.ptsInfo? with
  | none =>
    rw [hinfo] at h
    obtain ⟨rfl, rfl⟩ := runs_pure_iff.1 h
    have hnone : positions config date [update] = [] := by simp [positions, position?, hinfo]
    rw [hnone]
    exact .idle q
  | some info =>
    rw [hinfo] at h
    by_cases hskip : config.skipUpdates
    · simp only [hskip, if_true] at h
      obtain ⟨rfl, rfl⟩ := runs_pure_iff.1 h
      have hnone : positions config date [update] = [] := by simp [positions, hskip]
      rw [hnone]
      exact .idle q
    · simp only [hskip] at h
      -- the position is written, and a write that fails is reported
      have hone : positions config date [update] =
          [⟨Scope.ofChannel? update.channelId?, info.pts, none, some date⟩] := by
        simp [positions, position?, hinfo, hskip]
      rw [hone]
      obtain ⟨t₁, answer, t₂, rfl, hstore, hrest⟩ := runs_bind_iff.1 h
      obtain rfl := runs_store_iff.1 hstore
      cases answer with
      | ok u =>
        obtain ⟨rfl, rfl⟩ := runs_pure_iff.1 hrest
        exact .stored _ q
      | error e =>
        obtain ⟨t₃, u, t₄, rfl, hnotify, hdone⟩ := runs_bind_iff.1 hrest
        obtain ⟨rfl, rfl⟩ := runs_pure_iff.1 hdone
        rw [runs_notify_iff.1 hnotify, List.append_nil]
        exact (Work.notStored _ p e).reporting _

theorem channelId?_newChannelMessage (message : Message) (pts ptsCount : Int32) :
    (Update.newChannelMessage message pts ptsCount).channelId? =
      message.peer?.bind Peer.channelId? :=
  Option.or_none

theorem work_of_runs_completePeers {hasMinPeers : Bool} {update : Update} {p q : Progress}
    {t : Trace} (h : Runs policy (completePeers hasMinPeers update p) t q) :
    Work [] (wanted hasMinPeers [update]) p t q := by
  unfold completePeers at h
  cases update
  case channelTooLong channelId pts =>
    obtain ⟨t₁, u, t₂, rfl, hnotify, hdone⟩ := runs_bind_iff.1 h
    obtain ⟨rfl, rfl⟩ := runs_pure_iff.1 hdone
    rw [wanted_singleton_of_none rfl, runs_notify_iff.1 hnotify, List.append_nil]
    exact .ofNotices q _
  case newChannelMessage message pts ptsCount =>
    simp only [channelId?_newChannelMessage] at h
    cases hchannel : message.peer?.bind Peer.channelId? with
    | none =>
      rw [hchannel] at h
      obtain ⟨rfl, rfl⟩ := runs_pure_iff.1 h
      rw [wanted_singleton_of_none (by simp [wanted?, hchannel])]
      exact .idle q
    | some channelId =>
      simp only [hchannel] at h
      by_cases hfetch : hasMinPeers && !message.isEmpty
      · simp only [hfetch, if_true] at h
        have hone : wanted hasMinPeers [.newChannelMessage message pts ptsCount] =
            [⟨channelId, message.id, pts, ptsCount⟩] := by
          simp_all [wanted, wanted?]
        rw [hone]
        obtain ⟨t₁, r, t₂, rfl, hpeers, hrest⟩ := runs_bind_iff.1 h
        have hwork := work_of_runs_fetchPeers (c := ⟨channelId, message.id, pts, ptsCount⟩) hpeers p
        rcases r with e | (_ | page)
        · obtain ⟨t₃, u, t₄, rfl, hnotify, hdone⟩ := runs_bind_iff.1 hrest
          obtain ⟨rfl, rfl⟩ := runs_pure_iff.1 hdone
          rw [runs_notify_iff.1 hnotify, List.append_nil]
          exact hwork.reporting _
        · obtain ⟨rfl, rfl⟩ := runs_pure_iff.1 hrest
          rw [List.append_nil]
          exact hwork
        · obtain ⟨rfl, rfl⟩ := runs_pure_iff.1 hrest
          rw [List.append_nil]
          exact hwork
      · simp only [hfetch] at h
        obtain ⟨rfl, rfl⟩ := runs_pure_iff.1 h
        have hnone : wanted hasMinPeers [.newChannelMessage message pts ptsCount] = [] := by
          simp_all [wanted, wanted?]
        rw [hnone]
        exact .idle q
  all_goals
    obtain ⟨rfl, rfl⟩ := runs_pure_iff.1 h
    rw [wanted_singleton_of_none rfl]
    exact .idle q

/-- Going through updates does for each of them what it asks for. -/
theorem work_of_runs_advance {batch : Batch} {updates : List Update} {p q : Progress} {t : Trace}
    (h : Runs policy (advance config batch updates p) t q) :
    Work (positions config batch.date updates) (wanted batch.hasMinPeers updates) p t q := by
  induction updates generalizing p t with
  | nil =>
    obtain ⟨rfl, rfl⟩ := runs_pure_iff.1 h
    have hwants : wanted batch.hasMinPeers [] = [] := by simp [wanted]
    have hrecords : positions config batch.date [] = [] := by simp [positions]
    rw [hwants, hrecords]
    exact .idle q
  | cons update rest ih =>
    rw [advance] at h
    obtain ⟨t₁, p₁, t₂, rfl, hstore, hrest⟩ := runs_bind_iff.1 h
    obtain ⟨t₃, p₂, t₄, rfl, hcomplete, hrest⟩ := runs_bind_iff.1 hrest
    -- the position first, then the peers, then all other updates
    have hone := (work_of_runs_storePosition hstore).append (work_of_runs_completePeers hcomplete)
    have hall := hone.append (ih hrest)
    rw [List.append_nil, List.nil_append, ← positions_append, ← wanted_append,
      List.append_assoc] at hall
    exact hall

/-! ## Whole batches -/

theorem completions_ofEnvelopes (t : Trace) (es : List Envelope) :
    completions (t ++ .ofEnvelopes es) = completions t := by
  rw [completions, Trace.channelDifferences_append, Trace.channelDifferences_ofEnvelopes,
    List.append_nil]
  rfl

theorem firstFailure_ofEnvelopes (t : Trace) (es : List Envelope) :
    firstFailure (t ++ .ofEnvelopes es) = firstFailure t := by
  have hnone : List.findSome? failure? (Trace.ofEnvelopes es) = none := by
    rw [List.findSome?_eq_none_iff, Trace.ofEnvelopes]
    simp [failure?]
  rw [firstFailure, List.findSome?_append, hnone, Option.or_none]
  rfl

theorem batchIntake_of_runs {batch : Batch} {t : Trace} {result : Except InvocationError Unit}
    (h : Runs policy (takeBatch config batch) t result) : BatchIntake config batch t result := by
  unfold takeBatch at h
  obtain ⟨t₁, p, t₂, rfl, hadvance, hrest⟩ := runs_bind_iff.1 h
  obtain ⟨t₃, u, t₄, rfl, hqueue, hdone⟩ := runs_bind_iff.1 hrest
  obtain ⟨rfl, rfl⟩ := runs_pure_iff.1 hdone
  obtain rfl := runs_enqueueAll_iff.1 hqueue
  have hwork := work_of_runs_advance hadvance
  have hpeers : p.peers = peersOf batch t₁ := by
    rw [hwork.peers, Peers.extend_ofLists]
    rfl
  rw [List.append_nil, hpeers]
  constructor
  case queued =>
    rw [Trace.envelopes_append, hwork.envelopes, Trace.envelopes_ofEnvelopes, List.nil_append,
      peersOf, peersOf, usersOf, usersOf, chatsOf, chatsOf, completions_ofEnvelopes]
  case user => exact Peers.user?_ofLists _ _
  case chat => exact Peers.chat?_ofLists _ _
  case lookups =>
    rw [Trace.resolutions_append, Trace.resolutions_ofEnvelopes, List.append_nil, hwork.lookups]
  case requests =>
    rw [Trace.invocations_append, Trace.invocations_ofEnvelopes, List.append_nil, hwork.requests,
      Trace.resolutions_append, Trace.resolutions_ofEnvelopes, List.append_nil]
  case written =>
    rw [Trace.writes_append, Trace.writes_ofEnvelopes, List.append_nil, hwork.writes]
  case stored => exact Trace.find?_applyTo _
  case result =>
    rw [firstFailure_ofEnvelopes, hwork.failure]
    rfl

/-- Whatever is pushed, that an update has been received is taken down first; what follows
depends on the kind of push. -/
theorem runs_take {push : Push} {t : Trace} {result : Except InvocationError Unit}
    (h : Runs policy (take config push) t result) :
    ∃ t', t = .touched :: t' ∧
      match push with
      | .updates batch | .combined batch => Runs policy (takeBatch config batch) t' result
      | .shortMessage short | .shortChatMessage short =>
        Runs policy (takeShortMessage config short) t' result
      | .short update _ => t' = Trace.ofEnvelopes [⟨update, Peers.none⟩] ∧ result = .ok ()
      | .tooLong => t' = Trace.ofNotices [.pushTooLong] ∧ result = .ok () := by
  cases h with
  | touch hrest =>
    refine ⟨_, rfl, ?_⟩
    cases push with
    | updates _ | combined _ | shortMessage _ | shortChatMessage _ => exact hrest
    | short update date =>
      cases hrest with
      | enqueue hdone => cases hdone; exact ⟨rfl, rfl⟩
    | tooLong =>
      cases hrest with
      | report hdone => cases hdone; exact ⟨rfl, rfl⟩

/-- That an update has been received changes nothing about the intake of a batch. -/
theorem BatchIntake.touched {batch : Batch} {t : Trace} {result : Except InvocationError Unit}
    (h : BatchIntake config batch t result) : BatchIntake config batch (.touched :: t) result where
  queued := h.queued
  user := h.user
  chat := h.chat
  lookups := h.lookups
  requests := h.requests
  written := h.written
  stored := h.stored
  result := h.result

/-- The intake of a batch, whichever way it was pushed, follows the answers it gets,
whatever server, store and retry policy it meets. -/
theorem take_batch_follows_answers (config : Config) (batch : Batch)
    (w : Surroundings config.retry) (past : Trace) :
    let pushed := w.run (take config (.updates batch)) past
    let combined := w.run (take config (.combined batch)) past
    BatchIntake config batch pushed.1 pushed.2 ∧ BatchIntake config batch combined.1 combined.2 := by
  have hruns := w.runs_run (takeBatch config batch) (past ++ [.touched])
  intro pushed combined
  constructor
  · exact (batchIntake_of_runs hruns).touched
  · exact (batchIntake_of_runs hruns).touched

end Intake

end UpdatePipeline
