import UpdatePipeline.Intake
import UpdatePipeline.Recovery
set_option autoImplicit false

/-!
# What programs ask of the server

The client's own programs, which take in pushes and catch up, ask the server for differences
and for nothing else, whatever they are answered (`Recovery.asks_recoverGaps`,
`Intake.take_eq_touch`).  A push is taken down as received before anything else is done about it,
and at no other point.  How many workers there are is nothing to them
(`Recovery.recoverGaps_workers`, `Intake.take_workers`).
-/

namespace UpdatePipeline

open Schema

/-- An invocation goes on with the request it began with. -/
theorem Invocation.request_of_onReply {policy : RetryPolicy} {i next : Invocation} {reply : Reply}
    {delay : Duration} {notice : Option Notice}
    (h : i.onReply policy reply = .retry delay notice next) : next.request = i.request := by
  cases reply with
  | ok response => cases h
  | error e =>
    unfold onReply at h
    cases hverdict : policy (i.failedAttempt e) with
    | giveUp =>
      simp only [hverdict] at h
      cases h
    | retryAfter delay' notice' =>
      simp only [hverdict] at h
      obtain ⟨-, -, rfl⟩ := Invocation.Next.retry.inj h
      rfl

namespace Program

variable {α β : Type} {Q : Request → Prop}

/-- All requests that a program invokes, whatever the answers, are such. -/
def Invokes (Q : Request → Prop) : Program α → Prop
  | .done _ => True
  | .invoke request next => Q request ∧ ∀ reply, (next reply).Invokes Q
  | .resolve _ next => ∀ answer, (next answer).Invokes Q
  | .listRecords next => ∀ answer, (next answer).Invokes Q
  | .storeRecord _ next => ∀ answer, (next answer).Invokes Q
  | .enqueue _ next => next.Invokes Q
  | .report _ next => next.Invokes Q
  | .touch next => next.Invokes Q

theorem Invokes.imp {Q' : Request → Prop} {p : Program α} (h : p.Invokes Q)
    (hQ : ∀ request, Q request → Q' request) : p.Invokes Q' := by
  induction p with
  | done result => trivial
  | invoke request next ih => exact ⟨hQ request h.1, fun reply => ih reply (h.2 reply)⟩
  | resolve peer next ih => exact fun answer => ih answer (h answer)
  | listRecords next ih => exact fun answer => ih answer (h answer)
  | storeRecord record next ih => exact fun answer => ih answer (h answer)
  | enqueue envelope next ih => exact ih h
  | report notice next ih => exact ih h
  | touch next ih => exact ih h

/-- All requests that a program invokes are such, and it takes down at no point that an update
has been received. -/
def Asks (Q : Request → Prop) : Program α → Prop
  | .done _ => True
  | .invoke request next => Q request ∧ ∀ reply, (next reply).Asks Q
  | .resolve _ next => ∀ answer, (next answer).Asks Q
  | .listRecords next => ∀ answer, (next answer).Asks Q
  | .storeRecord _ next => ∀ answer, (next answer).Asks Q
  | .enqueue _ next => next.Asks Q
  | .report _ next => next.Asks Q
  | .touch _ => False

theorem Asks.invokes {p : Program α} (h : p.Asks Q) : p.Invokes Q := by
  induction p with
  | done result => trivial
  | invoke request next ih => exact ⟨h.1, fun reply => ih reply (h.2 reply)⟩
  | resolve peer next ih => exact fun answer => ih answer (h answer)
  | listRecords next ih => exact fun answer => ih answer (h answer)
  | storeRecord record next ih => exact fun answer => ih answer (h answer)
  | enqueue envelope next ih => exact ih h
  | report notice next ih => exact ih h
  | touch next ih => exact absurd h id

theorem invokes_touched : touched.Invokes Q := trivial

theorem asks_pure (a : α) : (pure a : Program α).Asks Q := trivial

theorem Asks.bind {p : Program α} {f : α → Program β} (hp : p.Asks Q)
    (hf : ∀ a, (f a).Asks Q) : (p >>= f).Asks Q := by
  show (p.bind f).Asks Q
  induction p with
  | done result => exact hf result
  | invoke request next ih => exact ⟨hp.1, fun reply => ih reply (hp.2 reply)⟩
  | resolve peer next ih => exact fun answer => ih answer (hp answer)
  | listRecords next ih => exact fun answer => ih answer (hp answer)
  | storeRecord record next ih => exact fun answer => ih answer (hp answer)
  | enqueue envelope next ih => exact ih hp
  | report notice next ih => exact ih hp
  | touch next ih => exact absurd hp id

theorem asks_enqueueAll (envelopes : List Envelope) : (enqueueAll envelopes).Asks Q := by
  induction envelopes with
  | nil => trivial
  | cons e rest ih => exact ih

/-- Requests for what was missed. -/
def IsForDifference : Request → Prop
  | .getState => False
  | .getDifference _ => True
  | .getChannelDifference _ => True

theorem asks_getDifference (query : DifferenceQuery) :
    (getDifference query).Asks IsForDifference := ⟨trivial, fun _ => trivial⟩

theorem asks_getChannelDifference (query : ChannelDifferenceQuery) :
    (getChannelDifference query).Asks IsForDifference := ⟨trivial, fun _ => trivial⟩

theorem asks_resolvePeer (peer : Int64) : (resolvePeer peer).Asks Q := fun _ => trivial

theorem asks_store (record : StateRecord) : (store record).Asks Q := fun _ => trivial

theorem asks_records : records.Asks Q := fun _ => trivial

theorem asks_notify (notice : Notice) : (notify notice).Asks Q := trivial

end Program

open Program

/-! ## Catching up -/

namespace Recovery

theorem asks_accountStep (scope : Scope) (c : Cursor) :
    (accountStep scope c).Asks IsForDifference := by
  refine (asks_getDifference _).bind fun answer => ?_
  cases answer with
  | error e => exact asks_pure _
  | ok difference =>
    cases difference with
    | empty _ _ => exact asks_pure _
    | tooLong pts => exact (asks_notify _).bind fun _ => asks_pure _
    | difference page state => exact asks_pure _
    | slice page state =>
      dsimp only
      split
      · exact (asks_notify _).bind fun _ => asks_pure _
      · exact asks_pure _

theorem asks_channelStep (limit : Int32) (scope : Scope) (c : Cursor) :
    (channelStep limit scope c).Asks IsForDifference := by
  refine (asks_resolvePeer _).bind fun resolved => ?_
  rcases resolved with e | channel
  · exact asks_pure _
  · refine (asks_getChannelDifference _).bind fun answer => ?_
    cases answer with
    | error e => exact asks_pure _
    | ok difference =>
      cases difference with
      | empty _ _ _ => exact asks_pure _
      | tooLong dialogPts _ => exact (asks_notify _).bind fun _ => asks_pure _
      | difference pts page _ _ => exact asks_pure _

theorem asks_step (limit : Int32) (scope : Scope) (c : Cursor) :
    (step limit scope c).Asks IsForDifference := by
  unfold step
  split
  · exact asks_channelStep limit scope c
  · exact asks_accountStep scope c

theorem asks_fetchPages (config : Config) (scope : Scope) (left : Nat) (c : Cursor)
    (stats : Stats) : (fetchPages config scope left c stats).Asks IsForDifference := by
  induction left generalizing c stats with
  | zero => exact (asks_notify _).bind fun _ => asks_pure _
  | succ left ih =>
    refine (asks_step _ scope c).bind fun outcome => ?_
    obtain ⟨answer, c'⟩ := outcome
    cases answer with
    | error e => exact (asks_notify _).bind fun _ => asks_pure _
    | ok step =>
      cases step with
      | more page => exact (asks_enqueueAll _).bind fun _ => ih c' _
      | last page => exact (asks_enqueueAll _).bind fun _ => asks_pure _
      | stop => exact asks_pure _

theorem asks_recoverScope (config : Config) (record : StateRecord) (stats : Stats) :
    (recoverScope config record stats).Asks IsForDifference := by
  refine (asks_fetchPages config _ _ _ stats).bind fun fetched => ?_
  refine (asks_store _).bind fun answer => ?_
  cases answer with
  | error e => exact asks_pure _
  | ok _ => exact asks_pure _

theorem asks_recoverScopes (config : Config) (records : List StateRecord) (stats : Stats) :
    (recoverScopes config records stats).Asks IsForDifference := by
  induction records generalizing stats with
  | nil => exact asks_pure _
  | cons record rest ih =>
    refine (asks_recoverScope config record stats).bind fun answer => ?_
    cases answer with
    | error e => exact asks_pure _
    | ok stats' => exact ih stats'

/-- Catching up asks for differences only. -/
theorem asks_recoverGaps (config : Config) :
    (recoverGaps config).Asks IsForDifference := by
  refine asks_records.bind fun listed => ?_
  cases listed with
  | error e => exact asks_pure _
  | ok records =>
    cases records with
    | nil => exact (asks_notify _).bind fun _ => asks_pure _
    | cons record rest =>
      refine (asks_recoverScopes config _ {}).bind fun answer => ?_
      cases answer with
      | error e => exact asks_pure _
      | ok stats => exact (asks_notify _).bind fun _ => asks_pure _

theorem invokes_recoverGaps (config : Config) : (recoverGaps config).Invokes IsForDifference :=
  (asks_recoverGaps config).invokes

end Recovery

/-! ## Taking in pushes -/

namespace Intake

theorem asks_storePosition (config : Config) (date : Int32) (update : Update) (p : Progress) :
    (storePosition config date update p).Asks IsForDifference := by
  unfold storePosition
  split
  · exact asks_pure _
  · split
    · exact asks_pure _
    · refine (asks_store _).bind fun answer => ?_
      cases answer with
      | ok _ => exact asks_pure _
      | error e => exact (asks_notify _).bind fun _ => asks_pure _

theorem asks_fetchPeers (channelId : Int64) (messageId pts ptsCount : Int32) :
    (fetchPeers channelId messageId pts ptsCount).Asks IsForDifference := by
  refine (asks_resolvePeer _).bind fun resolved => ?_
  rcases resolved with e | channel
  · exact asks_pure _
  · refine (asks_getChannelDifference _).bind fun answer => ?_
    cases answer with
    | error e =>
      dsimp only
      split
      · exact asks_pure _
      · exact asks_pure _
    | ok difference =>
      cases difference with
      | empty _ _ _ => exact asks_pure _
      | tooLong _ page => exact asks_pure _
      | difference _ page _ _ => exact asks_pure _

theorem asks_completePeers (hasMinPeers : Bool) (update : Update) (p : Progress) :
    (completePeers hasMinPeers update p).Asks IsForDifference := by
  unfold completePeers
  split
  · exact (asks_notify _).bind fun _ => asks_pure _
  · split
    · exact asks_pure _
    · split
      · refine (asks_fetchPeers _ _ _ _).bind fun answer => ?_
        cases answer with
        | error e => exact (asks_notify _).bind fun _ => asks_pure _
        | ok fetched =>
          cases fetched with
          | none => exact asks_pure _
          | some page => exact asks_pure _
      · exact asks_pure _
  · exact asks_pure _

theorem asks_advance (config : Config) (batch : Batch) (updates : List Update) (p : Progress) :
    (advance config batch updates p).Asks IsForDifference := by
  induction updates generalizing p with
  | nil => exact asks_pure _
  | cons update rest ih =>
    refine (asks_storePosition config _ update p).bind fun p' => ?_
    exact (asks_completePeers _ update p').bind fun p'' => ih p''

theorem asks_takeBatch (config : Config) (batch : Batch) :
    (takeBatch config batch).Asks IsForDifference :=
  (asks_advance config batch _ _).bind fun _ =>
    (asks_enqueueAll _).bind fun _ => asks_pure _

theorem asks_complete (short : ShortMessage) : (complete short).Asks IsForDifference := by
  refine (asks_getDifference _).bind fun answer => ?_
  cases answer with
  | error e => exact asks_pure _
  | ok difference =>
    cases difference with
    | empty _ _ => exact asks_pure _
    | tooLong _ => exact asks_pure _
    | difference page _ => exact (asks_enqueueAll _).bind fun _ => asks_pure _
    | slice page _ => exact (asks_enqueueAll _).bind fun _ => asks_pure _

theorem asks_takeShortMessage (config : Config) (short : ShortMessage) :
    (takeShortMessage config short).Asks IsForDifference := by
  unfold takeShortMessage
  split
  · exact asks_complete short
  · refine (asks_store _).bind fun answer => ?_
    cases answer with
    | error e => exact asks_pure _
    | ok _ => exact asks_complete short

/-- Taking in a push takes that down first, and then asks for differences only. -/
theorem take_eq_touch (config : Config) (push : Push) :
    ∃ rest, take config push = .touch rest ∧ rest.Asks IsForDifference := by
  refine ⟨_, rfl, ?_⟩
  cases push with
  | updates batch => exact asks_takeBatch config batch
  | combined batch => exact asks_takeBatch config batch
  | shortMessage short => exact asks_takeShortMessage config short
  | shortChatMessage short => exact asks_takeShortMessage config short
  | short update _ => exact (asks_enqueueAll _).bind fun _ => asks_pure _
  | tooLong => exact (asks_notify _).bind fun _ => asks_pure _

theorem invokes_take (config : Config) (push : Push) :
    (take config push).Invokes IsForDifference := by
  obtain ⟨rest, htake, hrest⟩ := take_eq_touch config push
  rw [htake]
  exact hrest.invokes

end Intake

/-! ## The number of workers -/

namespace Recovery

variable (config : Config) (workers : Nat)

theorem fetchPages_workers (scope : Scope) (left : Nat) (c : Cursor) (stats : Stats) :
    fetchPages { config with workers } scope left c stats =
      fetchPages config scope left c stats := by
  induction left generalizing c stats with
  | zero => rfl
  | succ left ih =>
    unfold fetchPages
    simp only [ih]

theorem recoverScopes_workers (records : List StateRecord) (stats : Stats) :
    recoverScopes { config with workers } records stats = recoverScopes config records stats := by
  induction records generalizing stats with
  | nil => rfl
  | cons record rest ih =>
    unfold recoverScopes recoverScope
    simp only [fetchPages_workers, ih]

theorem recoverGaps_workers : recoverGaps { config with workers } = recoverGaps config := by
  unfold recoverGaps
  simp only [recoverScopes_workers]

end Recovery

namespace Intake

variable (config : Config) (workers : Nat)

theorem advance_workers (batch : Batch) (updates : List Update) (p : Progress) :
    advance { config with workers } batch updates p = advance config batch updates p := by
  induction updates generalizing p with
  | nil => rfl
  | cons update rest ih =>
    unfold advance
    simp only [ih]
    rfl

theorem take_workers (push : Push) : take { config with workers } push = take config push := by
  unfold take takeBatch takeShortMessage
  simp only [advance_workers]

end Intake

end UpdatePipeline
