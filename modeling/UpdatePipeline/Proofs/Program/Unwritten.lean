import UpdatePipeline.Proofs.Program.Trace
import UpdatePipeline.Intake
set_option autoImplicit false

/-!
# Programs without their writes

A program may be had without its writes: it then takes every one of them to have succeeded
and is otherwise the same (`Program.Unwritten`).  This is all that becomes of the intake of a
push if positions are not kept (`Intake.unwritten_take`).
-/

namespace UpdatePipeline

open Schema

namespace Program

variable {α β : Type}

/-- The second program is the first without its writes, as if they had all succeeded.  There
is none for a program that lists the store. -/
inductive Unwritten : Program α → Program α → Prop where
  | done (a : α) : Unwritten (.done a) (.done a)
  | invoke {request : Request} {next next' : Reply → Program α} :
      (∀ reply, Unwritten (next reply) (next' reply)) →
      Unwritten (.invoke request next) (.invoke request next')
  | resolve {peer : Int64} {next next' : Except InvocationError InputPeer → Program α} :
      (∀ answer, Unwritten (next answer) (next' answer)) →
      Unwritten (.resolve peer next) (.resolve peer next')
  | storeRecord {record : StateRecord} {next : Except IoError Unit → Program α} {q : Program α} :
      Unwritten (next (.ok ())) q → Unwritten (.storeRecord record next) q
  | enqueue {envelope : Envelope} {p q : Program α} :
      Unwritten p q → Unwritten (.enqueue envelope p) (.enqueue envelope q)
  | report {notice : Notice} {p q : Program α} :
      Unwritten p q → Unwritten (.report notice p) (.report notice q)
  | touch {p q : Program α} : Unwritten p q → Unwritten (.touch p) (.touch q)

theorem unwritten_pure (a : α) : Unwritten (pure a : Program α) (pure a) := .done a

theorem Unwritten.bind {p q : Program α} {f g : α → Program β} (h : Unwritten p q)
    (hfg : ∀ a, Unwritten (f a) (g a)) : Unwritten (p >>= f) (q >>= g) := by
  show Unwritten (p.bind f) (q.bind g)
  induction h with
  | done a => exact hfg a
  | invoke _ ih => exact .invoke ih
  | resolve _ ih => exact .resolve ih
  | storeRecord _ ih => exact .storeRecord ih
  | enqueue _ ih => exact .enqueue ih
  | report _ ih => exact .report ih
  | touch _ ih => exact .touch ih

/-- A write is left out, and what comes after it goes on from its success. -/
theorem unwritten_store_bind {record : StateRecord} {f : Except IoError Unit → Program β}
    {q : Program β} (h : Unwritten (f (.ok ())) q) : Unwritten (store record >>= f) q :=
  .storeRecord h

theorem unwritten_getDifference (query : DifferenceQuery) :
    Unwritten (getDifference query) (getDifference query) := .invoke fun _ => .done _

theorem unwritten_getChannelDifference (query : ChannelDifferenceQuery) :
    Unwritten (getChannelDifference query) (getChannelDifference query) := .invoke fun _ => .done _

theorem unwritten_resolvePeer (peer : Int64) : Unwritten (resolvePeer peer) (resolvePeer peer) :=
  .resolve fun _ => .done _

theorem unwritten_notify (notice : Notice) : Unwritten (notify notice) (notify notice) :=
  .report (.done ())

theorem unwritten_touched : Unwritten touched touched := .touch (.done ())

theorem unwritten_enqueueAll (envelopes : List Envelope) :
    Unwritten (enqueueAll envelopes) (enqueueAll envelopes) := by
  induction envelopes with
  | nil => exact .done ()
  | cons e rest ih => exact .enqueue ih

end Program

/-- The configuration under which positions are not kept. -/
def Config.skipping (config : Config) : Config := { config with skipUpdates := true }

/-! ## The intake of pushes -/

open Program

namespace Intake

theorem unwritten_storePosition (config : Config) (date : Int32) (update : Update) (p : Progress) :
    Unwritten (storePosition config date update p)
      (storePosition config.skipping date update p) := by
  unfold storePosition
  cases update.ptsInfo? with
  | none => exact unwritten_pure p
  | some info =>
    dsimp only [Config.skipping]
    split
    · exact unwritten_pure p
    · exact unwritten_store_bind (unwritten_pure p)

theorem unwritten_fetchPeers (channelId : Int64) (messageId pts ptsCount : Int32) :
    Unwritten (fetchPeers channelId messageId pts ptsCount)
      (fetchPeers channelId messageId pts ptsCount) := by
  refine (unwritten_resolvePeer _).bind fun resolved => ?_
  cases resolved with
  | error e => exact unwritten_pure _
  | ok channel =>
    refine (unwritten_getChannelDifference _).bind fun answer => ?_
    rcases answer with e | (_ | _ | _)
    all_goals exact unwritten_pure _

theorem unwritten_completePeers (hasMinPeers : Bool) (update : Update) (p : Progress) :
    Unwritten (completePeers hasMinPeers update p) (completePeers hasMinPeers update p) := by
  unfold completePeers
  split
  · exact (unwritten_notify _).bind fun _ => unwritten_pure p
  · split
    · exact unwritten_pure p
    · split
      · refine (unwritten_fetchPeers _ _ _ _).bind fun fetched => ?_
        rcases fetched with e | (_ | page)
        · exact (unwritten_notify _).bind fun _ => unwritten_pure _
        · exact unwritten_pure _
        · exact unwritten_pure _
      · exact unwritten_pure p
  · exact unwritten_pure p

theorem unwritten_advance (config : Config) (batch : Batch) (updates : List Update)
    (p : Progress) :
    Unwritten (advance config batch updates p) (advance config.skipping batch updates p) := by
  induction updates generalizing p with
  | nil => exact unwritten_pure p
  | cons update rest ih =>
    refine (unwritten_storePosition config batch.date update p).bind fun p' => ?_
    exact (unwritten_completePeers _ update p').bind ih

theorem unwritten_takeBatch (config : Config) (batch : Batch) :
    Unwritten (takeBatch config batch) (takeBatch config.skipping batch) := by
  refine (unwritten_advance config batch _ _).bind fun p => ?_
  exact (unwritten_enqueueAll _).bind fun _ => unwritten_pure _

theorem unwritten_complete (short : ShortMessage) : Unwritten (complete short) (complete short) := by
  refine (unwritten_getDifference _).bind fun answer => ?_
  rcases answer with e | (_ | ⟨page, _⟩ | ⟨page, _⟩ | _)
  · exact unwritten_pure _
  · exact unwritten_pure _
  · exact (unwritten_enqueueAll _).bind fun _ => unwritten_pure _
  · exact (unwritten_enqueueAll _).bind fun _ => unwritten_pure _
  · exact unwritten_pure _

theorem unwritten_takeShortMessage (config : Config) (short : ShortMessage) :
    Unwritten (takeShortMessage config short) (takeShortMessage config.skipping short) := by
  unfold takeShortMessage
  dsimp only [Config.skipping]
  split
  · exact unwritten_complete short
  · exact unwritten_store_bind (unwritten_complete short)

/-- If positions are not kept a push is taken in without writes, and otherwise as if all of them
had succeeded. -/
theorem unwritten_take (config : Config) (push : Push) :
    Unwritten (take config push) (take config.skipping push) := by
  refine unwritten_touched.bind fun _ => ?_
  cases push with
  | updates batch => exact unwritten_takeBatch config batch
  | combined batch => exact unwritten_takeBatch config batch
  | shortMessage short => exact unwritten_takeShortMessage config short
  | shortChatMessage short => exact unwritten_takeShortMessage config short
  | short update date => exact (unwritten_enqueueAll _).bind fun _ => unwritten_pure _
  | tooLong => exact (unwritten_notify _).bind fun _ => unwritten_pure _

end Intake

end UpdatePipeline
